import SignalRules.Text.Utf8

set_option autoImplicit false

namespace SignalRules

inductive FileNode where
  | file (bytes : List UInt8)
  | directory
deriving DecidableEq, Repr

inductive FileError where
  | missing
  | notDirectory
  | isDirectory
  | alreadyExists
  | notText
  | other (message : String)
deriving DecidableEq, Repr

def FileError.message : FileError → String
  | missing => "No such file or directory (os error 2)"
  | notDirectory => "Not a directory (os error 20)"
  | isDirectory => "Is a directory (os error 21)"
  | alreadyExists => "File exists (os error 17)"
  | notText => "stream did not contain valid UTF-8"
  | other message => message

namespace Path

def names (path : String) : List String := (path.splitOn "/").filter fun name => name != "" && name != "."

def wantsDirectory (path : String) : Bool := ["", "."].contains ((path.splitOn "/").getLast?.getD "")

def fileName? (path : String) : Option String :=
  match (names path).getLast? with
  | some ".." => none
  | name => name

def extension? (path : String) : Option String :=
  (fileName? path).bind fun name =>
    match (name.splitOn ".").reverse with
    | [] | [_] => none
    | [_, ""] => none
    | last :: _ => some last

end Path

structure Files where
  resolve : String → Except FileError FileNode
  makeDirectory : String → Except FileError Unit

namespace Files

def contains (f : Files) (path : String) : Bool := (f.resolve path).toBool

def read (f : Files) (path : String) : Except FileError (List UInt8) :=
  match f.resolve path with
  | .error e => .error e
  | .ok .directory => .error .isDirectory
  | .ok (.file bytes) => .ok bytes

def readText (f : Files) (path : String) : Except FileError String :=
  match f.read path with
  | .error e => .error e
  | .ok bytes =>
    match Text.Utf8.decode bytes with
    | .error _ => .error .notText
    | .ok cs => .ok (String.ofList cs)

end Files

structure FileTree where
  entries : List (List String × FileNode)

namespace FileTree

-- Files by path. A path with a slash at its end is an empty directory.
def ofList (entries : List (String × List UInt8)) : FileTree :=
  ⟨entries.map fun (path, bytes) => (Path.names path, if Path.wantsDirectory path then .directory else .file bytes)⟩

def find? (t : FileTree) (place : List String) : Option FileNode :=
  if place.isEmpty then some .directory
  else
    match t.entries.lookup place with
    | some node => some node
    | none => if t.entries.any fun entry => place.isPrefixOf entry.1 then some .directory else none

def walk (t : FileTree) (place : List String) : List String → Except FileError FileNode
  | [] => (t.find? place).elim (.error .missing) .ok
  | name :: rest =>
    match t.find? place with
    | none => .error .missing
    | some (.file _) => .error .notDirectory
    | some .directory => t.walk (if name = ".." then place.dropLast else place ++ [name]) rest

def resolve (t : FileTree) (path : String) : Except FileError FileNode :=
  if path.isEmpty || path.startsWith "/" then .error .missing
  else
    match t.walk [] (Path.names path) with
    | .ok (.file bytes) => if Path.wantsDirectory path then .error .notDirectory else .ok (.file bytes)
    | found => found

def makeDirectory (t : FileTree) (path : String) : Except FileError Unit :=
  if path.startsWith "/" then .ok ()
  else
    match t.walk [] (Path.names path) with
    | .ok (.file _) => .error .alreadyExists
    | .error .notDirectory => .error .notDirectory
    | _ => .ok ()

def files (t : FileTree) : Files := ⟨t.resolve, t.makeDirectory⟩

end FileTree
end SignalRules
