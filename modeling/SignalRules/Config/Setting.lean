import SignalRules.Json.Reader
import SignalRules.Yaml.Reader

set_option autoImplicit false

namespace SignalRules.Config

-- Numbers and lists are no setting that this program has, so nothing is kept of them.
inductive Setting where
  | text (s : String)
  | flag (b : Bool)
  | nothing
  | other
  | table (entries : List (String × Setting))
deriving Inhabited

namespace Setting

def put (name : String) (s : Setting) : List (String × Setting) → List (String × Setting)
  | [] => [(name, s)]
  | (key, old) :: rest => if key = name then (name, s) :: rest else (key, old) :: put name s rest

def ofPairs (pairs : List (String × Setting)) : Setting := table (pairs.foldl (fun entries (name, s) => put name s entries) [])

def entries : Setting → List (String × Setting)
  | table entries => entries
  | _ => []

mutual
def overlay (base : Setting) : Setting → Setting
  | table entries => table (overlayEntries base.entries entries)
  | s => s

def overlayEntries (base : List (String × Setting)) : List (String × Setting) → List (String × Setting)
  | [] => base
  | (name, s) :: rest => overlayEntries (put name (overlay ((base.lookup name).getD nothing) s) base) rest
end

def nest (s : Setting) : List String → Setting
  | [] => s
  | name :: rest => table [(name, nest s rest)]

mutual
def ofJson : Json → Setting
  | .null => nothing
  | .bool b => flag b
  | .number _ => other
  | .string s => text s
  | .array _ => other
  | .object fields => ofPairs (ofFields fields)

def ofFields : List (String × Json) → List (String × Setting)
  | [] => []
  | (name, value) :: rest => (name, ofJson value) :: ofFields rest
end

def ofDatum : Yaml.Datum → Setting
  | .null => nothing
  | .bool b => flag b
  | .text s => .text s
  | _ => other

open Yaml (Document Node Read)

def ofNode (d : Document) (depth : Nat) (n : Node) : Read Setting := do
  match ← d.follow n, depth with
  | .scalar tag isPlain s, _ =>
    if (Document.ownTag? tag).isSome then failure
    let datum ← (Yaml.Datum.ofScalar? tag isPlain s : Option Yaml.Datum)
    return ofDatum datum
  | .sequence tag items, depth + 1 =>
    if (Document.ownTag? tag).isSome then failure
    let _ ← items.mapM (ofNode d depth)
    return other
  | .mapping tag entries, depth + 1 =>
    if (Document.ownTag? tag).isSome then failure
    return ofPairs (← entries.mapM fun (key, value) => return (← d.text key, ← ofNode d depth value))
  | _, _ => failure

def ofJsonText? (s : String) : Option Setting :=
  match Json.ofText? s with
  | some (.object fields) => some (ofJson (.object fields))
  | _ => none

def ofYamlText? (s : String) : Option Setting :=
  (Document.ofText? s).bind fun d =>
    match d.root with
    | none => some (table [])
    | some root =>
      let read : Read Setting := do
        return ofPairs (← (← d.entries root).mapM fun (name, value) => return (name, ← ofNode d (Document.maxDepth - 1) value))
      read.run' 0

end Setting
end SignalRules.Config
