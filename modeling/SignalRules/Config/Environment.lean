import SignalRules.Config.Setting
import SignalRules.Text.Blank
import SignalRules.Toml.Text

set_option autoImplicit false

namespace SignalRules.Config.Environment

abbrev Variables := List (String × String)

def isSpace (c : Char) : Bool := c == ' ' || c == '\t' || c == '\n' || c == '\r' || c == '\x0c'
def skip (s : List Char) : List Char := s.dropWhile isSpace

def isSeparator (c : Char) : Bool := ",[]\x7b\x7d".contains c

def word (s : List Char) : Setting :=
  let s := Text.trim s
  let digits := if s.head? == some '+' || s.head? == some '-' then s.drop 1 else s
  let isInteger := (Decimal.numberInBase? 10 digits).any (· < if s.head? == some '-' then 9223372036854775809 else 18446744073709551616)
  if isInteger || (s.contains '.' && (Binary64.ofText? s).isSome) then .other else .text (String.ofList s)

mutual
def value (fuel : Nat) (s : List Char) : Option (Setting × List Char) :=
  match fuel with
  | 0 => none
  | fuel + 1 =>
    let s := skip s
    let found : Option (Setting × List Char) :=
      if "true".toList.isPrefixOf s then some (.flag true, s.drop 4)
      else if "false".toList.isPrefixOf s then some (.flag false, s.drop 5)
      else
        match s with
        | '\x7b' :: rest => (fields fuel rest).map fun (entries, rest) => (Setting.ofPairs entries, rest)
        | '[' :: rest => (items fuel rest).map fun rest => (.other, rest)
        | '"' :: rest => (Toml.basic (rest.length + 1) rest).map fun (text, rest) => (.text (String.ofList text), rest)
        | '\x27' :: rest =>
          match rest with
          | c :: '\x27' :: rest => some (.text (String.singleton c), rest)
          | _ => none
        | _ => some (word (s.takeWhile (!isSeparator ·)), s.dropWhile (!isSeparator ·))
    found.map fun (setting, rest) => (setting, skip rest)

def items (fuel : Nat) (s : List Char) : Option (List Char) :=
  match fuel, s with
  | 0, _ => none
  | _, ']' :: rest => some rest
  | fuel + 1, s =>
    match value fuel s with
    | some (_, ',' :: rest) => items fuel rest
    | some (_, ']' :: rest) => some rest
    | _ => none

def fields (fuel : Nat) (s : List Char) : Option (List (String × Setting) × List Char) :=
  match fuel, s with
  | 0, _ => none
  | _, '\x7d' :: rest => some ([], rest)
  | fuel + 1, s =>
    match Toml.simpleKey? (skip s) with
    | none => none
    | some (name, rest) =>
      match skip rest with
      | '=' :: rest =>
        match value fuel rest with
        | some (setting, ',' :: rest) => (fields fuel rest).map fun (entries, rest) => ((name, setting) :: entries, rest)
        | some (setting, '\x7d' :: rest) => some ([(name, setting)], rest)
        | _ => none
      | _ => none
end

def readValue (text : String) : Setting :=
  match value (text.length + 2) text.toList with
  | some (setting, []) => setting
  | _ => .text text

def splitNames (s : String) : List String := (s.splitOn "__").flatMap (·.splitOn ".")

def names? (stem : String) (variableName : String) : Option (List String) :=
  let name := (Text.trim variableName.toList).map Char.toLower
  if stem.toList.isPrefixOf name then
    let names := splitNames (String.ofList (name.drop stem.length))
    if names.contains "" then none else some names
  else none

def settings (stem : String) (environment : Variables) : Setting :=
  environment.foldl
    (fun base (name, text) => (names? stem name).elim base fun names => base.overlay ((readValue text).nest names))
    (.table [])

end SignalRules.Config.Environment
