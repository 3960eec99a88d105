import SignalRules.Config.Setting
import SignalRules.Toml.Text

set_option autoImplicit false

namespace SignalRules.Toml
open Config (Setting)

def skipLines (comment : Bool) : List Char → List Char
  | [] => []
  | c :: rest =>
    if c == '\n' then skipLines false rest
    else if comment || isSpace c || c == '\r' then skipLines comment rest
    else if c == '#' then skipLines true rest
    else c :: rest

def isBareChar (c : Char) : Bool := isKeyChar c || c == '+' || c == '.' || c == ':'

def bare? (s : List Char) : Option (Setting × List Char) :=
  let word := s.takeWhile isBareChar
  let rest := s.dropWhile isBareChar
  let (word, rest) := match rest with
    | ' ' :: d :: more =>
      if hasShape "0000-00-00" word && Decimal.isDigit d then
        (word ++ ' ' :: (d :: more).takeWhile isBareChar, (d :: more).dropWhile isBareChar)
      else (word, rest)
    | _ => (word, rest)
  match String.ofList word with
  | "true" => some (.flag true, rest)
  | "false" => some (.flag false, rest)
  | _ => if isInteger word || isFloat word || isDateTime word then some (.other, rest) else none

def define (names : List String) (s : Setting) (entries : List (String × Setting)) : Option (List (String × Setting)) :=
  match names with
  | [] => none
  | [name] => if (entries.lookup name).isSome then none else some (Setting.put name s entries)
  | name :: rest =>
    match entries.lookup name with
    | none => (define rest s []).map fun inner => Setting.put name (.table inner) entries
    | some (.table inner) => (define rest s inner).map fun inner => Setting.put name (.table inner) entries
    | some _ => none

def isTablePath (names : List String) (entries : List (String × Setting)) : Bool :=
  match names with
  | [] => true
  | name :: rest =>
    match entries.lookup name with
    | none => true
    | some (.table inner) => isTablePath rest inner
    | some _ => false

mutual
def value (fuel : Nat) (s : List Char) : Option (Setting × List Char) :=
  match fuel with
  | 0 => none
  | fuel + 1 =>
    match s with
    | '"' :: rest => (string? '"' rest).map fun (text, rest) => (.text (String.ofList text), rest)
    | '\x27' :: rest => (string? '\x27' rest).map fun (text, rest) => (.text (String.ofList text), rest)
    | '[' :: rest => (items fuel (skipLines false rest)).map fun rest => (.other, rest)
    | '\x7b' :: rest =>
      match skip rest with
      | '\x7d' :: rest => some (.table [], rest)
      | rest => (pairs fuel [] rest).map fun (entries, rest) => (.table entries, rest)
    | _ => bare? s

def items (fuel : Nat) (s : List Char) : Option (List Char) :=
  match fuel, s with
  | 0, _ => none
  | _, ']' :: rest => some rest
  | fuel + 1, s =>
    match value fuel s with
    | none => none
    | some (_, rest) =>
      match skipLines false rest with
      | ',' :: rest => items fuel (skipLines false rest)
      | ']' :: rest => some rest
      | _ => none

def pairs (fuel : Nat) (entries : List (String × Setting)) (s : List Char) : Option (List (String × Setting) × List Char) :=
  match fuel with
  | 0 => none
  | fuel + 1 =>
    match pair fuel s with
    | none => none
    | some (names, found, rest) =>
      match define names found entries with
      | none => none
      | some entries =>
        match skip rest with
        | ',' :: rest => pairs fuel entries rest
        | '\x7d' :: rest => some (entries, rest)
        | _ => none

def pair (fuel : Nat) (s : List Char) : Option (List String × Setting × List Char) :=
  match fuel with
  | 0 => none
  | fuel + 1 =>
    match key fuel s with
    | some (names, '=' :: rest) => (value fuel (skip rest)).map fun (found, rest) => (names, found, rest)
    | _ => none
end

-- A document that is read so far. `here` is the open table, `lists` are the lists of tables, and `closed` are the
-- tables that no header may open again.
structure Tables where
  entries : List (String × Setting)
  here : List String
  lists : List (List String)
  closed : List (List String)

namespace Tables

def inList (t : Tables) (names : List String) : Bool := t.lists.any (·.isPrefixOf names)

def dotted (here : List String) (names : List String) : List (List String) :=
  ((List.range names.length).drop 1).map fun n => here ++ names.take n

def addPair (t : Tables) (names : List String) (s : Setting) : Option Tables :=
  if t.inList t.here then some t
  else (define (t.here ++ names) s t.entries).map fun entries => { t with entries, closed := dotted t.here names ++ t.closed }

def openTable (t : Tables) (names : List String) : Option Tables :=
  if t.lists.contains names then none
  else if t.inList names then some { t with here := names }
  else if t.closed.contains names || !isTablePath names t.entries then none
  else
    let entries := (Setting.overlay (.table t.entries) (Setting.nest (.table []) names)).entries
    some { t with entries, here := names, closed := names :: t.closed }

def openList (t : Tables) (names : List String) : Option Tables :=
  if t.inList names then some { t with here := names }
  else (define names .other t.entries).map fun entries => { t with entries, here := names, lists := names :: t.lists }

def lineEnd? (s : List Char) : Option (List Char) :=
  let s := skip s
  match if s.head? == some '#' then s.dropWhile (· != '\n') else s with
  | [] => some []
  | '\n' :: rest | '\r' :: '\n' :: rest => some rest
  | _ => none

def line (t : Tables) (fuel : Nat) (s : List Char) : Option (Tables × List Char) :=
  match s with
  | '[' :: '[' :: rest =>
    match key fuel rest with
    | some (names, ']' :: ']' :: rest) => (t.openList names).map (·, rest)
    | _ => none
  | '[' :: rest =>
    match key fuel rest with
    | some (names, ']' :: rest) => (t.openTable names).map (·, rest)
    | _ => none
  | _ => (pair fuel s).bind fun (names, found, rest) => (t.addPair names found).map (·, rest)

def run (fuel : Nat) (t : Tables) (s : List Char) : Option (List (String × Setting)) :=
  match fuel with
  | 0 => none
  | fuel + 1 =>
    match skipLines false s with
    | [] => some t.entries
    | s =>
      match t.line (2 * s.length + 2) s with
      | none => none
      | some (t, rest) => (lineEnd? rest).bind (run fuel t)

end Tables

def ofText? (text : String) : Option Setting :=
  let s := text.toList
  (Tables.run (s.length + 1) ⟨[], [], [], []⟩ s).map .table

end SignalRules.Toml
