import SignalRules.Decimal.Natural
import SignalRules.Text.Utf8
import SignalRules.Yaml.Token

set_option autoImplicit false

namespace SignalRules.Yaml

def readWord (s : List Char) : Option (String × List Char) :=
  let word := s.takeWhile isWord
  if word.isEmpty then none else some (String.ofList word, s.dropWhile isWord)

def readAnchor (s : List Char) : Option (String × List Char) :=
  (readWord s).bind fun (name, left) =>
    if atSpace left || (left.head?.any fun c => "?:,]\x7d%@\x60".contains c) then some (name, left) else none

def isTagChar (verbatim : Bool) (c : Char) : Bool :=
  isWord c || ";/?:@&=+$.%!~*'()".contains c || (verbatim && ",[]".contains c)

def escapedBytes (fuel : Nat) (s : List Char) : Option (List UInt8 × List Char) :=
  match fuel, s with
  | fuel + 1, '%' :: rest =>
    let digits := rest.take 2
    if digits.length < 2 then none
    else
      match Decimal.numberInBase? 16 digits with
      | none => none
      | some n => (escapedBytes fuel (rest.drop 2)).map fun (bytes, left) => (UInt8.ofNat n :: bytes, left)
  | _, s => some ([], s)

def readTagText (fuel : Nat) (verbatim : Bool) (s : List Char) : Option (List Char × List Char) :=
  match fuel, s with
  | fuel + 1, c :: rest =>
    if c == '%' then
      match escapedBytes s.length s with
      | none => none
      | some (bytes, left) =>
        match Text.Utf8.decode bytes with
        | .error _ => none
        | .ok cs => (readTagText fuel verbatim left).map fun (text, left) => (cs ++ text, left)
    else if isTagChar verbatim c then (readTagText fuel verbatim rest).map fun (text, left) => (c :: text, left)
    else some ([], s)
  | _, s => some ([], s)

def readHandle : List Char → Option (List Char × List Char)
  | '!' :: rest =>
    let word := rest.takeWhile isWord
    let left := rest.dropWhile isWord
    if startsWith '!' left then some ('!' :: word ++ ['!'], left.drop 1) else some ('!' :: word, left)
  | _ => none

def isFullHandle (handle : List Char) : Bool := 2 ≤ handle.length && handle.getLast? == some '!'

def readTag (inFlow : Bool) (s : List Char) : Option (String × String × List Char) := do
  let (handle, suffix, left) ← match s with
    | '!' :: '<' :: rest => do
      let (text, left) ← readTagText rest.length true rest
      if text.isEmpty || !startsWith '>' left then none else some ([], text, left.drop 1)
    | _ => do
      let (handle, rest) ← readHandle s
      let (text, left) ← readTagText rest.length false rest
      if isFullHandle handle then
        if text.isEmpty then none else some (handle, text, left)
      else
        let suffix := handle.drop 1 ++ text
        if suffix.isEmpty then some ([], ['!'], left) else some (['!'], suffix, left)
  if atSpace left || (inFlow && startsWith ',' left) then some (String.ofList handle, String.ofList suffix, left) else none

def readVersionNumber (s : List Char) : Option (Nat × List Char) :=
  let ds := s.takeWhile Decimal.isDigit
  if ds.isEmpty || 9 < ds.length then none else some (Decimal.number ds, s.dropWhile Decimal.isDigit)

def readDirective (s : List Char) : Option (Token × List Char) := do
  let (name, left) ← readWord s
  if !atSpace left then none
  else
    let value := left.dropWhile isBlank
    if name == "YAML" then
      let (major, left) ← readVersionNumber value
      if !startsWith '.' left then none
      else
        let (minor, left) ← readVersionNumber (left.drop 1)
        some (.version major minor, left)
    else if name == "TAG" then
      let (handle, left) ← readHandle value
      if !(isFullHandle handle || handle == ['!']) || !(left.head?.any isBlank) then none
      else
        let stem := left.dropWhile isBlank
        let (text, left) ← readTagText stem.length true stem
        if text.isEmpty || !atSpace left then none
        else some (.tagDirective (String.ofList handle) (String.ofList text), left)
    else none

end SignalRules.Yaml
