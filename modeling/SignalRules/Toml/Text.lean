import SignalRules.Binary64.Reading
import SignalRules.Decimal.Natural

set_option autoImplicit false

namespace SignalRules.Toml

def isControl (c : Char) : Bool := (c.toNat < 32 && c != '\t') || c == '\x7f'

def hexPoint? (count : Nat) (s : List Char) : Option (Char × List Char) :=
  let digits := s.take count
  if digits.length < count then none
  else (Decimal.numberInBase? 16 digits).bind fun n =>
    if (0xD800 ≤ n && n ≤ 0xDFFF) || 0x10FFFF < n then none else some (Char.ofNat n, s.drop count)

def escape? : List Char → Option (Char × List Char)
  | 'b' :: rest => some ('\x08', rest)
  | 't' :: rest => some ('\t', rest)
  | 'n' :: rest => some ('\n', rest)
  | 'f' :: rest => some ('\x0c', rest)
  | 'r' :: rest => some ('\r', rest)
  | '"' :: rest => some ('"', rest)
  | '\\' :: rest => some ('\\', rest)
  | 'u' :: rest => hexPoint? 4 rest
  | 'U' :: rest => hexPoint? 8 rest
  | _ => none

def basic (fuel : Nat) (s : List Char) : Option (List Char × List Char) :=
  match fuel, s with
  | _ + 1, '"' :: rest => some ([], rest)
  | fuel + 1, '\\' :: rest => do
    let (c, rest) ← escape? rest
    let (text, rest) ← basic fuel rest
    some (c :: text, rest)
  | fuel + 1, c :: rest => if isControl c then none else (basic fuel rest).map fun (text, rest) => (c :: text, rest)
  | _, _ => none

def literal : List Char → Option (List Char × List Char)
  | [] => none
  | '\x27' :: rest => some ([], rest)
  | c :: rest => if isControl c then none else (literal rest).map fun (text, rest) => (c :: text, rest)

-- Text over lines up to three quotes; up to two more quotes before these belong to the text. In the basic form a
-- backslash at the end of a line joins it to the next one.
def lines (fuel : Nat) (quote : Char) (s : List Char) : Option (List Char × List Char) :=
  match fuel, s with
  | 0, _ => none
  | _, [] => none
  | fuel + 1, c :: rest =>
    if c = quote && [quote, quote].isPrefixOf rest then
      let more := (rest.drop 2).takeWhile (· == quote)
      if 2 < more.length then none else some (more, rest.drop (2 + more.length))
    else if quote == '"' && c == '\\' then
      let blank := rest.takeWhile fun d => d == ' ' || d == '\t'
      match rest.drop blank.length with
      | '\n' :: more | '\r' :: '\n' :: more => lines fuel quote (more.dropWhile fun d => [' ', '\t', '\n', '\r'].contains d)
      | _ => do
        let (e, rest) ← escape? rest
        let (text, rest) ← lines fuel quote rest
        some (e :: text, rest)
    else if isControl c && c != '\n' && !(c == '\r' && rest.head? == some '\n') then none
    else (lines fuel quote rest).map fun (text, rest) => (c :: text, rest)

def firstBreak (s : List Char) : List Char :=
  match s with
  | '\n' :: rest | '\r' :: '\n' :: rest => rest
  | _ => s

def string? (quote : Char) (s : List Char) : Option (List Char × List Char) :=
  match s with
  | a :: b :: rest =>
    if a == quote && b == quote then lines (rest.length + 1) quote (firstBreak rest)
    else if quote == '"' then basic (s.length + 1) s
    else literal s
  | _ => if quote == '"' then basic (s.length + 1) s else literal s

def isKeyChar (c : Char) : Bool := c.isAlphanum || c == '_' || c == '-'

def simpleKey? (s : List Char) : Option (String × List Char) :=
  match s with
  | '"' :: rest => (basic (rest.length + 1) rest).map fun (text, rest) => (String.ofList text, rest)
  | '\x27' :: rest => (literal rest).map fun (text, rest) => (String.ofList text, rest)
  | _ =>
    let name := s.takeWhile isKeyChar
    if name.isEmpty then none else some (String.ofList name, s.dropWhile isKeyChar)

def isSpace (c : Char) : Bool := c == ' ' || c == '\t'
def skip (s : List Char) : List Char := s.dropWhile isSpace

def key (fuel : Nat) (s : List Char) : Option (List String × List Char) :=
  match fuel with
  | 0 => none
  | fuel + 1 =>
    (simpleKey? (skip s)).bind fun (name, rest) =>
      match skip rest with
      | '.' :: rest => (key fuel rest).map fun (names, rest) => (name :: names, rest)
      | rest => some ([name], rest)

def plainDigits? (isDigit : Char → Bool) (s : List Char) : Option (List Char) :=
  let ds := s.filter (· != '_')
  let apart := s.head? != some '_' && s.getLast? != some '_' && !(s.zip (s.drop 1)).contains ('_', '_')
  if !ds.isEmpty && ds.all isDigit && apart then some ds else none

def unsigned (s : List Char) : List Char := if s.head? == some '-' || s.head? == some '+' then s.drop 1 else s

def isWholeNumber (s : List Char) : Bool :=
  match plainDigits? Decimal.isDigit (unsigned s) with
  | some ds => ds.length = 1 || ds.head? != some '0'
  | none => false

def isInteger (s : List Char) : Bool :=
  let inBase (base : Nat) (rest : List Char) : Bool :=
    (plainDigits? (fun _ => true) rest).any fun ds => (Decimal.numberInBase? base ds).any (· < 9223372036854775808)
  match s with
  | '0' :: 'x' :: rest => inBase 16 rest
  | '0' :: 'o' :: rest => inBase 8 rest
  | '0' :: 'b' :: rest => inBase 2 rest
  | _ =>
    let bound := if s.head? == some '-' then 9223372036854775809 else 9223372036854775808
    isWholeNumber s && Decimal.number ((unsigned s).filter (· != '_')) < bound

def isFloat (s : List Char) : Bool :=
  let isMark (c : Char) : Bool := c == 'e' || c == 'E'
  let mantissa := s.takeWhile (!isMark ·)
  let exponentOk := match s.dropWhile (!isMark ·) with
    | [] => true
    | _ :: exponent => (plainDigits? Decimal.isDigit (unsigned exponent)).isSome
  let whole := mantissa.takeWhile (· != '.')
  let fractionOk := match mantissa.dropWhile (· != '.') with
    | [] => mantissa.length < s.length
    | _ :: fraction => (plainDigits? Decimal.isDigit fraction).isSome
  ["inf", "nan"].contains (String.ofList (unsigned s)) || (isWholeNumber whole && fractionOk && exponentOk)

def hasShape (pattern : String) (s : List Char) : Bool :=
  pattern.length == s.length && (pattern.toList.zip s).all fun (p, c) => if p == '0' then Decimal.isDigit c else p == c

def isTime (s : List Char) : Bool :=
  hasShape "00:00:00" (s.take 8) &&
    match s.drop 8 with
    | [] => true
    | c :: fraction => c == '.' && !fraction.isEmpty && fraction.all Decimal.isDigit

def isZonedTime (s : List Char) : Bool :=
  isTime s || (["Z", "z"].contains (String.ofList (s.drop (s.length - 1))) && isTime s.dropLast) ||
    ((hasShape "+00:00" (s.drop (s.length - 6)) || hasShape "-00:00" (s.drop (s.length - 6))) && isTime (s.take (s.length - 6)))

def isDateTime (s : List Char) : Bool :=
  isTime s ||
    (hasShape "0000-00-00" (s.take 10) &&
      match s.drop 10 with
      | [] => true
      | c :: time => ['T', 't', ' '].contains c && isZonedTime time)

end SignalRules.Toml
