import SignalRules.Decimal.Natural
import SignalRules.Json.Basic

set_option autoImplicit false

namespace SignalRules.Json
open Decimal (isDigit)

def isSpace (c : Char) : Bool := c == ' ' || c == '\n' || c == '\t' || c == '\r'
def skip (s : List Char) : List Char := s.dropWhile isSpace

def after? (word s : List Char) : Option (List Char) := if word.isPrefixOf s then some (s.drop word.length) else none

def hex4? (s : List Char) : Option (Nat × List Char) :=
  let digits := s.take 4
  if digits.length < 4 then none else (Decimal.numberInBase? 16 digits).map (·, s.drop 4)

def escapedPoint? (s : List Char) : Option (Nat × List Char) := do
  let (high, rest) ← hex4? s
  if 0xD800 ≤ high && high ≤ 0xDBFF then
    let rest ← after? ['\\', 'u'] rest
    let (low, rest) ← hex4? rest
    if 0xDC00 ≤ low && low ≤ 0xDFFF then some (0x10000 + (high - 0xD800) * 1024 + (low - 0xDC00), rest) else none
  else if 0xDC00 ≤ high && high ≤ 0xDFFF then none
  else some (high, rest)

def simpleEscape? : Char → Option Char
  | '"' => some '"'
  | '\\' => some '\\'
  | '/' => some '/'
  | 'b' => some '\x08'
  | 'f' => some '\x0c'
  | 'n' => some '\n'
  | 'r' => some '\r'
  | 't' => some '\t'
  | _ => none

def characters (fuel : Nat) (s : List Char) : Option (List Char × List Char) :=
  match fuel, s with
  | 0, _ => none
  | _, [] => none
  | _ + 1, '"' :: rest => some ([], rest)
  | fuel + 1, '\\' :: 'u' :: rest => do
    let (point, rest) ← escapedPoint? rest
    let (cs, rest) ← characters fuel rest
    some (Char.ofNat point :: cs, rest)
  | fuel + 1, '\\' :: c :: rest => do
    let c ← simpleEscape? c
    let (cs, rest) ← characters fuel rest
    some (c :: cs, rest)
  | fuel + 1, c :: rest =>
    if c.toNat < 32 || c == '\\' then none
    else do
      let (cs, rest) ← characters fuel rest
      some (c :: cs, rest)

def quoted? : List Char → Option (String × List Char)
  | '"' :: rest => (characters (rest.length + 1) rest).map fun (cs, rest) => (String.ofList cs, rest)
  | _ => none

def digits? (s : List Char) : Option (List Char × List Char) :=
  let ds := s.takeWhile isDigit
  if ds.isEmpty then none else some (ds, s.dropWhile isDigit)

def number? (s : List Char) : Option (List Char × List Char) := do
  let (sign, s) := match s with
    | '-' :: rest => (['-'], rest)
    | _ => ([], s)
  let (whole, s) ← match s with
    | '0' :: rest => some (['0'], rest)
    | _ => digits? s
  let (fraction, s) ← match s with
    | '.' :: rest => (digits? rest).map fun (ds, rest) => ('.' :: ds, rest)
    | _ => some ([], s)
  let (exponent, s) ← match s with
    | 'e' :: rest | 'E' :: rest =>
      let (mark, rest) := match rest with
        | '-' :: rest => (['-'], rest)
        | '+' :: rest => (['+'], rest)
        | _ => ([], rest)
      (digits? rest).map fun (ds, rest) => ('e' :: mark ++ ds, rest)
    | _ => some ([], s)
  some (sign ++ whole ++ fraction ++ exponent, s)

mutual
-- A value with at most `depth` collections inside one another. Every call takes a character.
def value (fuel depth : Nat) (s : List Char) : Option (Json × List Char) :=
  match fuel with
  | 0 => none
  | fuel + 1 =>
    match skip s with
    | '"' :: rest => (quoted? ('"' :: rest)).map fun (text, rest) => (string text, rest)
    | '[' :: rest =>
      if depth = 0 then none
      else
        match skip rest with
        | ']' :: rest => some (array [], rest)
        | rest => (items fuel (depth - 1) rest).map fun (xs, rest) => (array xs, rest)
    | '\x7b' :: rest =>
      if depth = 0 then none
      else
        match skip rest with
        | '\x7d' :: rest => some (object [], rest)
        | rest => (fields fuel (depth - 1) rest).map fun (xs, rest) => (object xs, rest)
    | s =>
      ((after? "null".toList s).map (null, ·)).or
        (((after? "true".toList s).map (bool true, ·)).or
          (((after? "false".toList s).map (bool false, ·)).or
            ((number? s).map fun (text, rest) => (number (String.ofList text), rest))))

def items (fuel depth : Nat) (s : List Char) : Option (List Json × List Char) :=
  match fuel with
  | 0 => none
  | fuel + 1 =>
    match value fuel depth s with
    | none => none
    | some (x, rest) =>
      match skip rest with
      | ',' :: rest => (items fuel depth rest).map fun (xs, rest) => (x :: xs, rest)
      | ']' :: rest => some ([x], rest)
      | _ => none

def fields (fuel depth : Nat) (s : List Char) : Option (List (String × Json) × List Char) :=
  match fuel with
  | 0 => none
  | fuel + 1 =>
    match quoted? (skip s) with
    | none => none
    | some (name, rest) =>
      match skip rest with
      | ':' :: rest =>
        match value fuel depth rest with
        | none => none
        | some (x, rest) =>
          match skip rest with
          | ',' :: rest => (fields fuel depth rest).map fun (xs, rest) => ((name, x) :: xs, rest)
          | '\x7d' :: rest => some ([(name, x)], rest)
          | _ => none
      | _ => none
end

def read? (depth : Nat) (text : String) : Option Json :=
  let s := text.toList
  match value (2 * s.length + 2) depth s with
  | some (x, rest) => if (skip rest).isEmpty then some x else none
  | none => none

def ofText? (text : String) : Option Json := read? 127 text

end SignalRules.Json
