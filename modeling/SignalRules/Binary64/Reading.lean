import SignalRules.Binary64.Basic
import SignalRules.Decimal.Numeral

set_option autoImplicit false

namespace SignalRules.Binary64

def splitExponent (s : List Char) : List Char × Option (List Char) :=
  let isMark (c : Char) : Bool := c == 'e' || c == 'E'
  (s.takeWhile (!isMark ·), match s.dropWhile (!isMark ·) with
    | [] => none
    | _ :: rest => some rest)

def exponent? (s : List Char) : Option Int :=
  let magnitude? (t : List Char) : Option Nat := if t.isEmpty || !t.all Decimal.isDigit then none else some (Decimal.number t)
  match s with
  | '-' :: rest => (magnitude? rest).map fun n => -(n : Int)
  | '+' :: rest => (magnitude? rest).map fun n => (n : Int)
  | _ => (magnitude? s).map fun n => (n : Int)

def ofUnsigned? (negative : Bool) (s : List Char) : Option Binary64 :=
  let (mantissa, mark) := splitExponent s
  match Numeral.ofUnsigned? negative mantissa, mark.elim (some 0) exponent? with
  | some n, some exponent =>
    let fraction := n.fraction.getD []
    some (ofScientific negative (Decimal.number (n.whole ++ fraction)) (exponent - fraction.length))
  | _, _ => none

def ofMagnitude? (negative : Bool) (s : List Char) : Option Binary64 :=
  let small := s.map Char.toLower
  if small = "inf".toList ∨ small = "infinity".toList then some (infinity negative)
  else if small = "nan".toList then some nan
  else ofUnsigned? negative s

def ofText? : List Char → Option Binary64
  | '-' :: rest => ofMagnitude? true rest
  | '+' :: rest => ofMagnitude? false rest
  | s => ofMagnitude? false s

end SignalRules.Binary64
