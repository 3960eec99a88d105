import SignalRules.Binary64.Shortest

set_option autoImplicit false

namespace SignalRules.Binary64
open SignalRules.Decimal (digits)

def zeros (n : Nat) : List Char := List.replicate n '0'

def positional (ds : List Char) (exponent : Int) : List Char :=
  if 0 ≤ exponent then ds ++ zeros exponent.toNat
  else
    let places := (-exponent).toNat
    if places < ds.length then ds.take (ds.length - places) ++ '.' :: ds.drop (ds.length - places)
    else '0' :: '.' :: zeros (places - ds.length) ++ ds

def sign (negative : Bool) : List Char := if negative then ['-'] else []

def positionalText : Binary64 → List Char
  | nan => "NaN".toList
  | infinity negative => sign negative ++ "inf".toList
  | finite negative rank =>
    sign negative ++
      (if rank.val = 0 then ['0'] else
        let d := shortest .up rank.val
        positional (digits d.digits) d.exponent)

def pointedText (x : Binary64) : List Char :=
  let s := x.positionalText
  if s.contains '.' || !x.isFinite then s else s ++ ['.', '0']

def exponentText (e : Int) : List Char := sign (decide (e < 0)) ++ digits e.natAbs

-- Positional with a point from 10 ^ -5 up to 10 ^ 16, otherwise one digit before the point and an exponent.
def compact (ds : List Char) (exponent : Int) : List Char :=
  let magnitude := exponent + ds.length
  if 0 ≤ exponent ∧ magnitude ≤ 16 then positional ds exponent ++ ['.', '0']
  else if -5 < magnitude ∧ magnitude ≤ 16 then positional ds exponent
  else
    let tail := ds.drop 1
    ds.take 1 ++ (if tail.isEmpty then [] else '.' :: tail) ++ 'e' :: exponentText (magnitude - 1)

def documentText : Binary64 → List Char
  | nan => ".nan".toList
  | infinity negative => sign negative ++ ".inf".toList
  | finite negative rank =>
    sign negative ++
      (if rank.val = 0 then ['0', '.', '0'] else
        let d := shortest .even rank.val
        compact (digits d.digits) d.exponent)

end SignalRules.Binary64
