import SignalRules.Binary64.Reading
import SignalRules.Yaml.Datum
import SignalRules.Yaml.Token

set_option autoImplicit false

namespace SignalRules.Yaml

def isNullWord (s : String) : Bool := ["null", "Null", "NULL", "~"].contains s

def boolWord? (s : String) : Option Bool :=
  if ["true", "True", "TRUE"].contains s then some true
  else if ["false", "False", "FALSE"].contains s then some false
  else none

def isPadded (s : List Char) : Bool :=
  match s with
  | '0' :: d :: rest => (d :: rest).all Decimal.isDigit
  | _ => false

def magnitude? (s : List Char) : Option Nat :=
  match s with
  | '0' :: 'x' :: rest => Decimal.numberInBase? 16 rest
  | '0' :: 'o' :: rest => Decimal.numberInBase? 8 rest
  | '0' :: 'b' :: rest => Decimal.numberInBase? 2 rest
  | _ => if isPadded s then none else Decimal.numberInBase? 10 s

def integer? : List Char → Option Int
  | '-' :: rest => (magnitude? rest).map fun n => -(n : Int)
  | '+' :: rest => (magnitude? rest).map fun n => (n : Int)
  | s => (magnitude? s).map fun n => (n : Int)

def float? (s : List Char) : Option Binary64 :=
  let magnitude := if startsWith '+' s then s.drop 1 else s
  if [".inf", ".Inf", ".INF"].contains (String.ofList magnitude) then some (.infinity false)
  else if ["-.inf", "-.Inf", "-.INF"].contains (String.ofList s) then some (.infinity true)
  else if [".nan", ".NaN", ".NAN"].contains (String.ofList s) then some .nan
  else if startsWith '+' s && (startsWith '+' magnitude || startsWith '-' magnitude) then none
  else (Binary64.ofText? magnitude).filter Binary64.isFinite

namespace Datum

def ofInteger? (i : Int) : Option Datum :=
  if -9223372036854775808 ≤ i ∧ i < 18446744073709551616 then some (integer i) else none

def isWide (i : Int) : Bool := -170141183460469231731687303715884105728 ≤ i && i < 340282366920938463463374607431768211456

-- Integers between 64 and 128 bits have no datum; wider ones are floats.
def ofPlain? (text : String) : Option Datum :=
  let s := text.toList
  let padded := isPadded s || ((startsWith '+' s || startsWith '-' s) && isPadded (s.drop 1))
  let other : Datum := if padded then .text text else ((float? s).map float).getD (.text text)
  if text.isEmpty || isNullWord text then some null
  else
    match boolWord? text, integer? s with
    | some b, _ => some (bool b)
    | none, some i => if isWide i then ofInteger? i else some other
    | none, none => some other

def ofScalar? (tag : Option String) (isPlain : Bool) (text : String) : Option Datum :=
  match tag with
  | none => if isPlain then ofPlain? text else some (.text text)
  | some "tag:yaml.org,2002:bool" => (boolWord? text).map bool
  | some "tag:yaml.org,2002:int" => (integer? text.toList).bind ofInteger?
  | some "tag:yaml.org,2002:float" => (float? text.toList).map float
  | some "tag:yaml.org,2002:null" => if isNullWord text then some null else none
  | some _ => some (.text text)

mutual
def same : Datum → Datum → Bool
  | null, null => true
  | bool a, bool b => a == b
  | integer a, integer b => a == b
  | float x, float y => x == y || x.eqv y
  | text a, text b => a == b
  | sequence xs, sequence ys => sameItems xs ys
  | mapping xs, mapping ys => xs.length == ys.length && allFound xs ys
  | tagged s x, tagged t y => s == t && same x y
  | _, _ => false

def sameItems : List Datum → List Datum → Bool
  | [], [] => true
  | x :: xs, y :: ys => same x y && sameItems xs ys
  | _, _ => false

def allFound : List (Datum × Datum) → List (Datum × Datum) → Bool
  | [], _ => true
  | (key, value) :: rest, ys => ys.any (fun y => same key y.1 && same value y.2) && allFound rest ys
end

mutual
def isTagFree : Datum → Bool
  | sequence items => areTagFree items
  | mapping entries => haveNoTags entries
  | tagged _ _ => false
  | _ => true

def areTagFree : List Datum → Bool
  | [] => true
  | x :: xs => isTagFree x && areTagFree xs

def haveNoTags : List (Datum × Datum) → Bool
  | [] => true
  | (key, value) :: rest => isTagFree key && isTagFree value && haveNoTags rest
end

def hasRepeatedKey : List (Datum × Datum) → Bool
  | [] => false
  | (key, _) :: rest => rest.any (fun entry => same key entry.1) || hasRepeatedKey rest

end Datum
end SignalRules.Yaml
