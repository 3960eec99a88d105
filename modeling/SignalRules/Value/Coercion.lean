import SignalRules.Decimal.Numeral
import SignalRules.Text.Blank
import SignalRules.Value.Basic

set_option autoImplicit false

namespace SignalRules

def int64? (i : Int) : Option Int64 :=
  if -9223372036854775808 ≤ i ∧ i < 9223372036854775808 then some (Int64.ofInt i) else none

def Numeral.value? (n : Numeral) : Option Value :=
  match n.fraction with
  | some fraction => some (.float (.ofScientific n.negative (Decimal.number (n.whole ++ fraction)) (-fraction.length)))
  | none =>
    let magnitude := Decimal.number n.whole
    (int64? (if n.negative then -magnitude else magnitude)).map .int

namespace Value

def isQuote (c : Char) : Bool := c == '"' || c == '\x27'

def unquote? : List Char → Option (List Char)
  | [] => none
  | q :: rest => if isQuote q && rest.getLast? == some q then some rest.dropLast else none

def ofTrimmed (s : List Char) : Value :=
  match unquote? s with
  | some inner => string (String.ofList inner)
  | none =>
    if s = "true".toList then bool true
    else if s = "false".toList then bool false
    else ((Numeral.ofText? s).bind Numeral.value?).getD (string (String.ofList s))

def ofText (raw : String) : Value := ofTrimmed (Text.trim raw.toList)

end Value
end SignalRules
