import SignalRules.Decimal.Natural

set_option autoImplicit false

namespace SignalRules

-- A numeric text taken apart; `fraction` is present exactly when there is a point.
structure Numeral where
  negative : Bool
  whole : List Char
  fraction : Option (List Char)
deriving DecidableEq, Repr

namespace Numeral
open Decimal (isDigit)

def ofUnsigned? (negative : Bool) (s : List Char) : Option Numeral :=
  let whole := s.takeWhile isDigit
  match s.dropWhile isDigit with
  | [] => if whole.isEmpty then none else some ⟨negative, whole, none⟩
  | c :: fraction =>
    if c = '.' ∧ fraction.all isDigit ∧ ¬(whole.isEmpty ∧ fraction.isEmpty) then some ⟨negative, whole, some fraction⟩
    else none

def ofText? : List Char → Option Numeral
  | [] => none
  | c :: rest => if c = '-' then ofUnsigned? true rest else if c = '+' then ofUnsigned? false rest else ofUnsigned? false (c :: rest)

end Numeral
end SignalRules
