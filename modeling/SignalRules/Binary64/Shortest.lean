import SignalRules.Binary64.Basic
/-!
The fewest decimal digits that read back as a given number. The numbers that round to a finite one form an
interval whose ends belong to it when the rank is even; the coarsest power of ten with a multiple in that
interval gives the digits, and of two such multiples the nearer one is taken.
-/

set_option autoImplicit false

namespace SignalRules.Binary64

structure Decimal where
  digits : Nat
  exponent : Int
deriving DecidableEq, Repr

inductive Tie where
  | up
  | even
deriving DecidableEq, Repr

def twiceLow (rank : Nat) : Nat := units (rank - 1) + units rank
def twiceHigh (rank : Nat) : Nat := units rank + units (rank + 1)

def within (closed : Bool) (low high point : Nat) : Bool :=
  if closed then low ≤ point && point ≤ high else low < point && point < high

def nearestMultiple? (tie : Tie) (closed : Bool) (low high value step : Nat) : Option Nat :=
  let below := value / step
  let hitBelow := within closed low high (2 * (below * step))
  let hitAbove := within closed low high (2 * ((below + 1) * step))
  if hitBelow && hitAbove then
    let past := value % step
    if 2 * past < step then some below
    else if step < 2 * past then some (below + 1)
    else match tie with
      | .up => some (below + 1)
      | .even => some (below + below % 2)
  else if hitBelow then some below
  else if hitAbove then some (below + 1)
  else none

def coarsest (tie : Tie) (closed : Bool) (low high value : Nat) : Nat → Nat × Nat
  | 0 => (value, 0)
  | power + 1 =>
    match nearestMultiple? tie closed low high value (Nat.pow 10 (power + 1)) with
    | some multiple => (multiple, power + 1)
    | none => coarsest tie closed low high value power

-- The multiple and the power of ten that `coarsest` finds for a rank. One unit of 2 ^ -bias is 5 ^ bias units of
-- 10 ^ -bias.
def shortestMultiple (bias : Nat) (tie : Tie) (rank : Nat) : Nat × Nat :=
  let scale := Nat.pow 5 bias
  let value := units rank * scale
  -- The logarithm of two is just below 30103 / 100000, so no power of ten above this one has a multiple in the interval.
  let top := (Nat.log2 value + 1) * 30103 / 100000 + 1
  coarsest tie (rank % 2 == 0) (twiceLow rank * scale) (twiceHigh rank * scale) value top

def shortest (tie : Tie) (rank : Nat) : Decimal :=
  let found := shortestMultiple 1074 tie rank
  ⟨found.1, (found.2 : Int) - 1074⟩

end SignalRules.Binary64
