import SignalRules.Decimal.Natural
/-!
Binary floating-point numbers of 64 bits. The magnitudes from zero upwards are counted by their rank, so a
finite number is a sign and a rank below `Binary64.limit`; the rank after the last finite one would be 2 ^ 1024.
Every finite magnitude is a natural number of units of 2 ^ -1074, which `units` gives exactly, and order,
rounding and printing are all said in these units.
-/

set_option autoImplicit false

namespace SignalRules

abbrev Binary64.step : Nat := 4503599627370496

abbrev Binary64.limit : Nat := 2047 * Binary64.step

inductive Binary64 where
  | nan
  | infinity (negative : Bool)
  | finite (negative : Bool) (rank : Fin Binary64.limit)
deriving DecidableEq

namespace Binary64

-- The magnitude of a rank in units of 2 ^ -1074. Past 2 ^ 53 each further 2 ^ 52 ranks are spaced twice as wide.
def units (rank : Nat) : Nat :=
  if rank < step then rank else (step + rank % step) * Nat.pow 2 (rank / step - 1)

def isFinite : Binary64 → Bool
  | finite _ _ => true
  | _ => false

def key : Binary64 → Option Int
  | nan => none
  | infinity negative => some (if negative then -limit else limit)
  | finite negative rank => some (if negative then -rank.val else rank.val)

def order (x y : Binary64) : Option Ordering :=
  match x.key, y.key with
  | some a, some b => some (compare a b)
  | _, _ => none

def zero : Binary64 := finite false ⟨0, by decide⟩

def eqv (x y : Binary64) : Bool := x.order y == some .eq

def divRound (n d : Nat) : Nat :=
  let q := n / d
  let r := n % d
  if 2 * r < d then q else if d < 2 * r then q + 1 else q + q % 2

def nearestRank (num den : Nat) : Nat :=
  -- A quotient of 53 binary digits fits one rank each; each further digit doubles the spacing.
  let scaled := num * Nat.pow 2 1074
  let shift := Nat.log2 (scaled / den) - 52
  shift * step + divRound scaled (den * Nat.pow 2 shift)

def ofRank (negative : Bool) (rank : Nat) : Binary64 :=
  if h : rank < limit then finite negative ⟨rank, h⟩ else infinity negative

def ofRatio (negative : Bool) (num den : Nat) : Binary64 := ofRank negative (nearestRank num den)

def ofInt (i : Int) : Binary64 := ofRatio (decide (i < 0)) i.natAbs 1

-- The number nearest to `mantissa * 10 ^ exponent`. Exponents so far out that the answer is an infinity or a zero
-- in any case are not expanded.
def ofScientific (negative : Bool) (mantissa : Nat) (exponent : Int) : Binary64 :=
  if mantissa = 0 then finite negative ⟨0, by decide⟩
  else if 400 < exponent then infinity negative
  else if 0 ≤ exponent then ofRatio negative (mantissa * Nat.pow 10 exponent.toNat) 1
  else if (400 + Nat.log2 mantissa : Nat) < -exponent then finite negative ⟨0, by decide⟩
  else ofRatio negative mantissa (Nat.pow 10 (-exponent).toNat)

end Binary64
end SignalRules
