import Mathlib.Algebra.Group.Nat.Defs
import SignalRules.Binary64.Shortest

set_option autoImplicit false

namespace SignalRules.Binary64

theorem units_small (rank : Nat) (small : rank ≤ 2 * step) : units rank = rank := by
  simp only [step] at small
  unfold units
  simp only [step]
  by_cases below : rank < 4503599627370496
  · rw [if_pos below]
  · rw [if_neg below]
    by_cases last : rank = 9007199254740992
    · subst last
      rfl
    · have quotient : rank / 4503599627370496 = 1 := by omega
      rw [quotient]
      simp only [Nat.sub_self, Nat.pow_eq, Nat.pow_zero, Nat.mul_one]
      omega

theorem units_scaled (shift m : Nat) (low : step ≤ m) (high : m ≤ 2 * step) :
    units (shift * step + m) = m * 2 ^ shift := by
  simp only [step] at low high
  unfold units
  simp only [step]
  rw [if_neg (by omega)]
  by_cases last : m = 9007199254740992
  · have quotient : (shift * 4503599627370496 + m) / 4503599627370496 - 1 = shift + 1 := by omega
    have remainder : (shift * 4503599627370496 + m) % 4503599627370496 = 0 := by omega
    rw [quotient, remainder, last, Nat.pow_eq, Nat.pow_succ]
    omega
  · have quotient : (shift * 4503599627370496 + m) / 4503599627370496 - 1 = shift := by omega
    have remainder : 4503599627370496 + (shift * 4503599627370496 + m) % 4503599627370496 = m := by omega
    rw [quotient, remainder, Nat.pow_eq]

theorem rank_scaled (rank : Nat) (large : step ≤ rank) :
    ∃ shift m, rank = shift * step + m ∧ step ≤ m ∧ m < 2 * step := by
  refine ⟨rank / step - 1, step + rank % step, ?_⟩
  simp only [step] at large ⊢
  omega

theorem units_lt_succ (rank : Nat) : units rank < units (rank + 1) := by
  by_cases small : rank < step
  · have one : 1 ≤ step := by decide
    rw [units_small rank (by omega), units_small (rank + 1) (by omega)]
    exact Nat.lt_succ_self rank
  · obtain ⟨shift, m, rfl, low, high⟩ := rank_scaled rank (by omega)
    rw [Nat.add_assoc, units_scaled shift m low (by omega), units_scaled shift (m + 1) (by omega) high]
    exact Nat.mul_lt_mul_of_pos_right (Nat.lt_succ_self m) (Nat.two_pow_pos shift)

theorem units_lt (a b : Nat) (less : a < b) : units a < units b := by
  induction less with
  | refl => exact units_lt_succ a
  | step _ ih => exact Nat.lt_trans ih (units_lt_succ _)

theorem units_le (a b : Nat) (le : a ≤ b) : units a ≤ units b := by
  rcases Nat.lt_or_eq_of_le le with less | rfl
  · exact Nat.le_of_lt (units_lt a b less)
  · exact Nat.le_refl _

theorem div_round_bounds (n d : Nat) (positive : 0 < d) :
    2 * (divRound n d * d) ≤ 2 * n + d ∧ 2 * n ≤ 2 * (divRound n d * d) + d := by
  have parts := Nat.div_add_mod n d
  have bound := Nat.mod_lt n positive
  rw [Nat.mul_comm] at parts
  unfold divRound
  dsimp only
  split
  · omega
  · split
    · rw [Nat.add_one_mul (n / d) d]
      omega
    · rcases Nat.mod_two_eq_zero_or_one (n / d) with even | odd
      · rw [even, Nat.add_zero]
        omega
      · rw [odd, Nat.add_one_mul (n / d) d]
        omega

theorem div_round_tie (n d : Nat) (positive : 0 < d)
    (tie : 2 * (divRound n d * d) = 2 * n + d ∨ 2 * n = 2 * (divRound n d * d) + d) : divRound n d % 2 = 0 := by
  have parts := Nat.div_add_mod n d
  have bound := Nat.mod_lt n positive
  rw [Nat.mul_comm] at parts
  unfold divRound at tie ⊢
  dsimp only at tie ⊢
  split at tie
  · omega
  · split at tie
    · rw [Nat.add_one_mul (n / d) d] at tie
      omega
    · rename_i below above
      rw [if_neg below, if_neg above]
      omega

structure Nearest (num den rank : Nat) : Prop where
  low : twiceLow rank * den ≤ 2 * num
  high : 2 * num ≤ twiceHigh rank * den
  tie : twiceLow rank * den = 2 * num ∨ 2 * num = twiceHigh rank * den → rank % 2 = 0

theorem twice_high_le_low (a b : Nat) (less : a < b) : twiceHigh a ≤ twiceLow b :=
  Nat.add_le_add (units_le a (b - 1) (by omega)) (units_le (a + 1) b less)

theorem twice_high_lt_low (a b : Nat) (apart : a + 1 < b) : twiceHigh a < twiceLow b :=
  Nat.add_lt_add (units_lt a (b - 1) (by omega)) (units_lt (a + 1) b apart)

theorem nearest_not_lt (num den a b : Nat) (positive : 0 < den) (first : Nearest num den a) (second : Nearest num den b) :
    ¬a < b := by
  intro less
  have middle : twiceHigh a * den ≤ twiceLow b * den := Nat.mul_le_mul_right den (twice_high_le_low a b less)
  have below : 2 * num = twiceHigh a * den := Nat.le_antisymm first.high (Nat.le_trans middle second.low)
  have above : twiceLow b * den = 2 * num := Nat.le_antisymm second.low (Nat.le_trans first.high middle)
  have evenA := first.tie (.inr below)
  have evenB := second.tie (.inl above)
  -- Neighbours differ in parity, and farther ranks do not meet at a midpoint.
  have apart : a + 1 < b := by omega
  have strict := Nat.mul_lt_mul_of_pos_right (twice_high_lt_low a b apart) positive
  omega

theorem nearest_unique (num den a b : Nat) (positive : 0 < den) (first : Nearest num den a) (second : Nearest num den b) :
    a = b := by
  have notLess := nearest_not_lt num den a b positive first second
  have notMore := nearest_not_lt num den b a positive second first
  omega

-- `m` spacings of a width `p` below and above a rank, of which the lower one may be narrower. Then `m` need only
-- be the nearest multiple; where the spacing below is narrower the quotient has to reach the rank itself.
theorem nearest_of_spacing (num den p m rank : Nat) (positive : 0 < den) (exact_units : units rank = m * p)
    (above : m * p + p ≤ units (rank + 1)) (below : units (rank - 1) + p = m * p ∨ units rank * den ≤ num)
    (parity : rank % 2 = m % 2) (low : 2 * (m * (den * p)) ≤ 2 * num + den * p)
    (high : 2 * num ≤ 2 * (m * (den * p)) + den * p)
    (tie : 2 * (m * (den * p)) = 2 * num + den * p ∨ 2 * num = 2 * (m * (den * p)) + den * p → m % 2 = 0) :
    Nearest num den rank := by
  have spread : m * (den * p) = m * p * den := by rw [Nat.mul_comm den p, Nat.mul_assoc]
  have width : den * p = p * den := Nat.mul_comm den p
  have upper : (m * p + p) * den ≤ units (rank + 1) * den := Nat.mul_le_mul_right den above
  rw [spread, width] at low high tie
  rw [Nat.add_mul] at upper
  refine ⟨?_, ?_, ?_⟩
  · rw [twiceLow, Nat.add_mul]
    rcases below with narrow | reached
    · have lower : (units (rank - 1) + p) * den = m * p * den := by rw [narrow]
      rw [Nat.add_mul] at lower
      rw [exact_units]
      omega
    · have mono := Nat.mul_le_mul_right den (units_le (rank - 1) rank (by omega))
      omega
  · rw [twiceHigh, exact_units, Nat.add_mul]
    omega
  · rw [twiceLow, twiceHigh, exact_units, Nat.add_mul, Nat.add_mul, parity]
    rintro (equal | equal)
    · rcases below with narrow | reached
      · have lower : (units (rank - 1) + p) * den = m * p * den := by rw [narrow]
        rw [Nat.add_mul] at lower
        exact tie (.inl (by omega))
      · rw [exact_units] at reached
        by_cases first : rank = 0
        · omega
        · have mono := Nat.mul_lt_mul_of_pos_right (units_lt (rank - 1) rank (by omega)) positive
          rw [exact_units] at mono
          omega
    · exact tie (.inr (by omega))

theorem nearest_fine (num den : Nat) (positive : 0 < den) (small : num < den * (2 * step)) :
    Nearest num den (divRound num den) := by
  obtain ⟨low, high⟩ := div_round_bounds num den positive
  have tie := div_round_tie num den positive
  generalize divRound num den = m at low high tie
  have bound : m ≤ 2 * step := by
    refine Nat.le_of_not_lt fun large => ?_
    have beyond : (2 * step + 1) * den ≤ m * den := Nat.mul_le_mul_right den (by omega)
    rw [Nat.add_mul, Nat.mul_comm (2 * step) den] at beyond
    omega
  have next : m + 1 ≤ units (m + 1) := by
    have step_up := units_lt m (m + 1) (Nat.lt_succ_self m)
    rw [units_small m bound] at step_up
    omega
  refine nearest_of_spacing num den 1 m m positive ?_ ?_ ?_ rfl ?_ ?_ ?_
  · rw [units_small m bound, Nat.mul_one]
  · rw [Nat.mul_one]
    exact next
  · rcases Nat.eq_zero_or_pos m with rfl | nonzero
    · right
      rw [units_small 0 bound, Nat.zero_mul]
      exact Nat.zero_le _
    · left
      rw [units_small (m - 1) (by omega)]
      omega
  · rw [Nat.mul_one]
    exact low
  · rw [Nat.mul_one]
    exact high
  · rw [Nat.mul_one]
    exact tie

theorem nearest_coarse (num den shift : Nat) (positive : 0 < den) (low : step * (den * 2 ^ shift) ≤ num)
    (high : num < 2 * step * (den * 2 ^ shift)) :
    Nearest num den (shift * step + divRound num (den * 2 ^ shift)) := by
  have power := Nat.two_pow_pos shift
  have scaled : 0 < den * 2 ^ shift := Nat.mul_pos positive power
  obtain ⟨lower, upper⟩ := div_round_bounds num (den * 2 ^ shift) scaled
  have tie := div_round_tie num (den * 2 ^ shift) scaled
  generalize divRound num (den * 2 ^ shift) = m at lower upper tie
  have floor : step ≤ m := by
    refine Nat.le_of_not_lt fun less => ?_
    have under : (m + 1) * (den * 2 ^ shift) ≤ step * (den * 2 ^ shift) := Nat.mul_le_mul_right _ (by omega)
    rw [Nat.add_mul] at under
    omega
  have ceiling : m ≤ 2 * step := by
    refine Nat.le_of_not_lt fun more => ?_
    have beyond : (2 * step + 1) * (den * 2 ^ shift) ≤ m * (den * 2 ^ shift) := Nat.mul_le_mul_right _ (by omega)
    rw [Nat.add_mul] at beyond
    omega
  have rank_units := units_scaled shift m floor ceiling
  refine nearest_of_spacing num den (2 ^ shift) m _ positive rank_units ?_ ?_ ?_ lower upper tie
  · by_cases last : m = 2 * step
    · have next := units_lt _ _ (Nat.lt_succ_self (shift * step + m))
      have fold : shift * step + m + 1 = (shift + 1) * step + (step + 1) := by rw [last, Nat.add_mul]; omega
      rw [fold, units_scaled (shift + 1) (step + 1) (by omega) (by simp only [step]; omega), last, Nat.pow_succ]
      have expand : (step + 1) * (2 ^ shift * 2) = 2 * step * 2 ^ shift + 2 ^ shift * 2 := by
        rw [Nat.add_mul, Nat.one_mul, Nat.mul_comm (2 ^ shift) 2, ← Nat.mul_assoc, Nat.mul_comm step 2]
      omega
    · refine Nat.le_of_eq ?_
      rw [Nat.add_assoc, units_scaled shift (m + 1) (by omega) (by omega), Nat.add_mul, Nat.one_mul]
  · rcases Nat.lt_or_eq_of_le floor with more | rfl
    · left
      have previous : shift * step + m - 1 = shift * step + (m - 1) := by omega
      rw [previous, units_scaled shift (m - 1) (by omega) (by omega)]
      conv => rhs; rw [show m = m - 1 + 1 by omega]
      rw [Nat.add_mul (m - 1) 1, Nat.one_mul]
    · right
      rw [rank_units, Nat.mul_assoc, Nat.mul_comm (2 ^ shift) den]
      exact low
  · simp only [step]
    omega

def scaledRank (scaled den : Nat) : Nat :=
  (Nat.log2 (scaled / den) - 52) * step + divRound scaled (den * Nat.pow 2 (Nat.log2 (scaled / den) - 52))

theorem scaled_rank_nearest (scaled den : Nat) (positive : 0 < den) : Nearest scaled den (scaledRank scaled den) := by
  have rank : scaledRank scaled den =
      (Nat.log2 (scaled / den) - 52) * step + divRound scaled (den * 2 ^ (Nat.log2 (scaled / den) - 52)) := rfl
  rw [rank]
  by_cases small : scaled / den < 2 ^ 53
  · have shift : Nat.log2 (scaled / den) - 52 = 0 := by
      by_cases zero : scaled / den = 0
      · rw [zero]
        rfl
      · have log := (Nat.log2_lt zero).mpr small
        omega
    have below : scaled < den * (2 * step) := by
      rw [Nat.mul_comm]
      exact (Nat.div_lt_iff_lt_mul positive).mp small
    rw [shift, Nat.zero_mul, Nat.zero_add, Nat.pow_zero, Nat.mul_one]
    exact nearest_fine scaled den positive below
  · have nonzero : scaled / den ≠ 0 := by omega
    have large : 52 ≤ Nat.log2 (scaled / den) := by
      have log := (Nat.le_log2 nonzero).mpr (Nat.le_of_not_lt small)
      omega
    have floor := Nat.log2_self_le nonzero
    have ceiling := Nat.lt_log2_self (n := scaled / den)
    generalize Nat.log2 (scaled / den) = log at large floor ceiling
    obtain ⟨shift, rfl⟩ : ∃ shift, log = 52 + shift := ⟨log - 52, by omega⟩
    rw [Nat.add_sub_cancel_left]
    have low : step * (den * 2 ^ shift) ≤ scaled := by
      have scaled_floor := (Nat.le_div_iff_mul_le positive).mp floor
      rw [Nat.pow_add, Nat.mul_assoc, Nat.mul_comm (2 ^ shift) den] at scaled_floor
      exact scaled_floor
    have high : scaled < 2 * step * (den * 2 ^ shift) := by
      have scaled_ceiling := (Nat.div_lt_iff_lt_mul positive).mp ceiling
      rw [Nat.add_right_comm, Nat.pow_add, Nat.mul_assoc, Nat.mul_comm (2 ^ shift) den] at scaled_ceiling
      exact scaled_ceiling
    exact nearest_coarse scaled den shift positive low high

-- A whole number in units of 2 ^ -bias.
def inUnits (bias num : Nat) : Nat := num * Nat.pow 2 bias

theorem nearest_rank_scaled (num den : Nat) : nearestRank num den = scaledRank (inUnits 1074 num) den := by
  unfold nearestRank
  -- With a name for the exponent the power is not evaluated.
  generalize 1074 = bias
  rfl

end SignalRules.Binary64
