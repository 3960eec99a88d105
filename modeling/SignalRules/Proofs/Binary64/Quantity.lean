import Mathlib.Algebra.Order.Field.Rat
import Mathlib.Data.Rat.Cast.Order
import Mathlib.Order.Compare
import SignalRules.Proofs.Binary64.Nearest

set_option autoImplicit false

namespace SignalRules

abbrev Quantity := WithBot (WithTop ℚ)

namespace Quantity

def ofRat (r : ℚ) : Quantity := ((r : WithTop ℚ) : WithBot (WithTop ℚ))
def ofUnits (n : Int) : Quantity := ofRat (n / 2 ^ 1074)
def ofInt (i : Int) : Quantity := ofRat i

theorem of_rat_lt (r s : ℚ) : ofRat r < ofRat s ↔ r < s := by
  rw [ofRat, ofRat, WithBot.coe_lt_coe, WithTop.coe_lt_coe]

theorem of_units_lt (m n : Int) : ofUnits m < ofUnits n ↔ m < n := by
  have positive : (0 : ℚ) < 2 ^ 1074 := pow_pos (by decide) 1074
  rw [ofUnits, ofUnits, of_rat_lt, div_lt_div_iff_of_pos_right positive, Int.cast_lt]

theorem of_units_le (m n : Int) : ofUnits m ≤ ofUnits n ↔ m ≤ n := by
  rw [← not_lt, of_units_lt, not_lt]

theorem of_int_units (i : Int) : ofInt i = ofUnits (i * 2 ^ 1074) := by
  have nonzero : (2 : ℚ) ^ 1074 ≠ 0 := pow_ne_zero 1074 (by decide)
  rw [ofInt, ofUnits, Int.cast_mul, Int.cast_pow, Int.cast_ofNat, mul_div_cancel_right₀ _ nonzero]

theorem of_int_lt (i j : Int) : ofInt i < ofInt j ↔ i < j := by
  rw [ofInt, ofInt, of_rat_lt, Int.cast_lt]

theorem cmp_of_int (i j : Int) : cmp (ofInt i) (ofInt j) = compare i j := by
  have mono : StrictMono ofInt := fun i j => (of_int_lt i j).mpr
  rw [mono.cmp_map_eq, cmp_eq_compare]

end Quantity

namespace Binary64
open Quantity (ofUnits)

def quantity? : Binary64 → Option Quantity
  | nan => none
  | infinity negative => some (if negative then ⊥ else ⊤)
  | finite negative rank => some (ofUnits (if negative then -units rank.val else units rank.val))

def signedUnits (key : Int) : Int := if key < 0 then -units key.natAbs else units key.natAbs

theorem signed_units_sign (negative : Bool) (rank : Nat) :
    signedUnits (if negative then -rank else rank) = if negative then -(units rank : Int) else units rank := by
  cases negative with
  | false => simp [signedUnits]
  | true =>
    by_cases zero : rank = 0
    · subst zero
      rfl
    · have below : -(rank : Int) < 0 := by omega
      simp only [signedUnits, if_true, if_pos below, Int.natAbs_neg, Int.natAbs_natCast]

theorem signed_units_lt (a b : Int) (less : a < b) : signedUnits a < signedUnits b := by
  have mono (m n : Nat) (less : m < n) : (units m : Int) < units n := Int.ofNat_lt.mpr (units_lt m n less)
  unfold signedUnits
  by_cases right : b < 0
  · rw [if_pos (by omega), if_pos right]
    have apart := mono b.natAbs a.natAbs (by omega)
    omega
  · rw [if_neg right]
    by_cases left : a < 0
    · rw [if_pos left]
      have apart := mono 0 a.natAbs (by omega)
      omega
    · rw [if_neg left]
      exact mono a.natAbs b.natAbs (by omega)

-- The exact value that a signed rank stands for; the rank after the last finite one is that of the infinity.
def ofKey (key : Int) : Quantity := if key ≤ -limit then ⊥ else if limit ≤ key then ⊤ else ofUnits (signedUnits key)

theorem key_bounds (x : Binary64) (key : Int) (keyed : x.key = some key) : -(limit : Int) ≤ key ∧ key ≤ limit := by
  cases x with
  | nan => cases keyed
  | infinity negative => cases negative <;> cases keyed <;> omega
  | finite negative rank =>
    have bound := rank.isLt
    cases negative <;> cases keyed <;> omega

theorem quantity_key (x : Binary64) : x.quantity? = x.key.map ofKey := by
  cases x with
  | nan => rfl
  | infinity negative =>
    cases negative with
    | true => rfl
    | false => simp [quantity?, key, ofKey]
  | finite negative rank =>
    have bound := rank.isLt
    have inside : ¬(if negative then -(rank.val : Int) else rank.val) ≤ -limit ∧
        ¬(limit : Int) ≤ if negative then -(rank.val : Int) else rank.val := by
      cases negative with
      | true => simp only [if_true]; omega
      | false => simp only [Bool.false_eq_true, if_false]; omega
    rw [quantity?, key, Option.map_some, ofKey, if_neg inside.1, if_neg inside.2, signed_units_sign]

theorem of_key_lt (a b : Int) (low : -(limit : Int) ≤ a) (less : a < b) (high : b ≤ limit) : ofKey a < ofKey b := by
  rw [ofKey, ofKey, if_neg (show ¬b ≤ -(limit : Int) by omega), if_neg (show ¬(limit : Int) ≤ a by omega)]
  by_cases first : a ≤ -limit
  · rw [if_pos first]
    by_cases last : (limit : Int) ≤ b
    · rw [if_pos last]
      exact WithBot.bot_lt_coe ⊤
    · rw [if_neg last]
      exact WithBot.bot_lt_coe _
  · rw [if_neg first]
    by_cases last : (limit : Int) ≤ b
    · rw [if_pos last]
      exact WithBot.coe_lt_coe.mpr (WithTop.coe_lt_top _)
    · rw [if_neg last, Quantity.of_units_lt]
      exact signed_units_lt a b less

theorem order_quantity (x y : Binary64) (p q : Quantity) (left : x.quantity? = some p) (right : y.quantity? = some q) :
    x.order y = some (cmp p q) := by
  rw [quantity_key, Option.map_eq_some_iff] at left right
  obtain ⟨a, keyed, rfl⟩ := left
  obtain ⟨b, keyed', rfl⟩ := right
  have bounds := key_bounds x a keyed
  have bounds' := key_bounds y b keyed'
  rw [order, keyed, keyed']
  refine congrArg some ?_
  rcases lt_trichotomy a b with less | rfl | more
  · have apart := of_key_lt a b bounds.1 less bounds'.2
    rw [(cmp_eq_lt_iff _ _).mpr apart, ← cmp_eq_compare, (cmp_eq_lt_iff _ _).mpr less]
  · rw [cmp_self_eq_eq, ← cmp_eq_compare, cmp_self_eq_eq]
  · have apart := of_key_lt b a bounds'.1 more bounds.2
    rw [(cmp_eq_gt_iff _ _).mpr apart, ← cmp_eq_compare, (cmp_eq_gt_iff _ _).mpr more]

theorem order_swap (x y : Binary64) : x.order y = (y.order x).map Ordering.swap := by
  unfold order
  cases x.key with
  | none => cases y.key <;> rfl
  | some a =>
    cases y.key with
    | none => rfl
    | some b => exact congrArg some Std.OrientedCmp.eq_swap

theorem nearest_above (num rank other : Nat) (nearest : Nearest num 1 rank) (below : units other ≤ num) : other ≤ rank := by
  refine Nat.le_of_not_lt fun less => ?_
  have high := nearest.high
  rw [twiceHigh, Nat.mul_one] at high
  have next := units_le (rank + 1) other less
  have here := units_lt rank (rank + 1) (Nat.lt_succ_self rank)
  omega

theorem nearest_below (num rank other : Nat) (nearest : Nearest num 1 rank) (above : num ≤ units other) : rank ≤ other := by
  refine Nat.le_of_not_lt fun less => ?_
  have low := nearest.low
  rw [twiceLow, Nat.mul_one] at low
  have previous := units_le other (rank - 1) (by omega)
  have here := units_lt (rank - 1) rank (by omega)
  omega

theorem nearest_side (num rank : Nat) (nearest : Nearest num 1 rank) (key : Int) :
    (signedUnits key ≤ num → signedUnits key ≤ units rank) ∧ ((num : Int) ≤ signedUnits key → units rank ≤ signedUnits key) := by
  unfold signedUnits
  by_cases negative : key < 0
  · rw [if_pos negative]
    have positive := units_lt 0 key.natAbs (by omega)
    omega
  · rw [if_neg negative]
    constructor
    · intro below
      exact Int.ofNat_le.mpr (units_le _ _ (nearest_above num rank _ nearest (Int.ofNat_le.mp below)))
    · intro above
      exact Int.ofNat_le.mpr (units_le _ _ (nearest_below num rank _ nearest (Int.ofNat_le.mp above)))

theorem rank_of_multiple (bias m : Nat) (small : m ≤ 2 * step) :
    ∃ rank, units rank = inUnits bias m ∧ rank ≤ (bias + 2) * step := by
  simp only [inUnits, Nat.pow_eq]
  induction bias generalizing m with
  | zero => exact ⟨m, by rw [units_small m small, Nat.pow_zero, Nat.mul_one], by omega⟩
  | succ bias ih =>
    by_cases low : m < step
    · obtain ⟨rank, exact_units, bound⟩ := ih (2 * m) (by omega)
      refine ⟨rank, ?_, Nat.le_trans bound (Nat.mul_le_mul_right _ (by omega))⟩
      rw [exact_units, Nat.pow_succ, Nat.mul_comm 2 m, Nat.mul_assoc, Nat.mul_comm 2]
    · refine ⟨(bias + 1) * step + m, units_scaled (bias + 1) m (by omega) small, ?_⟩
      rw [Nat.add_mul (bias + 1) 2 step]
      omega

theorem signed_units_neg (key : Int) : signedUnits (-key) = -signedUnits key := by
  unfold signedUnits
  rw [Int.natAbs_neg]
  rcases Int.lt_trichotomy key 0 with negative | rfl | positive
  · rw [if_neg (by omega), if_pos negative, Int.neg_neg]
  · rfl
  · rw [if_pos (by omega), if_neg (by omega)]

theorem nearest_rank_whole (n : Nat) : Nearest (inUnits 1074 n) 1 (nearestRank n 1) := by
  rw [nearest_rank_scaled]
  exact scaled_rank_nearest _ 1 (by decide)

theorem in_units_cast (bias n : Nat) : ((inUnits bias n : Nat) : Int) = n * 2 ^ bias := by
  rw [inUnits, Nat.pow_eq, Int.natCast_mul, Int.natCast_pow]
  rfl

theorem in_units_le (bias n : Nat) (bounded : n ≤ 2 ^ 63) : inUnits bias n ≤ inUnits (bias + 11) step := by
  have scaled := Nat.mul_le_mul_right (2 ^ bias) bounded
  rw [inUnits, inUnits, Nat.pow_eq, Nat.pow_eq, Nat.pow_add]
  simp only [step]
  omega

theorem nearest_rank_lt (n : Nat) (bounded : n ≤ 2 ^ 63) : nearestRank n 1 < limit := by
  obtain ⟨rank, exact_units, bound⟩ := rank_of_multiple (1074 + 11) step (by decide)
  have above := in_units_le 1074 n bounded
  rw [← exact_units] at above
  have low := nearest_below _ _ _ (nearest_rank_whole n) above
  have room : (1074 + 11 + 2) * step < limit := by decide
  omega

theorem int64_nat_abs (i : Int64) : i.toInt.natAbs ≤ 2 ^ 63 := by
  have low := Int64.le_toInt i
  have high := Int64.toInt_lt i
  omega

theorem of_int_quantity (n : Int) (bounded : n.natAbs ≤ 2 ^ 63) : (ofInt n).quantity? =
    some (ofUnits (if n < 0 then -units (nearestRank n.natAbs 1) else units (nearestRank n.natAbs 1))) := by
  rw [ofInt, ofRatio, ofRank, dif_pos (nearest_rank_lt _ bounded), quantity?]
  simp only [decide_eq_true_eq]

theorem of_int_side (n : Int) (bounded : n.natAbs ≤ 2 ^ 63) (y : Binary64) (p q : Quantity)
    (rounded : (ofInt n).quantity? = some p) (other : y.quantity? = some q) :
    (q ≤ Quantity.ofInt n → q ≤ p) ∧ (Quantity.ofInt n ≤ q → p ≤ q) := by
  rw [of_int_quantity n bounded, Option.some.injEq] at rounded
  rw [quantity_key, Option.map_eq_some_iff] at other
  obtain ⟨key, -, rfl⟩ := other
  rw [← rounded, Quantity.of_int_units, ofKey]
  by_cases first : key ≤ -limit
  · rw [if_pos first]
    exact ⟨fun _ => bot_le, fun above => absurd above (not_le.mpr (WithBot.bot_lt_coe _))⟩
  · rw [if_neg first]
    by_cases last : (limit : Int) ≤ key
    · rw [if_pos last]
      exact ⟨fun below => absurd below (not_le.mpr (WithBot.coe_lt_coe.mpr (WithTop.coe_lt_top _))), fun _ => le_top⟩
    · rw [if_neg last]
      simp only [Quantity.of_units_le]
      have nearest := nearest_rank_whole n.natAbs
      by_cases negative : n < 0
      · have mirrored := nearest_side _ _ nearest (-key)
        rw [signed_units_neg, in_units_cast, Int.ofNat_natAbs_of_nonpos (Int.le_of_lt negative), Int.neg_mul] at mirrored
        rw [if_pos negative]
        exact ⟨fun below => Int.le_neg_of_le_neg (mirrored.2 (Int.neg_le_neg below)),
          fun above => Int.neg_le_of_neg_le (mirrored.1 (Int.neg_le_neg above))⟩
      · have side := nearest_side _ _ nearest key
        rw [in_units_cast, Int.natAbs_of_nonneg (Int.not_lt.mp negative)] at side
        rw [if_neg negative]
        exact side

theorem of_int_exact (n : Int) (small : n.natAbs ≤ 2 ^ 53) : (ofInt n).quantity? = some (Quantity.ofInt n) := by
  obtain ⟨rank, exact_units, bound⟩ := rank_of_multiple 1074 _ small
  have room : (1074 + 2) * step < limit := by decide
  have other : (finite (decide (n < 0)) ⟨rank, Nat.lt_of_le_of_lt bound room⟩).quantity? = some (Quantity.ofInt n) := by
    rw [quantity?, exact_units, in_units_cast, Quantity.of_int_units]
    by_cases negative : n < 0
    · simp only [negative, decide_true, if_true, Int.ofNat_natAbs_of_nonpos (Int.le_of_lt negative), Int.neg_mul, Int.neg_neg]
    · simp only [negative, decide_false, Bool.false_eq_true, if_false, Int.natAbs_of_nonneg (Int.not_lt.mp negative)]
  have bounded : n.natAbs ≤ 2 ^ 63 := Nat.le_trans small (by decide)
  have rounded := of_int_quantity n bounded
  obtain ⟨above, below⟩ := of_int_side n bounded _ _ _ rounded other
  rw [rounded, le_antisymm (below le_rfl) (above le_rfl)]

end Binary64
end SignalRules
