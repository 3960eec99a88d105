import SignalRules.Proofs.Binary64.Quantity
import SignalRules.Proofs.Condition.Kleene

set_option autoImplicit false

namespace SignalRules

namespace Binary64

theorem of_rank_number (negative : Bool) (rank : Nat) : ofRank negative rank ≠ .nan := by
  rw [ofRank]
  split <;> simp

theorem order_none_iff (x y : Binary64) : x.order y = none ↔ x = .nan ∨ y = .nan := by
  cases x <;> cases y <;> simp [order, key]

end Binary64

namespace Comparator

def mirror : Comparator → Comparator
  | eq => eq
  | ne => ne
  | lt => gt
  | le => ge
  | gt => lt
  | ge => le

def orderings : List Comparator := [lt, le, gt, ge]

theorem holds_mirror (op : Comparator) (order : Option Ordering) : op.mirror.holds (order.map Ordering.swap) = op.holds order := by
  cases order with
  | none => cases op <;> rfl
  | some found => cases op <;> cases found <;> rfl

theorem holds_ne (order : Option Ordering) : ne.holds order = !eq.holds order := rfl

theorem holds_le (order : Option Ordering) : le.holds order = (lt.holds order || eq.holds order) := rfl

theorem holds_ge (order : Option Ordering) : ge.holds order = (gt.holds order || eq.holds order) := rfl

theorem holds_once (order : Option Ordering) : [lt, eq, gt].countP (·.holds order) = if order = none then 0 else 1 := by
  cases order with
  | none => rfl
  | some found => cases found <;> rfl

theorem compatible_mirror (op : Comparator) (a b : Value) : op.mirror.Compatible b a ↔ op.Compatible a b := by
  have equality : (op.mirror = .eq ∨ op.mirror = .ne) ↔ (op = .eq ∨ op = .ne) := by cases op <;> decide
  unfold Compatible
  rw [equality]
  constructor
  · rintro ⟨same, boolean⟩
    exact ⟨same.symm, same ▸ boolean⟩
  · rintro ⟨same, boolean⟩
    exact ⟨same.symm, same ▸ boolean⟩

theorem compatible_ordered (op : Comparator) (a b : Value) (ordered : a.family = b.family ∧ a.family ≠ .boolean) :
    op.Compatible a b :=
  ⟨ordered.1, fun boolean => absurd boolean ordered.2⟩

theorem ordered_compatible (op : Comparator) (a b : Value) (listed : op ∈ orderings) (compatible : op.Compatible a b) :
    a.family = b.family ∧ a.family ≠ .boolean := by
  refine ⟨compatible.1, fun boolean => ?_⟩
  rcases compatible.2 boolean with rfl | rfl
  · exact absurd listed (by decide)
  · exact absurd listed (by decide)

end Comparator

namespace Value

theorem order_swap (a b : Value) : a.order b = (b.order a).map Ordering.swap := by
  cases a with
  | bool x => cases b <;> rfl
  | int i =>
    cases b with
    | int j => exact congrArg some Std.OrientedCmp.eq_swap
    | float y => exact Binary64.order_swap _ y
    | bool _ | string _ => rfl
  | float x =>
    cases b with
    | int j => exact Binary64.order_swap x _
    | float y => exact Binary64.order_swap x y
    | bool _ | string _ => rfl
  | string s =>
    cases b with
    | string t => exact congrArg some Std.OrientedOrd.eq_swap
    | bool _ | int _ | float _ => rfl

theorem ranking_swap (a b : Value) (same : a.family = b.family) : a.ranking b = (b.ranking a).map Ordering.swap := by
  unfold ranking
  rw [← same]
  cases a.family with
  | boolean =>
    by_cases equal : a = b
    · rw [if_pos equal, if_pos equal.symm]
      rfl
    · rw [if_neg equal, if_neg (Ne.symm equal)]
      rfl
  | number => exact order_swap a b
  | text => exact order_swap a b

def isNan : Value → Bool
  | float .nan => true
  | _ => false

theorem ranking_none_iff (a b : Value) (ordered : a.family = b.family ∧ a.family ≠ .boolean) :
    a.ranking b = none ↔ a.isNan = true ∨ b.isNan = true := by
  have whole (i : Int64) : Binary64.ofInt i.toInt ≠ .nan := Binary64.of_rank_number _ _
  have nan (x : Binary64) : (float x).isNan = true ↔ x = .nan := by cases x <;> simp [isNan]
  cases a with
  | bool x => exact absurd rfl ordered.2
  | string s =>
    cases b with
    | string t => exact iff_of_false nofun (by simp [isNan])
    | bool _ | int _ | float _ => exact absurd ordered.1 (by simp [family])
  | int i =>
    cases b with
    | int j => exact iff_of_false nofun (by simp [isNan])
    | float y =>
      rw [nan]
      exact (Binary64.order_none_iff (.ofInt i.toInt) y).trans (by simp [isNan, whole])
    | bool _ | string _ => exact absurd ordered.1 (by simp [family])
  | float x =>
    cases b with
    | int j =>
      rw [nan]
      exact (Binary64.order_none_iff x (.ofInt j.toInt)).trans (by simp [isNan, whole])
    | float y =>
      rw [nan, nan]
      exact Binary64.order_none_iff x y
    | bool _ | string _ => exact absurd ordered.1 (by simp [family])

end Value

namespace Truth

theorem of_bool_not (b : Bool) : ofBool (!b) = (ofBool b).negation := by
  cases b <;> rfl

theorem of_bool_yes (b : Bool) : ofBool b = .yes ↔ b = true := by
  cases b <;> decide

theorem of_bool_known (b : Bool) : ofBool b ≠ .unknown := by
  cases b <;> decide

end Truth

namespace Comparator

theorem truth_compatible (op : Comparator) (a b : Value) (compatible : op.Compatible a b) :
    op.truth (some a) (some b) = .ofBool (op.holds (a.ranking b)) := if_pos compatible

theorem truth_incompatible (op : Comparator) (a b : Value) (apart : ¬op.Compatible a b) :
    op.truth (some a) (some b) = .unknown := if_neg apart

theorem truth_mirror (op : Comparator) (p q : Option Value) : op.mirror.truth q p = op.truth p q := by
  cases p with
  | none => cases q <;> rfl
  | some a =>
    cases q with
    | none => rfl
    | some b =>
      by_cases compatible : op.Compatible a b
      · have turned := (compatible_mirror op a b).mpr compatible
        rw [truth_compatible op a b compatible, truth_compatible _ b a turned, Value.ranking_swap b a compatible.1.symm,
          holds_mirror]
      · have turned := fun turned => compatible ((compatible_mirror op a b).mp turned)
        rw [truth_incompatible op a b compatible, truth_incompatible _ b a turned]

theorem truth_ne (p q : Option Value) : ne.truth p q = (eq.truth p q).negation := by
  cases p with
  | none => cases q <;> rfl
  | some a =>
    cases q with
    | none => rfl
    | some b =>
      have same : ne.Compatible a b ↔ eq.Compatible a b := by simp [Compatible]
      by_cases compatible : eq.Compatible a b
      · rw [truth_compatible eq a b compatible, truth_compatible ne a b (same.mpr compatible), holds_ne, Truth.of_bool_not]
      · rw [truth_incompatible eq a b compatible, truth_incompatible ne a b fun other => compatible (same.mp other)]
        rfl

-- Values of one family other than the booleans: their order is the verdict of all six comparisons.
structure Decided (verdict : Comparator → Truth) (a b : Value) : Prop where
  known : ∀ op, verdict op ≠ .unknown
  atMost : verdict .le = .yes ↔ verdict .lt = .yes ∨ verdict .eq = .yes
  atLeast : verdict .ge = .yes ↔ verdict .gt = .yes ∨ verdict .eq = .yes
  once : [lt, eq, gt].countP (verdict · = .yes) = if a.isNan ∨ b.isNan then 0 else 1

theorem decided (verdict : Comparator → Truth) (a b : Value) (ordered : a.family = b.family ∧ a.family ≠ .boolean)
    (verdicts : ∀ op, verdict op = .ofBool (op.holds (a.ranking b))) : Decided verdict a b := by
  have yes (op : Comparator) : verdict op = .yes ↔ op.holds (a.ranking b) = true := by
    rw [verdicts, Truth.of_bool_yes]
  constructor
  · exact fun op => verdicts op ▸ Truth.of_bool_known _
  · rw [yes, yes, yes, holds_le, Bool.or_eq_true]
  · rw [yes, yes, yes, holds_ge, Bool.or_eq_true]
  · simp only [yes, Bool.decide_eq_true]
    rw [holds_once]
    exact if_congr (Value.ranking_none_iff a b ordered) rfl rfl

end Comparator

theorem verdict_compare (store : Store) (op : Comparator) (l r : Condition) :
    Truth.ofVerdict ((Condition.compare op l r).evaluate store) =
      op.truth (l.value store).toOption (r.value store).toOption := by
  rw [Condition.value_side, Condition.value_side]
  exact Condition.truth_in store .condition (.compare op l r)

theorem comparisons_cohere (store : Store) (l r : Condition) :
    let verdict (op : Comparator) := Truth.ofVerdict ((Condition.compare op l r).evaluate store)
    let mirrored (op : Comparator) := Truth.ofVerdict ((Condition.compare op r l).evaluate store)
    verdict .ne = (verdict .eq).negation ∧ (∀ op, verdict op = mirrored op.mirror) ∧
      ((∀ op ∈ Comparator.orderings, verdict op = .unknown) ∨
        ∃ a b, l.value store = .ok a ∧ r.value store = .ok b ∧ Comparator.Decided verdict a b) := by
  intro verdict mirrored
  simp only [verdict, mirrored, verdict_compare]
  refine ⟨Comparator.truth_ne _ _, fun op => (Comparator.truth_mirror op _ _).symm, ?_⟩
  cases left : l.value store with
  | error e => exact .inl fun op listed => rfl
  | ok a =>
    cases right : r.value store with
    | error e => exact .inl fun op listed => rfl
    | ok b =>
      by_cases ordered : a.family = b.family ∧ a.family ≠ .boolean
      · refine .inr ⟨a, b, rfl, rfl, Comparator.decided _ a b ordered fun op => ?_⟩
        exact Comparator.truth_compatible op a b (Comparator.compatible_ordered op a b ordered)
      · refine .inl fun op listed => Comparator.truth_incompatible op a b fun compatible => ordered ?_
        exact Comparator.ordered_compatible op a b listed compatible

end SignalRules
