import SignalRules.Condition.Evaluation
import SignalRules.Proofs.Binary64.Quantity

set_option autoImplicit false

namespace SignalRules

namespace Value

def quantity? : Value → Option Quantity
  | int i => some (.ofInt i.toInt)
  | float x => x.quantity?
  | _ => none

-- The exact value of the floating-point number that stands for a number where it meets another one.
def rounded? (v : Value) : Option Quantity := v.asFloat?.bind Binary64.quantity?

def Blurred (a b : Value) : Prop := a.kind ≠ b.kind ∧ a.quantity? ≠ b.quantity? ∧ a.rounded? = b.rounded?

instance (a b : Value) : Decidable (a.Blurred b) :=
  inferInstanceAs (Decidable (a.kind ≠ b.kind ∧ a.quantity? ≠ b.quantity? ∧ a.rounded? = b.rounded?))

end Value

def Comparator.Relates (op : Comparator) (p q : Quantity) : Prop :=
  match op with
  | .eq => p = q
  | .ne => p ≠ q
  | .lt => p < q
  | .le => p ≤ q
  | .gt => q < p
  | .ge => q ≤ p

instance (op : Comparator) (p q : Quantity) : Decidable (op.Relates p q) :=
  match op with
  | .eq => inferInstanceAs (Decidable (p = q))
  | .ne => inferInstanceAs (Decidable (p ≠ q))
  | .lt => inferInstanceAs (Decidable (p < q))
  | .le => inferInstanceAs (Decidable (p ≤ q))
  | .gt => inferInstanceAs (Decidable (q < p))
  | .ge => inferInstanceAs (Decidable (q ≤ p))

theorem holds_cmp (op : Comparator) (p q : Quantity) : op.holds (some (cmp p q)) = decide (op.Relates p q) := by
  rcases lt_trichotomy p q with less | rfl | more
  · rw [(cmp_eq_lt_iff p q).mpr less]
    cases op <;> simp [Comparator.holds, Comparator.Relates, less, less.le, less.ne, less.not_gt, not_le.mpr less]
  · rw [cmp_self_eq_eq]
    cases op <;> simp [Comparator.holds, Comparator.Relates]
  · rw [(cmp_eq_gt_iff p q).mpr more]
    cases op <;> simp [Comparator.holds, Comparator.Relates, more, more.le, more.ne', more.not_gt, not_le.mpr more]

-- What is rounded without passing `q` stands to `q` as before, unless it comes to be `q`.
theorem cmp_rounded (p p' q : Quantity) (above : q ≤ p → q ≤ p') (below : p ≤ q → p' ≤ q) (apart : p' ≠ q) :
    cmp p' q = cmp p q := by
  rcases lt_trichotomy p q with less | rfl | more
  · rw [(cmp_eq_lt_iff p q).mpr less, (cmp_eq_lt_iff p' q).mpr (lt_of_le_of_ne (below less.le) apart)]
  · exact absurd (le_antisymm (below le_rfl) (above le_rfl)) apart
  · rw [(cmp_eq_gt_iff p q).mpr more, (cmp_eq_gt_iff p' q).mpr (lt_of_le_of_ne (above more.le) apart.symm)]

namespace Value

theorem blurred_symm (a b : Value) (blurred : a.Blurred b) : b.Blurred a :=
  ⟨blurred.1.symm, blurred.2.1.symm, blurred.2.2.symm⟩

theorem integers_clear (i j : Int64) : ¬(int i).Blurred (int j) := fun blurred => blurred.1 rfl

theorem floats_clear (x y : Binary64) : ¬(float x).Blurred (float y) := fun blurred => blurred.1 rfl

theorem rounded_int (i : Int64) : (int i).rounded? = (Binary64.ofInt i.toInt).quantity? := by
  rw [rounded?, asFloat?, Option.bind_some]

theorem rounded_float (x : Binary64) : (float x).rounded? = x.quantity? := by
  rw [rounded?, asFloat?, Option.bind_some]

theorem order_mixed (i : Int64) (y : Binary64) (q : Quantity) (other : y.quantity? = some q) :
    (Binary64.ofInt i.toInt).order y =
      some (cmp (Quantity.ofInt i.toInt) (if (int i).Blurred (float y) then .ofInt i.toInt else q)) := by
  have bounded := Binary64.int64_nat_abs i
  have rounded := Binary64.of_int_quantity i.toInt bounded
  generalize Quantity.ofUnits _ = p' at rounded
  obtain ⟨above, below⟩ := Binary64.of_int_side i.toInt bounded y p' q rounded other
  have blurred : (int i).Blurred (float y) ↔ Quantity.ofInt i.toInt ≠ q ∧ p' = q := by
    rw [Blurred, rounded_int, rounded_float, rounded, quantity?, quantity?, other]
    simp [kind]
  rw [Binary64.order_quantity _ y p' q rounded other]
  refine congrArg some ?_
  by_cases reached : p' = q
  · by_cases same : Quantity.ofInt i.toInt = q
    · rw [if_neg (fun blur => (blurred.mp blur).1 same), reached, same]
    · rw [if_pos (blurred.mpr ⟨same, reached⟩), reached, cmp_self_eq_eq, cmp_self_eq_eq]
  · rw [if_neg (fun blur => reached (blurred.mp blur).2), cmp_rounded _ p' q above below reached]

theorem order_numbers (a b : Value) (p q : Quantity) (left : a.quantity? = some p) (right : b.quantity? = some q) :
    a.order b = some (cmp p (if a.Blurred b then p else q)) := by
  cases a with
  | bool _ | string _ => cases left
  | int i =>
    cases left
    cases b with
    | bool _ | string _ => cases right
    | int j =>
      cases right
      rw [if_neg (integers_clear i j), Quantity.cmp_of_int]
      rfl
    | float y => exact order_mixed i y q right
  | float x =>
    cases b with
    | bool _ | string _ => cases right
    | float y =>
      rw [if_neg (floats_clear x y)]
      exact Binary64.order_quantity x y p q left right
    | int j =>
      cases right
      change x.order (Binary64.ofInt j.toInt) = _
      rw [Binary64.order_swap, order_mixed j x p left, Option.map_some, cmp_swap]
      by_cases blurred : (float x).Blurred (int j)
      · rw [if_pos blurred, if_pos (blurred_symm _ _ blurred), cmp_self_eq_eq, cmp_self_eq_eq]
      · rw [if_neg blurred, if_neg fun blur => blurred (blurred_symm _ _ blur)]

theorem apply_numbers (op : Comparator) (a b : Value) (p q : Quantity) (left : a.quantity? = some p)
    (right : b.quantity? = some q) : op.apply a b = .ok (decide (op.Relates p (if a.Blurred b then p else q))) := by
  have numbers : op.apply a b = .ok (op.holds (a.order b)) := by
    cases a with
    | bool _ | string _ => cases left
    | int _ | float _ =>
      cases b with
      | bool _ | string _ => cases right
      | int _ | float _ => cases op <;> rfl
  rw [numbers, order_numbers a b p q left right, holds_cmp]

theorem blurred_wide (a b : Value) (blurred : a.Blurred b) (i : Int64) (side : a = .int i ∨ b = .int i) :
    2 ^ 53 < i.toInt.natAbs := by
  refine Nat.lt_of_not_le fun small => ?_
  have kept := Binary64.of_int_exact i.toInt small
  obtain ⟨different, apart, rounded⟩ := blurred
  rcases side with rfl | rfl
  · rw [rounded_int, kept] at rounded
    cases b with
    | int j => exact different rfl
    | float y => exact apart (rounded.trans (rounded_float y))
    | bool _ | string _ => cases rounded
  · rw [rounded_int, kept] at rounded
    cases a with
    | int j => exact different rfl
    | float y => exact apart ((rounded_float y).symm.trans rounded)
    | bool _ | string _ => cases rounded

end Value

namespace Condition

structure Numeric (store : Store) (c : Condition) (a : Value) (p : Quantity) : Prop where
  reads : c.value store = .ok a
  amounts : a.quantity? = some p

theorem evaluate_compare (store : Store) (op : Comparator) (l r : Condition) (a b : Value) (left : l.value store = .ok a)
    (right : r.value store = .ok b) : (compare op l r).evaluate store = op.apply a b := by
  rw [evaluate, value, left, right]
  change ((op.apply a b).map Value.bool).bind (truthOf .condition) = _
  cases op.apply a b <;> rfl

theorem compare_numbers (store : Store) (op : Comparator) (l r : Condition) (a b : Value) (p q : Quantity)
    (left : l.Numeric store a p) (right : r.Numeric store b q) :
    (compare op l r).evaluate store = .ok (decide (op.Relates p (if a.Blurred b then p else q))) := by
  rw [evaluate_compare store op l r a b left.reads right.reads, Value.apply_numbers op a b p q left.amounts right.amounts]

end Condition

theorem relates_trans (op : Comparator) (p q r : Quantity) (listed : op = .eq ∨ op = .le) (first : op.Relates p q)
    (second : op.Relates q r) : op.Relates p r := by
  rcases listed with rfl | rfl
  · exact Eq.trans first second
  · exact le_trans first second

theorem relates_self (op : Comparator) (p : Quantity) (listed : op = .eq ∨ op = .le) : op.Relates p p := by
  rcases listed with rfl | rfl
  · exact rfl
  · exact le_rfl

theorem numbers_compare_exactly_unless_blurred (store : Store) :
    (∀ (op : Comparator) (l r : Condition) (a b : Value) (p q : Quantity), l.Numeric store a p → r.Numeric store b q →
      (Condition.compare op l r).evaluate store = .ok (decide (op.Relates p (if a.Blurred b then p else q)))) ∧
    (∀ (op : Comparator) (x y z : Condition) (a b c : Value) (p q r : Quantity), op = .eq ∨ op = .le →
      x.Numeric store a p → y.Numeric store b q → z.Numeric store c r → ¬a.Blurred b → ¬b.Blurred c →
        (Condition.compare op x y).evaluate store = .ok true → (Condition.compare op y z).evaluate store = .ok true →
          (Condition.compare op x z).evaluate store = .ok true) ∧
    ∀ (a b : Value) (i : Int64), a.Blurred b → a = .int i ∨ b = .int i → 2 ^ 53 < i.toInt.natAbs := by
  refine ⟨Condition.compare_numbers store, ?_, fun a b i blurred => Value.blurred_wide a b blurred i⟩
  intro op x y z a b c p q r listed first second third clear clear' left right
  rw [Condition.compare_numbers store op x y a b p q first second, if_neg clear, Except.ok.injEq, decide_eq_true_eq] at left
  rw [Condition.compare_numbers store op y z b c q r second third, if_neg clear', Except.ok.injEq, decide_eq_true_eq] at right
  rw [Condition.compare_numbers store op x z a c p r first third, Except.ok.injEq, decide_eq_true_eq]
  by_cases blurred : a.Blurred c
  · rw [if_pos blurred]
    exact relates_self op p listed
  · rw [if_neg blurred]
    exact relates_trans op p q r listed left right

theorem level_quantity : (Value.float (.ofInt 9007199254740992)).quantity? = some (.ofInt 9007199254740992) :=
  Binary64.of_int_exact 9007199254740992 (by decide)

theorem wide_blurred : (Value.int 9007199254740993).Blurred (.float (.ofInt 9007199254740992)) := by
  have together : Binary64.ofInt 9007199254740993 = Binary64.ofInt 9007199254740992 := by decide +kernel
  have wide : (9007199254740993 : Int64).toInt = 9007199254740993 := by decide
  refine ⟨by decide, ?_, ?_⟩
  · rw [level_quantity, Value.quantity?, wide, ne_eq, Option.some.injEq]
    exact ((Quantity.of_int_lt _ _).mpr (by decide)).ne'
  · rw [Value.rounded_int, Value.rounded_float, wide, together]

theorem numbers_compare_exactly_unless_blurred_ticks :
    let store : Store := NameMap.empty.insert "ticks" (.int 9007199254740993)
    let ticks := Condition.signal "ticks"
    let whole := Condition.literal (.int 9007199254740992)
    let level := Condition.literal (.float (.ofInt 9007199254740992))
    let bound := Condition.literal (.float (.infinity false))
    (Condition.compare .eq ticks level).evaluate store = .ok true ∧
      (Condition.compare .le whole level).evaluate store = .ok true ∧
      (Condition.compare .le whole bound).evaluate store = .ok true := by
  intro store ticks whole level bound
  obtain ⟨compared, transitive, wide⟩ := numbers_compare_exactly_unless_blurred store
  have first : ticks.Numeric store (.int 9007199254740993) (.ofInt 9007199254740993) := ⟨rfl, rfl⟩
  have second : whole.Numeric store (.int 9007199254740992) (.ofInt 9007199254740992) := ⟨rfl, rfl⟩
  have third : level.Numeric store (.float (.ofInt 9007199254740992)) (.ofInt 9007199254740992) := ⟨rfl, level_quantity⟩
  have fourth : bound.Numeric store (.float (.infinity false)) ⊤ := ⟨rfl, rfl⟩
  have clear : ¬(Value.int 9007199254740992).Blurred (.float (.ofInt 9007199254740992)) :=
    fun blurred => absurd (wide _ _ 9007199254740992 blurred (.inl rfl)) (by decide)
  have clear' := Value.floats_clear (.ofInt 9007199254740992) (.infinity false)
  have equal := compared .eq ticks level _ _ _ _ first third
  have left := compared .le whole level _ _ _ _ second third
  have right := compared .le level bound _ _ _ _ third fourth
  rw [if_pos wide_blurred, decide_eq_true (relates_self .eq _ (.inl rfl))] at equal
  rw [if_neg clear, decide_eq_true (relates_self .le _ (.inr rfl))] at left
  rw [if_neg clear', decide_eq_true (show Comparator.le.Relates _ ⊤ from le_top)] at right
  exact ⟨equal, left, transitive .le whole level bound _ _ _ _ _ _ (.inr rfl) second third fourth clear clear' left right⟩

theorem wide_not_level (op : Comparator) (listed : op = .eq ∨ op = .le) :
    ¬op.Relates (.ofInt 9007199254740993) (.ofInt 9007199254740992) := by
  have more : Quantity.ofInt 9007199254740992 < .ofInt 9007199254740993 := (Quantity.of_int_lt _ _).mpr (by decide)
  rcases listed with rfl | rfl
  · exact more.ne'
  · exact not_le.mpr more

theorem wide_integers_compare_inexactly :
    let wide := Value.int 9007199254740993
    let level := Value.float (.ofInt 9007199254740992)
    let whole := Value.int 9007199254740992
    (¬∀ (store : Store) (op : Comparator) (a b : Value) (p q : Quantity), a.quantity? = some p → b.quantity? = some q →
      (Condition.compare op (.literal a) (.literal b)).evaluate store = .ok (decide (op.Relates p q))) ∧
    ∀ (store : Store) (op : Comparator), op = .eq ∨ op = .le →
      (Condition.compare op (.literal wide) (.literal level)).evaluate store = .ok true ∧
        (Condition.compare op (.literal level) (.literal whole)).evaluate store = .ok true ∧
        (Condition.compare op (.literal wide) (.literal whole)).evaluate store = .ok false := by
  intro wide level whole
  have first (store : Store) : (Condition.literal wide).Numeric store wide (.ofInt 9007199254740993) := ⟨rfl, rfl⟩
  have second (store : Store) : (Condition.literal level).Numeric store level (.ofInt 9007199254740992) :=
    ⟨rfl, level_quantity⟩
  have third (store : Store) : (Condition.literal whole).Numeric store whole (.ofInt 9007199254740992) := ⟨rfl, rfl⟩
  have clear : ¬level.Blurred whole := fun blurred =>
    absurd (Value.blurred_wide _ _ blurred 9007199254740992 (.inr rfl)) (by decide)
  have equal (store : Store) (op : Comparator) (listed : op = .eq ∨ op = .le) :
      (Condition.compare op (.literal wide) (.literal level)).evaluate store = .ok true := by
    rw [Condition.compare_numbers store op _ _ _ _ _ _ (first store) (second store), if_pos wide_blurred,
      decide_eq_true (relates_self op _ listed)]
  constructor
  · intro exactly
    have exact_verdict := exactly NameMap.empty .eq wide level _ _ (first NameMap.empty).amounts level_quantity
    rw [equal NameMap.empty .eq (.inl rfl), decide_eq_false (wide_not_level .eq (.inl rfl))] at exact_verdict
    cases exact_verdict
  · intro store op listed
    refine ⟨equal store op listed, ?_, ?_⟩
    · rw [Condition.compare_numbers store op _ _ _ _ _ _ (second store) (third store), if_neg clear,
        decide_eq_true (relates_self op _ listed)]
    · rw [Condition.compare_numbers store op _ _ _ _ _ _ (first store) (third store), if_neg (Value.integers_clear _ _),
        decide_eq_false (wide_not_level op listed)]

end SignalRules
