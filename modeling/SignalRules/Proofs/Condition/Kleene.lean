import SignalRules.Condition.Evaluation

set_option autoImplicit false

namespace SignalRules

inductive Truth where
  | no
  | unknown
  | yes
deriving DecidableEq, Repr

namespace Truth

def rank : Truth → Nat
  | no => 0
  | unknown => 1
  | yes => 2

instance : LE Truth := ⟨fun a b => a.rank ≤ b.rank⟩
instance (a b : Truth) : Decidable (a ≤ b) := inferInstanceAs (Decidable (a.rank ≤ b.rank))
instance : Min Truth := minOfLe
instance : Max Truth := maxOfLe

def negation : Truth → Truth
  | no => yes
  | unknown => unknown
  | yes => no

def ofBool (b : Bool) : Truth := if b then yes else no

def ofVerdict : Except Undetermined Bool → Truth
  | .ok b => ofBool b
  | .error _ => unknown

def ofValue? : Option Value → Truth
  | some (.bool b) => ofBool b
  | _ => unknown

def value? : Truth → Option Value
  | no => some (.bool false)
  | unknown => none
  | yes => some (.bool true)

end Truth

namespace Value

inductive Family where
  | boolean
  | number
  | text
deriving DecidableEq, Repr

def family : Value → Family
  | bool _ => .boolean
  | int _ => .number
  | float _ => .number
  | string _ => .text

def ranking (a b : Value) : Option Ordering :=
  match a.family with
  | .boolean => if a = b then some .eq else none
  | _ => a.order b

end Value

namespace Comparator

def Compatible (op : Comparator) (a b : Value) : Prop :=
  a.family = b.family ∧ (a.family = .boolean → op = .eq ∨ op = .ne)

instance (op : Comparator) (a b : Value) : Decidable (op.Compatible a b) :=
  inferInstanceAs (Decidable (a.family = b.family ∧ (a.family = .boolean → op = .eq ∨ op = .ne)))

def truth (op : Comparator) : Option Value → Option Value → Truth
  | some a, some b => if op.Compatible a b then .ofBool (op.holds (a.ranking b)) else .unknown
  | _, _ => .unknown

end Comparator

namespace Connective

def pick : Connective → Truth → Truth → Truth
  | and => min
  | or => max

def neutral : Connective → Truth
  | and => .yes
  | or => .no

def extreme (op : Connective) (truths : List Truth) : Truth := truths.foldr op.pick op.neutral

end Connective

namespace Condition

-- The value of a side of a comparison; a side that is a condition of its own stands for its truth value.
def side (store : Store) (c : Condition) (truth : Truth) : Option Value :=
  match c with
  | signal name => store.get? name
  | literal v => some v
  | _ => truth.value?

mutual
def truth (store : Store) : Condition → Truth
  | signal name => .ofValue? (store.get? name)
  | literal v => .ofValue? (some v)
  | not c => (truth store c).negation
  | compare op l r => op.truth (side store l (truth store l)) (side store r (truth store r))
  | join op cs => op.extreme (truthAll store cs)

def truthAll (store : Store) : List Condition → List Truth
  | [] => []
  | c :: cs => truth store c :: truthAll store cs
end

-- Evaluation where a boolean is expected; the place is told if there is another value. `evaluate` does this for a
-- whole condition.
def truthIn (store : Store) (place : TruthPlace) (c : Condition) : Except Undetermined Bool :=
  (value store c).bind (truthOf place)

end Condition

theorem apply_compatible (op : Comparator) (a b : Value) : op.apply a b =
    if op.Compatible a b then .ok (op.holds (a.ranking b)) else .error (.mismatch op a.kind b.kind) := by
  cases a with
  | bool x =>
    cases b with
    | bool y => cases op <;> cases x <;> cases y <;> rfl
    | _ => cases op <;> rfl
  | int i => cases b <;> cases op <;> rfl
  | float x => cases b <;> cases op <;> rfl
  | string s => cases b <;> cases op <;> rfl

theorem truth_of_bool (b : Bool) : (Truth.ofBool b).value? = some (.bool b) := by
  cases b <;> rfl

theorem of_value_value (t : Truth) : Truth.ofValue? t.value? = t := by
  cases t <;> rfl

theorem verdict_value (verdict : Except Undetermined Bool) :
    (Truth.ofVerdict verdict).value? = (verdict.map Value.bool).toOption := by
  cases verdict with
  | error e => rfl
  | ok b => exact truth_of_bool b

theorem verdict_of_value (place : TruthPlace) (found : Except Undetermined Value) :
    Truth.ofVerdict (found.bind (Condition.truthOf place)) = Truth.ofValue? found.toOption := by
  cases found with
  | error e => rfl
  | ok v => cases v <;> rfl

namespace Connective

theorem pick_decisive (op : Connective) (t : Truth) : op.pick (Truth.ofBool op.decisive) t = Truth.ofBool op.decisive := by
  cases op <;> cases t <;> rfl

theorem pick_other (op : Connective) (b : Bool) (other : b ≠ op.decisive) (t : Truth) : op.pick (Truth.ofBool b) t = t := by
  cases op <;> cases b <;> cases t <;> first | rfl | exact absurd rfl other

theorem pick_unknown (op : Connective) (t : Truth) :
    op.pick .unknown t = if t = Truth.ofBool op.decisive then t else .unknown := by
  cases op <;> cases t <;> rfl

theorem combine_truth (op : Connective) (results : List (Except Undetermined Bool)) :
    Truth.ofVerdict (op.combine results) = op.extreme (results.map Truth.ofVerdict) := by
  induction results with
  | nil => cases op <;> rfl
  | cons result results ih =>
    change _ = op.pick (Truth.ofVerdict result) (op.extreme (results.map Truth.ofVerdict))
    cases result with
    | ok b =>
      by_cases decides : b = op.decisive
      · rw [combine, if_pos decides, decides]
        exact (pick_decisive op _).symm
      · rw [combine, if_neg decides, ih]
        exact (pick_other op b decides _).symm
    | error e =>
      rw [combine, Truth.ofVerdict, pick_unknown, ← ih]
      cases combined : op.combine results with
      | error later => cases op <;> rfl
      | ok b => cases op <;> cases b <;> rfl

theorem combine_error (op : Connective) (results : List (Except Undetermined Bool)) (e : Undetermined)
    (failed : op.combine results = .error e) :
    results.find? (fun result => Truth.ofVerdict result = .unknown) = some (.error e) := by
  induction results with
  | nil => cases failed
  | cons result results ih =>
    cases result with
    | ok b =>
      rw [combine] at failed
      by_cases decides : b = op.decisive
      · simp [decides] at failed
      · rw [if_neg decides] at failed
        have known : Truth.ofVerdict (.ok b) ≠ .unknown := by cases b <;> simp [Truth.ofVerdict, Truth.ofBool]
        rw [List.find?_cons_of_neg (by simpa using known)]
        exact ih failed
    | error first =>
      rw [List.find?_cons_of_pos (by simp [Truth.ofVerdict])]
      rw [combine] at failed
      cases combined : op.combine results with
      | error later =>
        rw [combined] at failed
        exact congrArg some failed
      | ok b =>
        by_cases decides : b = op.decisive
        · simp [combined, decides] at failed
        · rw [combined] at failed
          simpa [decides] using failed

end Connective

namespace Condition

theorem truths_in (store : Store) (op : Connective) (cs : List Condition) :
    truths store op cs = cs.map (truthIn store (.connective op)) := by
  induction cs with
  | nil => rfl
  | cons c cs ih => rw [truths, ih]; rfl

-- A side that is a signal or a literal may be any value, so the sides carry the induction and truth follows.
theorem truth_of_side (store : Store) (c : Condition) : Truth.ofValue? (side store c (truth store c)) = truth store c := by
  cases c with
  | signal name => simp [side, truth]
  | literal v => simp [side, truth]
  | not c => exact of_value_value _
  | compare op l r => exact of_value_value _
  | join op cs => exact of_value_value _

theorem truth_in_of_side (store : Store) (c : Condition) (read : (value store c).toOption = side store c (truth store c))
    (place : TruthPlace) : Truth.ofVerdict (truthIn store place c) = truth store c := by
  rw [truthIn, verdict_of_value, read, truth_of_side]

mutual
theorem value_side (store : Store) : ∀ c : Condition, (value store c).toOption = side store c (truth store c)
  | signal name => by
    rw [value, read, side]
    cases store.get? name <;> rfl
  | literal v => rfl
  | not c => by
    have operand := truth_in_of_side store c (value_side store c) .negation
    change _ = (truth store (not c)).value?
    rw [truth, ← operand, value, ← truthIn]
    cases truthIn store .negation c with
    | error e => rfl
    | ok b => cases b <;> rfl
  | compare op l r => by
    have left := value_side store l
    have right := value_side store r
    change _ = (truth store (compare op l r)).value?
    rw [truth, ← left, ← right, value]
    cases value store l with
    | error e => rfl
    | ok a =>
      cases value store r with
      | error e => rfl
      | ok b =>
        by_cases compatible : op.Compatible a b
        · simp [apply_compatible, compatible, Comparator.truth, Except.toOption, Except.map, truth_of_bool]
        · simp [apply_compatible, compatible, Comparator.truth, Except.toOption, Except.map, Truth.value?]
  | join op cs => by
    change _ = (truth store (join op cs)).value?
    rw [truth, value, ← verdict_value, Connective.combine_truth, truths_side store op cs]

theorem truths_side (store : Store) (op : Connective) : ∀ cs : List Condition,
    (truths store op cs).map Truth.ofVerdict = truthAll store cs
  | [] => rfl
  | c :: cs => by
    have here := truth_in_of_side store c (value_side store c) (.connective op)
    rw [truths, truthAll, List.map_cons, truths_side store op cs, ← here]
    rfl
end

theorem truth_in (store : Store) (place : TruthPlace) (c : Condition) :
    Truth.ofVerdict (truthIn store place c) = truth store c :=
  truth_in_of_side store c (value_side store c) place

theorem value_boolean (store : Store) (c : Condition) (inner : c.isAtom = false) :
    ∃ verdict : Except Undetermined Bool, value store c = verdict.map Value.bool := by
  cases c with
  | signal name => simp [isAtom] at inner
  | literal v => simp [isAtom] at inner
  | join op cs => exact ⟨_, by rw [value]⟩
  | not c =>
    rw [value]
    cases (value store c).bind (truthOf .negation) with
    | error e => exact ⟨.error e, rfl⟩
    | ok b => exact ⟨.ok (!b), rfl⟩
  | compare op l r =>
    rw [value]
    cases value store l with
    | error e => exact ⟨.error e, rfl⟩
    | ok a =>
      cases value store r with
      | error e => exact ⟨.error e, rfl⟩
      | ok b => exact ⟨op.apply a b, rfl⟩

theorem value_truth_in (store : Store) (place : TruthPlace) (c : Condition) (inner : c.isAtom = false) :
    value store c = (truthIn store place c).map Value.bool := by
  obtain ⟨verdict, boolean⟩ := value_boolean store c inner
  rw [truthIn, boolean]
  cases verdict with
  | error e => rfl
  | ok b => rfl

theorem unknown_iff (store : Store) (place : TruthPlace) (c : Condition) :
    c.truth store = .unknown ↔ ∃ e, c.truthIn store place = .error e := by
  rw [← truth_in store place c]
  cases c.truthIn store place with
  | error e => simp [Truth.ofVerdict]
  | ok b => cases b <;> simp [Truth.ofVerdict, Truth.ofBool]

theorem join_first_unknown (store : Store) (place : TruthPlace) (op : Connective) (cs : List Condition) (e : Undetermined)
    (failed : (join op cs).truthIn store place = .error e) :
    ∃ c, cs.find? (·.truth store = .unknown) = some c ∧ c.truthIn store (.connective op) = .error e := by
  have combined : op.combine (truths store op cs) = .error e := by
    rw [truthIn, value] at failed
    cases combined : op.combine (truths store op cs) with
    | error first => simpa [combined, Except.map, Except.bind] using failed
    | ok b => simp [combined, Except.map, Except.bind, truthOf, Value.asBool?] at failed
  have first := Connective.combine_error op _ e combined
  rw [truths_in, List.find?_map] at first
  obtain ⟨c, found, same⟩ := Option.map_eq_some_iff.mp first
  refine ⟨c, ?_, same⟩
  rw [← found]
  congr 1
  funext d
  simp [truth_in]

theorem join_error_iff (store : Store) (place : TruthPlace) (op : Connective) (cs : List Condition) (e : Undetermined) :
    (join op cs).truthIn store place = .error e ↔ (join op cs).truth store = .unknown ∧
      ∃ c, cs.find? (·.truth store = .unknown) = some c ∧ c.truthIn store (.connective op) = .error e := by
  constructor
  · intro failed
    exact ⟨(unknown_iff store place _).mpr ⟨e, failed⟩, join_first_unknown store place op cs e failed⟩
  · rintro ⟨unknown, c, found, fault⟩
    obtain ⟨e', failed⟩ := (unknown_iff store place _).mp unknown
    obtain ⟨c', found', fault'⟩ := join_first_unknown store place op cs e' failed
    rw [found, Option.some.injEq] at found'
    rw [← found', fault, Except.error.injEq] at fault'
    rw [failed, fault']

theorem compare_error_iff (store : Store) (place : TruthPlace) (op : Comparator) (l r : Condition) (e : Undetermined) :
    (compare op l r).truthIn store place = .error e ↔ value store l = .error e ∨ ∃ a, value store l = .ok a ∧
      (value store r = .error e ∨ ∃ b, value store r = .ok b ∧ ¬op.Compatible a b ∧ e = .mismatch op a.kind b.kind) := by
  rw [truthIn, value]
  cases value store l with
  | error left => simp [Except.bind]
  | ok a =>
    cases value store r with
    | error right => simp [Except.bind]
    | ok b =>
      by_cases compatible : op.Compatible a b
      · simp [apply_compatible, compatible, Except.map, Except.bind, truthOf, Value.asBool?]
      · simp [apply_compatible, compatible, Except.map, Except.bind, eq_comm]

end Condition

theorem evaluation_is_strong_kleene (store : Store) :
    (∀ c : Condition, Truth.ofVerdict (c.evaluate store) = c.truth store) ∧
      (∀ (place : TruthPlace) (op : Connective) (cs : List Condition) (e : Undetermined),
        (Condition.join op cs).truthIn store place = .error e ↔ (Condition.join op cs).truth store = .unknown ∧
          ∃ c, cs.find? (·.truth store = .unknown) = some c ∧ c.truthIn store (.connective op) = .error e) ∧
      (∀ (place : TruthPlace) (op : Comparator) (l r : Condition) (e : Undetermined),
        (Condition.compare op l r).truthIn store place = .error e ↔
          l.value store = .error e ∨ ∃ a, l.value store = .ok a ∧ (r.value store = .error e ∨
            ∃ b, r.value store = .ok b ∧ ¬op.Compatible a b ∧ e = .mismatch op a.kind b.kind)) ∧
      ∀ (place : TruthPlace) (c : Condition), c.isAtom = false → c.value store = (c.truthIn store place).map .bool :=
  ⟨Condition.truth_in store .condition, Condition.join_error_iff store, Condition.compare_error_iff store,
    Condition.value_truth_in store⟩

end SignalRules
