import SignalRules.Condition.Evaluation

set_option autoImplicit false

namespace SignalRules

def Store.Within (s s' : Store) : Prop := ∀ name value, s.get? name = some value → s'.get? name = some value

theorem within_insert (s : Store) (name : String) (value : Value) (fresh : s.get? name = none) :
    s.Within (s.insert name value) := by
  intro other found known
  have different : other ≠ name := by
    intro same
    rw [same, fresh] at known
    cases known
  rw [NameMap.get?_insert, if_neg different, known]

-- A failure may turn into anything, a success into nothing else.
def Kept {α : Type} (result result' : Except Undetermined α) : Prop := ∀ a, result = .ok a → result' = .ok a

theorem kept_bind {α β : Type} (result result' : Except Undetermined α) (f : α → Except Undetermined β)
    (kept : Kept result result') : Kept (result.bind f) (result'.bind f) := by
  cases result with
  | error e =>
    intro b impossible
    cases impossible
  | ok a =>
    rw [kept a rfl]
    exact fun _ settled => settled

namespace Connective

theorem combine_decided (op : Connective) (first : Except Undetermined Bool) (rest : List (Except Undetermined Bool))
    (decided : op.combine rest = .ok op.decisive) : op.combine (first :: rest) = .ok op.decisive := by
  cases first with
  | error e => simp [combine, decided]
  | ok b =>
    by_cases decides : b = op.decisive
    · simp [combine, decides]
    · simp [combine, decides, decided]

theorem combine_kept (op : Connective) (first first' : Except Undetermined Bool)
    (rest rest' : List (Except Undetermined Bool)) (here : Kept first first')
    (later : Kept (op.combine rest) (op.combine rest')) :
    Kept (op.combine (first :: rest)) (op.combine (first' :: rest')) := by
  intro b combined
  cases first with
  | ok a =>
    rw [here a rfl]
    rw [combine] at combined ⊢
    by_cases decides : a = op.decisive
    · rwa [if_pos decides] at combined ⊢
    · rw [if_neg decides] at combined ⊢
      exact later b combined
  | error e =>
    rw [combine] at combined
    cases whole : op.combine rest with
    | error cause => simp [whole] at combined
    | ok a =>
      by_cases decides : a = op.decisive
      · have same : a = b := by simpa [whole, decides] using combined
        rw [← same, decides]
        apply combine_decided
        rw [later a whole, decides]
      · simp [whole, decides] at combined

end Connective

namespace Condition

theorem read_kept (s s' : Store) (within : s.Within s') (name : String) : Kept (read s name) (read s' name) := by
  intro v found
  rw [read] at found
  cases known : s.get? name with
  | none => simp [known] at found
  | some value => rwa [read, within name value known, ← known]

-- The sides of a comparison may be conditions and operands may be of any type, so the induction is on values.
mutual
theorem value_kept (s s' : Store) (within : s.Within s') : ∀ c : Condition, Kept (value s c) (value s' c)
  | signal name => by
    rw [value, value]
    exact read_kept s s' within name
  | literal v => by
    rw [value, value]
    exact fun _ settled => settled
  | compare op l r => by
    intro v settled
    rw [value] at settled ⊢
    cases left : value s l with
    | error e => simp [left] at settled
    | ok a =>
      cases right : value s r with
      | error e => simp [left, right] at settled
      | ok b =>
        rw [value_kept s s' within l a left, value_kept s s' within r b right]
        simpa [left, right] using settled
  | not c => by
    have operand := kept_bind _ _ (truthOf .negation) (value_kept s s' within c)
    intro v settled
    rw [value] at settled ⊢
    cases truth : (value s c).bind (truthOf .negation) with
    | error e => simp [truth] at settled
    | ok b =>
      rw [operand b truth]
      simpa [truth] using settled
  | join op cs => by
    have operands := truths_kept s s' within op cs
    intro v settled
    rw [value] at settled ⊢
    cases combined : op.combine (truths s op cs) with
    | error e => simp [combined, Except.map] at settled
    | ok b =>
      rw [operands b combined]
      simpa [combined] using settled

theorem truths_kept (s s' : Store) (within : s.Within s') (op : Connective) : ∀ cs : List Condition,
    Kept (op.combine (truths s op cs)) (op.combine (truths s' op cs))
  | [] => fun _ settled => settled
  | c :: cs => by
    have here := kept_bind _ _ (truthOf (.connective op)) (value_kept s s' within c)
    rw [truths, truths]
    exact Connective.combine_kept op _ _ _ _ here (truths_kept s s' within op cs)
end

end Condition

theorem definite_verdicts_persist (c : Condition) (s s' : Store) (b : Bool) (within : s.Within s')
    (verdict : c.evaluate s = .ok b) : c.evaluate s' = .ok b :=
  kept_bind _ _ (Condition.truthOf .condition) (Condition.value_kept s s' within c) b verdict

-- `alarm or (fault and door) == door`
def latchedCondition : Condition :=
  .join .or [.signal "alarm", .compare .eq (.join .and [.signal "fault", .signal "door"]) (.signal "door")]

theorem definite_verdicts_persist_latched :
    let closed : Store := NameMap.empty.insert "door" (.bool false)
    let informed := closed.insert "alarm" (.int 3)
    closed.Within informed ∧ latchedCondition.evaluate closed = .ok true ∧
      latchedCondition.evaluate informed = .ok true := by
  intro closed informed
  have within : closed.Within informed := within_insert closed "alarm" (.int 3) (by decide +kernel)
  have verdict : latchedCondition.evaluate closed = .ok true := rfl
  exact ⟨within, verdict, definite_verdicts_persist latchedCondition closed informed true within verdict⟩

end SignalRules
