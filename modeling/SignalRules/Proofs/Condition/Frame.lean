import SignalRules.Condition.Evaluation

set_option autoImplicit false

namespace SignalRules

def Agree (names : List String) (s s' : Store) : Prop := ∀ name ∈ names, s.get? name = s'.get? name

theorem agree_append (front back : List String) (s s' : Store) (agree : Agree (front ++ back) s s') :
    Agree front s s' ∧ Agree back s s' :=
  ⟨fun name member => agree name (List.mem_append_left back member),
    fun name member => agree name (List.mem_append_right front member)⟩

theorem agree_insert (names : List String) (s : Store) (name : String) (value : Value) (unread : name ∉ names) :
    Agree names (s.insert name value) s := by
  intro other member
  have different : other ≠ name := fun same => unread (same ▸ member)
  rw [NameMap.get?_insert, if_neg different]

namespace Condition

mutual
theorem value_agree (s s' : Store) : ∀ c : Condition, Agree c.occurrences s s' → value s c = value s' c
  | signal name, agree => by
    have same := agree name (by simp [occurrences])
    rw [value, value, read, read, same]
  | literal v, _ => rfl
  | compare op l r, agree => by
    rw [occurrences] at agree
    obtain ⟨left, right⟩ := agree_append _ _ s s' agree
    rw [value, value, value_agree s s' l left, value_agree s s' r right]
  | not c, agree => by
    rw [occurrences] at agree
    rw [value, value, value_agree s s' c agree]
  | join op cs, agree => by
    rw [occurrences] at agree
    rw [value, value, truths_agree s s' op cs agree]

theorem truths_agree (s s' : Store) (op : Connective) : ∀ cs : List Condition, Agree (occurrencesAll cs) s s' →
    truths s op cs = truths s' op cs
  | [], _ => rfl
  | c :: cs, agree => by
    rw [occurrencesAll] at agree
    obtain ⟨here, later⟩ := agree_append _ _ s s' agree
    rw [truths, truths, value_agree s s' c here, truths_agree s s' op cs later]
end

theorem evaluate_agree (s s' : Store) (c : Condition) (agree : Agree c.occurrences s s') : c.evaluate s = c.evaluate s' := by
  rw [evaluate, evaluate, value_agree s s' c agree]

end Condition
end SignalRules
