import SignalRules.Condition.Basic

set_option autoImplicit false

namespace SignalRules.Condition

mutual
def parts : Condition → List Condition
  | compare op left right => compare op left right :: (parts left ++ parts right)
  | join op operands => join op operands :: partsAll operands
  | not operand => not operand :: parts operand
  | signal name => [signal name]
  | literal value => [literal value]

def partsAll : List Condition → List Condition
  | [] => []
  | operand :: rest => parts operand ++ partsAll rest
end

@[simp] theorem parts_compare (op : Comparator) (l r : Condition) :
    (compare op l r).parts = compare op l r :: (l.parts ++ r.parts) := rfl

@[simp] theorem parts_join (op : Connective) (cs : List Condition) : (join op cs).parts = join op cs :: partsAll cs := rfl

@[simp] theorem parts_not (c : Condition) : (not c).parts = not c :: c.parts := rfl

@[simp] theorem parts_signal (name : String) : (signal name).parts = [signal name] := rfl

@[simp] theorem parts_literal (value : Value) : (literal value).parts = [literal value] := rfl

@[simp] theorem parts_all_nil : partsAll [] = [] := rfl

@[simp] theorem parts_all_cons (c : Condition) (cs : List Condition) : partsAll (c :: cs) = c.parts ++ partsAll cs := rfl

theorem mem_parts_all (part : Condition) (cs : List Condition) : part ∈ partsAll cs ↔ ∃ c ∈ cs, part ∈ c.parts := by
  induction cs with
  | nil => simp
  | cons c cs ih => simp [ih]

def Throughout (p : Condition → Prop) (c : Condition) : Prop := ∀ part ∈ c.parts, p part

theorem throughout_compare (p : Condition → Prop) (op : Comparator) (l r : Condition) :
    (compare op l r).Throughout p ↔ p (compare op l r) ∧ l.Throughout p ∧ r.Throughout p := by
  simp [Throughout, or_imp, forall_and]

theorem throughout_join (p : Condition → Prop) (op : Connective) (cs : List Condition) :
    (join op cs).Throughout p ↔ p (join op cs) ∧ ∀ c ∈ cs, c.Throughout p := by
  simp only [Throughout, parts_join, List.mem_cons, forall_eq_or_imp, mem_parts_all]
  constructor
  · exact fun ⟨here, inside⟩ => ⟨here, fun c member part within => inside part ⟨c, member, within⟩⟩
  · exact fun ⟨here, inside⟩ => ⟨here, fun part ⟨c, member, within⟩ => inside c member part within⟩

theorem throughout_not (p : Condition → Prop) (c : Condition) :
    (not c).Throughout p ↔ p (not c) ∧ c.Throughout p := by
  simp [Throughout]

theorem throughout_signal (p : Condition → Prop) (name : String) : (signal name).Throughout p ↔ p (signal name) := by
  simp [Throughout]

theorem throughout_literal (p : Condition → Prop) (value : Value) : (literal value).Throughout p ↔ p (literal value) := by
  simp [Throughout]

def leaves (c : Condition) : List Condition := c.parts.filter isAtom
def leavesAll (cs : List Condition) : List Condition := (partsAll cs).filter isAtom

@[simp] theorem leaves_compare (op : Comparator) (l r : Condition) : (compare op l r).leaves = l.leaves ++ r.leaves :=
  List.filter_append l.parts r.parts

@[simp] theorem leaves_join (op : Connective) (cs : List Condition) : (join op cs).leaves = leavesAll cs := rfl

@[simp] theorem leaves_not (c : Condition) : (not c).leaves = c.leaves := rfl

@[simp] theorem leaves_signal (name : String) : (signal name).leaves = [signal name] := rfl

@[simp] theorem leaves_literal (value : Value) : (literal value).leaves = [literal value] := rfl

@[simp] theorem leaves_all_nil : leavesAll [] = [] := rfl

@[simp] theorem leaves_all_cons (c : Condition) (cs : List Condition) : leavesAll (c :: cs) = c.leaves ++ leavesAll cs :=
  List.filter_append c.parts (partsAll cs)

theorem leaves_all_append (cs ds : List Condition) : leavesAll (cs ++ ds) = leavesAll cs ++ leavesAll ds := by
  induction cs with
  | nil => rfl
  | cons c cs ih => simp [ih]

mutual
theorem mem_occurrences (name : String) : ∀ c : Condition, name ∈ c.occurrences ↔ signal name ∈ c.parts
  | compare op left right => by simp [occurrences, mem_occurrences name left, mem_occurrences name right]
  | join op operands => by simp [occurrences, mem_occurrences_all name operands]
  | not operand => by simp [occurrences, mem_occurrences name operand]
  | signal other => by simp [occurrences]
  | literal value => by simp [occurrences]

theorem mem_occurrences_all (name : String) : ∀ cs : List Condition, name ∈ occurrencesAll cs ↔ signal name ∈ partsAll cs
  | [] => by simp [occurrencesAll]
  | operand :: rest => by
    simp [occurrencesAll, mem_occurrences name operand, mem_occurrences_all name rest]
end

theorem eqv_all_append (as bs cs ds : List Condition) (equal : as.length = bs.length) :
    eqvAll (as ++ cs) (bs ++ ds) = (eqvAll as bs && eqvAll cs ds) := by
  induction as generalizing bs with
  | nil =>
    cases bs with
    | nil => simp [eqvAll]
    | cons b bs => simp at equal
  | cons a as ih =>
    cases bs with
    | nil => simp at equal
    | cons b bs => simp [eqvAll, ih bs (by simpa using equal), Bool.and_assoc]

theorem eqv_all_length (as bs : List Condition) (same : eqvAll as bs = true) : as.length = bs.length := by
  induction as generalizing bs with
  | nil => cases bs <;> simp_all [eqvAll]
  | cons a as ih =>
    cases bs with
    | nil => simp [eqvAll] at same
    | cons b bs =>
      have rest : eqvAll as bs = true := by simp_all [eqvAll]
      simp [ih bs rest]

theorem eqv_all_joined (as bs cs ds : List Condition) (front : eqvAll as bs = true) (back : eqvAll cs ds = true) :
    eqvAll (as ++ cs) (bs ++ ds) = true := by
  rw [eqv_all_append as bs cs ds (eqv_all_length as bs front), front, back]
  rfl

-- Neither the same nor equal up to the equality of numbers; a NaN shows that the first does not follow.
def Apart (as bs : List Condition) : Prop := as ≠ bs ∧ eqvAll as bs = false

theorem apart_append (front as bs : List Condition) (apart : Apart as bs) : Apart (front ++ as) (front ++ bs) := by
  obtain ⟨different, unequal⟩ := apart
  constructor
  · exact fun same => different (List.append_cancel_left same)
  · rw [eqv_all_append front front as bs rfl, unequal, Bool.and_false]

mutual
theorem eqv_leaves : ∀ c d : Condition, c.eqv d = true → eqvAll c.leaves d.leaves = true
  | compare op l r, d, same => by
    cases d with
    | compare op' l' r' =>
      simp only [eqv, Bool.and_eq_true] at same
      simpa using eqv_all_joined _ _ _ _ (eqv_leaves l l' same.1.2) (eqv_leaves r r' same.2)
    | _ => simp [eqv] at same
  | join op cs, d, same => by
    cases d with
    | join op' ds =>
      simp only [eqv, Bool.and_eq_true] at same
      simpa using eqv_leaves_all cs ds same.2
    | _ => simp [eqv] at same
  | not c, d, same => by
    cases d with
    | not d =>
      rw [eqv] at same
      simpa using eqv_leaves c d same
    | _ => simp [eqv] at same
  | signal name, d, same => by
    cases d with
    | signal name' => simpa [eqvAll] using same
    | _ => simp [eqv] at same
  | literal value, d, same => by
    cases d with
    | literal value' => simpa [eqvAll] using same
    | _ => simp [eqv] at same

theorem eqv_leaves_all : ∀ cs ds : List Condition, eqvAll cs ds = true → eqvAll (leavesAll cs) (leavesAll ds) = true
  | [], ds, same => by
    cases ds with
    | nil => rfl
    | cons d ds => simp [eqvAll] at same
  | c :: cs, ds, same => by
    cases ds with
    | nil => simp [eqvAll] at same
    | cons d ds =>
      simp only [eqvAll, Bool.and_eq_true] at same
      simpa using eqv_all_joined _ _ _ _ (eqv_leaves c d same.1) (eqv_leaves_all cs ds same.2)
end

end SignalRules.Condition
