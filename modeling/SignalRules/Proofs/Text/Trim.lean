import SignalRules.Text.Blank

set_option autoImplicit false

namespace SignalRules.Text

structure Trimmed (s : List Char) : Prop where
  first : ∀ c, s.head? = some c → isBlank c = false
  last : ∀ c, s.getLast? = some c → isBlank c = false

theorem solid_of_all (s : List Char) (solid : s.all (!isBlank ·) = true) : ∀ c ∈ s, isBlank c = false := by
  simpa using solid

theorem solid_trimmed (s : List Char) (solid : ∀ c ∈ s, isBlank c = false) : Trimmed s :=
  ⟨fun c first => solid c (List.mem_of_head? first), fun c last => solid c (List.mem_of_getLast? last)⟩

theorem trimmed_append (front back : List Char) (left : Trimmed front) (right : Trimmed back) : Trimmed (front ++ back) := by
  constructor
  · intro c first
    cases front with
    | nil => exact right.first c first
    | cons d rest => exact left.first c first
  · intro c last
    rw [List.getLast?_append] at last
    cases ends : back.getLast? with
    | some d =>
      rw [ends] at last
      exact right.last c (ends.trans last)
    | none =>
      rw [ends] at last
      exact left.last c last

theorem drop_solid (s : List Char) (solid : ∀ c, s.head? = some c → isBlank c = false) : s.dropWhile isBlank = s := by
  cases s with
  | nil => rfl
  | cons c rest => rw [List.dropWhile_cons, if_neg (by simp [solid c rfl])]

theorem trim_trimmed (s : List Char) (trimmed : Trimmed s) : trim s = s := by
  rw [trim, drop_solid s trimmed.first, trimEnd, drop_solid, List.reverse_reverse]
  intro c first
  rw [List.head?_reverse] at first
  exact trimmed.last c first

theorem trim_end_blank (s : List Char) (c : Char) (blank : isBlank c = true) : trimEnd (s ++ [c]) = trimEnd s := by
  rw [trimEnd, List.reverse_append, List.reverse_singleton, List.singleton_append, List.dropWhile_cons, if_pos blank, trimEnd]

theorem trim_blank (s : List Char) (c : Char) (blank : isBlank c = true) : trim (s ++ [c]) = trim s := by
  rw [trim, trim, List.dropWhile_append]
  by_cases nothing : (s.dropWhile isBlank).isEmpty
  · rw [if_pos nothing, List.isEmpty_iff.mp nothing, List.dropWhile_cons, if_pos blank]
    rfl
  · rw [if_neg nothing, trim_end_blank _ c blank]

theorem first_solid (s : List Char) (c : Char) (first : (s.dropWhile isBlank).head? = some c) : isBlank c = false := by
  have solid := List.head?_dropWhile_not isBlank s
  rw [first] at solid
  simpa using solid

theorem trim_end_front (s : List Char) : trimEnd s <+: s := by
  have dropped := List.dropWhile_suffix isBlank (l := s.reverse)
  rwa [← List.reverse_prefix, List.reverse_reverse] at dropped

theorem trimmed_trim (s : List Char) : Trimmed (trim s) := by
  constructor
  · intro c first
    obtain ⟨rest, whole⟩ := trim_end_front (s.dropWhile isBlank)
    apply first_solid s c
    rw [← whole, List.head?_append]
    change (trim s).head?.or _ = _
    rw [first, Option.some_or]
  · intro c last
    rw [trim, trimEnd, List.getLast?_reverse] at last
    exact first_solid _ c last

theorem trim_sublist (s : List Char) : (trim s).Sublist s :=
  (trim_end_front _).sublist.trans (List.dropWhile_suffix isBlank).sublist

theorem trim_end_split (s : List Char) : ∃ blanks, s = trimEnd s ++ blanks ∧ ∀ c ∈ blanks, isBlank c = true := by
  refine ⟨(s.reverse.takeWhile isBlank).reverse, ?_, ?_⟩
  · rw [trimEnd, ← List.reverse_append, List.takeWhile_append_dropWhile, List.reverse_reverse]
  · intro c member
    exact List.all_eq_true.mp List.all_takeWhile c (List.mem_reverse.mp member)

theorem trim_blanks (s blanks : List Char) (blank : ∀ c ∈ blanks, isBlank c = true) : trim (s ++ blanks) = trim s := by
  induction blanks generalizing s with
  | nil => rw [List.append_nil]
  | cons c blanks ih =>
    rw [List.append_cons, ih (s ++ [c]) fun d member => blank d (List.mem_cons_of_mem c member),
      trim_blank s c (blank c List.mem_cons_self)]

theorem trim_split (s : List Char) : ∃ front back, s = front ++ (trim s ++ back) ∧ (∀ c ∈ front, isBlank c = true) ∧
    ∀ c ∈ back, isBlank c = true := by
  obtain ⟨back, whole, blank⟩ := trim_end_split (s.dropWhile isBlank)
  refine ⟨s.takeWhile isBlank, back, ?_, List.all_eq_true.mp List.all_takeWhile, blank⟩
  rw [trim, ← whole, List.takeWhile_append_dropWhile]

theorem trim_padded (front body back : List Char) (blank : ∀ c ∈ front, isBlank c = true)
    (blank' : ∀ c ∈ back, isBlank c = true) (trimmed : Trimmed body) : trim (front ++ (body ++ back)) = body := by
  rw [← List.append_assoc, trim_blanks _ back blank', trim, List.dropWhile_append_of_pos blank]
  exact trim_trimmed body trimmed

theorem trim_trim_end (s : List Char) : trim (trimEnd s) = trim s := by
  obtain ⟨blanks, whole, blank⟩ := trim_end_split s
  rw [← trim_blanks (trimEnd s) blanks blank, ← whole]

theorem trim_drop (s : List Char) : trim (s.dropWhile isBlank) = trim s := by
  rw [trim, trim, drop_solid _ (first_solid s)]

theorem drop_around (c : Char) (front back : List Char) (solid : isBlank c = false) :
    (front ++ c :: back).dropWhile isBlank = front.dropWhile isBlank ++ c :: back := by
  have stays : (c :: back).dropWhile isBlank = c :: back := drop_solid _ fun d first => by
    rw [List.head?_cons, Option.some.injEq] at first
    rw [← first, solid]
  rw [List.dropWhile_append]
  by_cases nothing : (front.dropWhile isBlank).isEmpty = true
  · rw [if_pos nothing, stays, List.isEmpty_iff.mp nothing, List.nil_append]
  · rw [if_neg nothing]

theorem trim_around (c : Char) (front back : List Char) (solid : isBlank c = false) :
    trim (front ++ c :: back) = front.dropWhile isBlank ++ c :: trimEnd back := by
  have whole : front.dropWhile isBlank ++ c :: back = (back.reverse ++ c :: (front.dropWhile isBlank).reverse).reverse := by
    simp
  rw [trim, drop_around c front back solid, trimEnd, whole, List.reverse_reverse, drop_around c _ _ solid, trimEnd]
  simp

theorem splitOnce_append (sep : Char) (before after : List Char) (absent : sep ∉ before) :
    splitOnce sep (before ++ sep :: after) = some (before, after) := by
  induction before with
  | nil => simp [splitOnce]
  | cons c before ih =>
    have different : c ≠ sep := fun same => absent (same ▸ List.mem_cons_self)
    rw [List.cons_append, splitOnce, if_neg different, ih fun member => absent (List.mem_cons_of_mem c member)]
    rfl

-- Trimming before a cut does to the parts what trimming them again undoes.
theorem splitOnce_trim (sep : Char) (s : List Char) (solid : isBlank sep = false) :
    splitOnce sep (trim s) = (splitOnce sep s).map fun (before, after) => (before.dropWhile isBlank, trimEnd after) := by
  cases cut : splitOnce sep s with
  | none =>
    have absent := splitOnce_eq_none_iff.mp cut
    exact splitOnce_eq_none_iff.mpr fun member => absent ((trim_sublist s).subset member)
  | some parts =>
    obtain ⟨whole, absent⟩ := splitOnce_eq_some cut
    have absent' : sep ∉ parts.1.dropWhile isBlank := fun member => absent ((List.dropWhile_suffix isBlank).subset member)
    rw [whole, trim_around sep _ _ solid, splitOnce_append sep _ _ absent']
    rfl

end SignalRules.Text
