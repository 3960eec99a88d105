import SignalRules.Condition.Token

set_option autoImplicit false

namespace SignalRules.Token
open Text (isBlank isAlphabetic isAlphanumeric isNumeric)
open Decimal (isDigit)

def blankPoints : List Nat :=
  [9, 10, 11, 12, 13, 32, 0x85, 0xA0, 0x1680, 0x2000, 0x2001, 0x2002, 0x2003, 0x2004, 0x2005, 0x2006, 0x2007, 0x2008,
    0x2009, 0x200A, 0x2028, 0x2029, 0x202F, 0x205F, 0x3000]

theorem blank_point (c : Char) (blank : isBlank c = true) : c.toNat ∈ blankPoints := by
  simp only [isBlank, Bool.or_eq_true, Bool.and_eq_true, decide_eq_true_eq, beq_iff_eq] at blank
  simp only [blankPoints, List.mem_cons, List.not_mem_nil, or_false]
  omega

-- Blanks are few enough to look each of them up in the tables of letters and digits.
theorem blank_not_word_part (c : Char) (blank : isBlank c = true) : isWordPart c = false := by
  have outside : ∀ n ∈ blankPoints, isWordPart (Char.ofNat n) = false := by decide +kernel
  simpa using outside c.toNat (blank_point c blank)

theorem digit_range (c : Char) (digit : isDigit c = true) : 48 ≤ c.toNat ∧ c.toNat ≤ 57 := by
  obtain ⟨low, high⟩ : '0' ≤ c ∧ c ≤ '9' := by simpa [isDigit] using digit
  exact ⟨low, high⟩

theorem digit_point (c : Char) (digit : isDigit c = true) : c.toNat ∈ List.range' 48 10 := by
  have range := digit_range c digit
  simp only [List.mem_range'_1]
  omega

theorem digit_not_word_start (c : Char) (digit : isDigit c = true) : isWordStart c = false := by
  have outside : ∀ n ∈ List.range' 48 10, isWordStart (Char.ofNat n) = false := by decide
  simpa using outside c.toNat (digit_point c digit)

theorem digit_word_part (c : Char) (digit : isDigit c = true) : isWordPart c = true := by
  have inside : ∀ n ∈ List.range' 48 10, isWordPart (Char.ofNat n) = true := by decide
  simpa using inside c.toNat (digit_point c digit)

theorem number_part_word_part (c : Char) (part : isNumberPart c = true) : isWordPart c = true := by
  rcases Bool.or_eq_true_iff.mp part with digit | point
  · exact digit_word_part c digit
  · simp [isWordPart, point]

theorem word_start_part (c : Char) (start : isWordStart c = true) : isWordPart c = true := by
  rcases Bool.or_eq_true_iff.mp start with letter | line
  · simp [isWordPart, isAlphanumeric, letter]
  · simp [isWordPart, line]

theorem word_part_not_blank (c : Char) (part : isWordPart c = true) : isBlank c = false := by
  rw [← Bool.not_eq_true]
  intro blank
  rw [blank_not_word_part c blank] at part
  contradiction

theorem word_start_not_blank (c : Char) (start : isWordStart c = true) : isBlank c = false :=
  word_part_not_blank c (word_start_part c start)

theorem word_start_not_number_start (c : Char) (start : isWordStart c = true) : isNumberStart c = false := by
  rw [← Bool.not_eq_true]
  intro number
  simp only [isNumberStart, Bool.or_eq_true, beq_iff_eq] at number
  rcases number with (digit | rfl) | rfl
  · rw [digit_not_word_start c digit] at start
    contradiction
  · exact absurd start (by decide)
  · exact absurd start (by decide)

theorem quote_not_blank (q : Char) (quote : Value.isQuote q = true) : isBlank q = false := by
  have isQuote : q = '"' ∨ q = '\x27' := by simpa [Value.isQuote] using quote
  rcases isQuote with rfl | rfl <;> rfl

theorem number_start_of (c : Char) (start : isDigit c = true ∨ c = '.' ∨ c = '-') : isNumberStart c = true := by
  rcases start with digit | rfl | rfl
  · simp [isNumberStart, digit]
  · rfl
  · rfl

theorem number_start_not_blank (c : Char) (start : isNumberStart c = true) : isBlank c = false := by
  rw [← Bool.not_eq_true]
  intro blank
  simp only [isNumberStart, Bool.or_eq_true, beq_iff_eq] at start
  rcases start with (digit | rfl) | rfl
  · have solid := word_part_not_blank c (digit_word_part c digit)
    rw [solid] at blank
    contradiction
  · exact absurd blank (by decide)
  · exact absurd blank (by decide)

theorem small_or_capital (c : Char) : c.toLower = c ∨ c.toNat ∈ List.range' 65 26 := by
  unfold Char.toLower
  by_cases capital : c.val ≥ 'A'.val ∧ c.val ≤ 'Z'.val
  · obtain ⟨low, high⟩ : 65 ≤ c.toNat ∧ c.toNat ≤ 90 := capital
    refine .inr ?_
    simp only [List.mem_range'_1]
    omega
  · rw [dif_neg capital]
    exact .inl rfl

theorem letter_word_start (c : Char) (letter : c.toLower.toNat ∈ List.range' 97 26) : isWordStart c = true := by
  rcases small_or_capital c with small | capital
  · have inside : ∀ n ∈ List.range' 97 26, isWordStart (Char.ofNat n) = true := by decide
    rw [small] at letter
    simpa using inside c.toNat letter
  · have inside : ∀ n ∈ List.range' 65 26, isWordStart (Char.ofNat n) = true := by decide
    simpa using inside c.toNat capital

theorem blank_small (c : Char) (blank : isBlank c = true) : c.toLower = c := by
  rcases small_or_capital c with small | capital
  · exact small
  · have apart : ∀ n ∈ List.range' 65 26, n ∉ blankPoints := by decide
    exact absurd (blank_point c blank) (apart c.toNat capital)

theorem is_path_segments (word : List Char) :
    (isPath word = true ↔ [] ∉ word.splitOn '.') ∧ (isPath.go word = true ↔ [] ∉ (word.splitOn '.').tail) := by
  induction word with
  | nil => simp [isPath, isPath.go]
  | cons c rest ih =>
    obtain ⟨segment, segments, split⟩ := List.exists_cons_of_ne_nil (List.splitOn_ne_nil '.' rest)
    by_cases point : c = '.'
    · subst point
      simp [isPath, isPath.go, List.splitOn_cons_eq_if_modifyHead, ih.1]
    · simp [isPath, isPath.go, List.splitOn_cons_eq_if_modifyHead, point, ih.2, split]

def keywords : List String := ["and", "or", "not", "true", "false"]

theorem keyword_none (word : List Char) : keyword? word = none ↔ ∀ k ∈ keywords, word.map Char.toLower ≠ k.toList := by
  have otherwise (p : Prop) [Decidable p] (token : Token) (rest : Option Token) :
      (if p then some token else rest) = none ↔ ¬p ∧ rest = none := by
    by_cases holds : p <;> simp [holds]
  simp only [keyword?, otherwise, and_true]
  simp only [keywords, List.mem_cons, List.not_mem_nil, or_false, forall_eq_or_imp, forall_eq, ne_eq]

theorem ite_ne {α : Type} (p : Prop) [Decidable p] (a b x : α) (left : a ≠ x) (right : b ≠ x) :
    (if p then a else b) ≠ x := by
  by_cases holds : p
  · simpa only [holds, if_true] using left
  · simpa only [holds, if_false] using right

theorem keyword_not_signal (word : List Char) (name : String) : keyword? word ≠ some (signal name) := by
  unfold keyword?
  repeat' apply ite_ne
  all_goals simp

end SignalRules.Token

namespace SignalRules

structure IsName (name : String) : Prop where
  characters : ∃ c rest, name.toList = c :: rest ∧ Token.isWordStart c = true ∧ ∀ d ∈ rest, Token.isWordPart d = true
  segments : [] ∉ name.toList.splitOn '.'
  keyword : '.' ∉ name.toList → ∀ k ∈ Token.keywords, name.toList.map Char.toLower ≠ k.toList

theorem name_word_parts (name : String) (legal : IsName name) : ∀ c ∈ name.toList, Token.isWordPart c = true := by
  obtain ⟨c, rest, split, start, parts⟩ := legal.characters
  rw [split]
  exact List.forall_mem_cons.mpr ⟨Token.word_start_part c start, parts⟩

theorem of_word_name (name : String) (legal : IsName name) : Token.ofWord name.toList = .ok (.signal name) := by
  have path := (Token.is_path_segments name.toList).1.mpr legal.segments
  have free : (if name.toList.contains '.' then none else Token.keyword? name.toList) = none := by
    by_cases point : '.' ∈ name.toList
    · simp [point]
    · simpa [point] using (Token.keyword_none name.toList).mpr (legal.keyword point)
  rw [Token.ofWord, free]
  simp [path]

theorem name_of_word (c : Char) (rest : List Char) (name : String) (start : Token.isWordStart c = true)
    (parts : rest.all Token.isWordPart = true) (read : Token.ofWord (c :: rest) = .ok (.signal name)) :
    IsName name := by
  rw [Token.ofWord] at read
  cases keyword : (if (c :: rest).contains '.' then none else Token.keyword? (c :: rest)) with
  | some token =>
    rw [keyword] at read
    cases read
    by_cases point : '.' ∈ c :: rest
    · simp [point] at keyword
    · exact absurd (by simpa [point] using keyword) (Token.keyword_not_signal (c :: rest) name)
  | none =>
    rw [keyword] at read
    dsimp only at read
    by_cases path : Token.isPath (c :: rest) = true
    · rw [if_pos path] at read
      cases read
      refine ⟨⟨c, rest, by simp, start, List.all_eq_true.mp parts⟩, ?_, ?_⟩
      · rw [String.toList_ofList]
        exact (Token.is_path_segments (c :: rest)).1.mp path
      · rw [String.toList_ofList]
        intro unpointed
        rw [← Token.keyword_none]
        simpa [unpointed] using keyword
    · rw [if_neg path] at read
      cases read

end SignalRules
