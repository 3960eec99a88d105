import SignalRules.Proofs.Condition.Words
import SignalRules.Proofs.Text.Trim
import SignalRules.Proofs.Value.NumberText

set_option autoImplicit false

namespace SignalRules.Value
open Text (isBlank Trimmed trim)
open Decimal (isDigit)

theorem number_text_start (text : List Char) (value : Value) (number : NumberText text value) (c : Char) (member : c ∈ text) :
    Token.isNumberStart c = true := by
  obtain ⟨first, tail, rfl, start, parts⟩ := number.shape
  rcases List.mem_cons.mp member with rfl | member
  · exact Token.number_start_of c start
  · exact Token.number_start_of c ((parts c member).imp_right .inl)

theorem number_text_solid (text : List Char) (value : Value) (number : NumberText text value) :
    ∀ c ∈ text, isBlank c = false :=
  fun c member => Token.number_start_not_blank c (number_text_start text value number c member)

theorem of_text_list (s : List Char) : ofText (String.ofList s) = ofTrimmed (trim s) := by
  rw [ofText, String.toList_ofList]

theorem of_trimmed_started (c : Char) (tail : List Char) (start : isDigit c = true ∨ c ∈ ['.', '-', '+']) :
    ofTrimmed (c :: tail) = ((Numeral.ofText? (c :: tail)).bind Numeral.value?).getD (string (String.ofList (c :: tail))) := by
  have unquoted : isQuote c = false ∧ c ≠ 't' ∧ c ≠ 'f' := by
    rcases start with digit | sign
    · have outside : ∀ n ∈ List.range' 48 10, isQuote (Char.ofNat n) = false ∧ Char.ofNat n ≠ 't' ∧ Char.ofNat n ≠ 'f' := by
        decide
      simpa using outside c.toNat (Token.digit_point c digit)
    · obtain rfl | rfl | rfl : c = '.' ∨ c = '-' ∨ c = '+' := by simpa using sign
      all_goals decide
  have quoteless : unquote? (c :: tail) = none := by simp [unquote?, unquoted.1]
  simp [ofTrimmed, quoteless, unquoted.2]

theorem of_trimmed_named (text : List Char) (v : Value) (named : (Numeral.ofText? text).bind Numeral.value? = some v) :
    ofTrimmed text = v := by
  obtain ⟨n, read, _⟩ := Option.bind_eq_some_iff.mp named
  obtain ⟨sign, body, signed, split, spelled⟩ := Numeral.signed_of_text text n read
  obtain ⟨c, rest, rfl, start, _⟩ := Numeral.spelled_cons n body spelled
  have started : ∃ d tail, text = d :: tail ∧ (isDigit d = true ∨ d ∈ ['.', '-', '+']) := by
    rw [split]
    generalize n.negative = negative at signed
    cases signed with
    | absent => exact ⟨c, rest, rfl, start.imp_right fun point => by simp [point]⟩
    | plus => exact ⟨'+', c :: rest, rfl, .inr (by decide)⟩
    | minus => exact ⟨'-', c :: rest, rfl, .inr (by decide)⟩
  obtain ⟨d, tail, rfl, first⟩ := started
  rw [of_trimmed_started d tail first, named, Option.getD_some]

theorem of_trimmed_number (text : List Char) (value : Value) (number : NumberText text value) : ofTrimmed text = value :=
  of_trimmed_named text value number.names

theorem of_trimmed_quoted (q : Char) (s : List Char) (quote : isQuote q = true) :
    ofTrimmed (q :: s ++ [q]) = .string (String.ofList s) := by
  have inner : unquote? (q :: s ++ [q]) = some s := by simp [unquote?, quote]
  rw [ofTrimmed, inner]

theorem string_literal (s : String) : (literal (.string s)).toList = '"' :: s.toList ++ ['"'] := by
  simp [literal]

theorem float_literal (x : Binary64) : (literal (.float x)).toList = x.pointedText := String.toList_ofList

theorem word_cases (x : Binary64) : x ∈ [.nan, .infinity false, .infinity true] ∨ ∃ negative rank, x = .finite negative rank := by
  cases x with
  | nan => exact .inl (by decide)
  | infinity negative =>
    cases negative with
    | false => exact .inl (by decide)
    | true => exact .inl (by decide)
  | finite negative rank => exact .inr ⟨negative, rank, rfl⟩

theorem word_text : ∀ x ∈ [Binary64.nan, .infinity false, .infinity true], x.pointedText.all (!isBlank ·) = true ∧
    ofTrimmed x.pointedText = .string (String.ofList x.pointedText) ∧ x.isFinite = false := by decide

theorem literal_cases (v : Value) : (∃ s, v = .string s) ∨ ∀ c ∈ v.literal.toList, isBlank c = false := by
  cases v with
  | string s => exact .inl ⟨s, rfl⟩
  | bool b =>
    cases b with
    | false => exact .inr (Text.solid_of_all _ (by decide))
    | true => exact .inr (Text.solid_of_all _ (by decide))
  | int i => exact .inr (number_text_solid _ (.int i) (number_text_int i))
  | float x =>
    rw [float_literal]
    rcases word_cases x with word | ⟨negative, rank, rfl⟩
    · exact .inr (Text.solid_of_all _ (word_text x word).1)
    · exact .inr (number_text_solid _ _ (number_text_float negative rank))

theorem literal_trimmed (v : Value) : Trimmed v.literal.toList := by
  rcases literal_cases v with ⟨s, rfl⟩ | solid
  · rw [string_literal]
    constructor
    · intro c first
      cases first
      rfl
    · intro c last
      rw [List.getLast?_append] at last
      cases last
      rfl
  · exact Text.solid_trimmed _ solid

def Unbroken (v : Value) : Prop := ∀ s, v = .string s → '\n' ∉ s.toList

instance (v : Value) : Decidable v.Unbroken :=
  match v with
  | .string s =>
    decidable_of_iff ('\n' ∉ s.toList) ⟨fun absent _ same => Value.string.inj same ▸ absent, fun unbroken => unbroken s rfl⟩
  | .bool _ | .int _ | .float _ => isTrue nofun

theorem literal_unbroken_iff (v : Value) : '\n' ∉ v.literal.toList ↔ v.Unbroken := by
  rcases literal_cases v with ⟨s, rfl⟩ | solid
  · simp [string_literal, Unbroken]
  · have unbroken : '\n' ∉ v.literal.toList := fun member => absurd (solid _ member) (by decide)
    refine iff_of_true unbroken ?_
    rintro s rfl member
    exact unbroken (by simp [string_literal, member])

-- The literal of a number that is not finite is a word, and a word is read as a string.
def Bounded : Value → Prop
  | .float x => x.isFinite = true
  | _ => True

instance (v : Value) : Decidable v.Bounded :=
  match v with
  | .float x => inferInstanceAs (Decidable (x.isFinite = true))
  | .bool _ | .int _ | .string _ => isTrue trivial

theorem unbounded_word (v : Value) (unbounded : ¬v.Bounded) :
    ∃ x, v = .float x ∧ x ∈ [Binary64.nan, .infinity false, .infinity true] := by
  cases v with
  | bool _ | int _ | string _ => exact absurd trivial unbounded
  | float x =>
    rcases word_cases x with word | ⟨negative, rank, rfl⟩
    · exact ⟨x, rfl, word⟩
    · exact absurd rfl unbounded

theorem of_text_bounded (v : Value) (bounded : v.Bounded) : ofText v.literal = v := by
  rw [ofText, Text.trim_trimmed _ (literal_trimmed v)]
  cases v with
  | bool b => cases b <;> rfl
  | int i => exact of_trimmed_number _ (.int i) (number_text_int i)
  | float x =>
    rw [float_literal]
    rcases word_cases x with word | ⟨negative, rank, rfl⟩
    · exact absurd bounded (by simp [Bounded, (word_text x word).2.2])
    · exact of_trimmed_number _ _ (number_text_float negative rank)
  | string s => rw [string_literal, of_trimmed_quoted '"' _ rfl, String.ofList_toList]

theorem of_text_unbounded (v : Value) (unbounded : ¬v.Bounded) :
    ofText v.literal = .string v.display ∧ v.kind = .float := by
  have trimmed := Text.trim_trimmed _ (literal_trimmed v)
  obtain ⟨x, rfl, word⟩ := unbounded_word v unbounded
  rw [ofText, trimmed, float_literal, (word_text x word).2.1]
  exact ⟨rfl, rfl⟩

theorem of_text_literal_iff (v : Value) : ofText v.literal = v ↔ v.Bounded := by
  by_cases bounded : v.Bounded
  · exact iff_of_true (of_text_bounded v bounded) bounded
  · obtain ⟨x, rfl, _⟩ := unbounded_word v bounded
    exact iff_of_false (by simp [(of_text_unbounded _ bounded).1]) bounded

theorem literals_coerce_back (v : Value) : ofText v.literal = (if v.Bounded then v else .string v.display) ∧
    ((ofText v.literal).kind = v.kind ↔ v.Bounded) := by
  by_cases bounded : v.Bounded
  · have read := of_text_bounded v bounded
    rw [if_pos bounded, read]
    exact ⟨rfl, iff_of_true rfl bounded⟩
  · obtain ⟨read, floating⟩ := of_text_unbounded v bounded
    rw [if_neg bounded, read, floating]
    exact ⟨rfl, iff_of_false nofun bounded⟩

end SignalRules.Value
