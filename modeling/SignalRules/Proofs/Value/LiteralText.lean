import SignalRules.Proofs.Value.Literal

set_option autoImplicit false

namespace SignalRules
open Decimal (isDigit number)
open Text (isBlank trim)

inductive LiteralText : Value → List Char → Prop where
  | word (b : Bool) (text : List Char) (letters : text.map Char.toLower = (Value.bool b).literal.toList) :
      LiteralText (.bool b) text
  | whole (negative : Bool) (digits : List Char) (i : Int64) (all_digits : ∀ c ∈ digits, isDigit c = true)
      (nonempty : digits ≠ []) (amount : i.toInt = if negative then -(number digits : Int) else number digits) :
      LiteralText (.int i) (Binary64.sign negative ++ digits)
  | pointed (negative : Bool) (whole fraction : List Char) (whole_digits : ∀ c ∈ whole, isDigit c = true)
      (fraction_digits : ∀ c ∈ fraction, isDigit c = true) (nonempty : whole ++ fraction ≠ []) :
      LiteralText (.float (.ofScientific negative (number (whole ++ fraction)) (-fraction.length)))
        (Binary64.sign negative ++ (whole ++ '.' :: fraction))
  | quoted (q : Char) (s : List Char) (quote : Value.isQuote q = true) (inside : q ∉ s) :
      LiteralText (.string (String.ofList s)) (q :: (s ++ [q]))

theorem int64_some (n : Int) (i : Int64) (read : int64? n = some i) : i.toInt = n := by
  unfold int64? at read
  by_cases fits : -9223372036854775808 ≤ n ∧ n < 9223372036854775808
  · rw [if_pos fits] at read
    cases read
    exact Int64.toInt_ofInt_of_le fits.1 fits.2
  · rw [if_neg fits] at read
    cases read

theorem literal_text_numeral (n : Numeral) (body : List Char) (v : Value) (spelled : n.Spelled body)
    (names : n.value? = some v) : LiteralText v (Binary64.sign n.negative ++ body) := by
  obtain ⟨negative, whole, fraction⟩ := n
  obtain ⟨rfl, whole_digits, fraction_digits, nonempty⟩ := spelled
  cases fraction with
  | some fraction =>
    cases names
    exact .pointed negative whole fraction whole_digits fraction_digits nonempty
  | none =>
    obtain ⟨i, fits, rfl⟩ := Option.map_eq_some_iff.mp names
    have whole_text := LiteralText.whole negative whole i whole_digits (by simpa using nonempty) (int64_some _ i fits)
    simpa using whole_text

theorem value_number (n : Numeral) (v : Value) (named : n.value? = some v) : (∃ i, v = .int i) ∨ ∃ x, v = .float x := by
  unfold Numeral.value? at named
  cases pointed : n.fraction with
  | some fraction =>
    rw [pointed] at named
    exact .inr ⟨_, (Option.some.inj named).symm⟩
  | none =>
    rw [pointed] at named
    obtain ⟨i, _, same⟩ := Option.map_eq_some_iff.mp named
    exact .inl ⟨i, same.symm⟩

theorem of_trimmed_forms (text : List Char) :
    (∃ s, Value.unquote? text = some s ∧ Value.ofTrimmed text = .string (String.ofList s)) ∨
      (∃ b, text = (Value.bool b).literal.toList ∧ Value.ofTrimmed text = .bool b) ∨
      (∃ v, (Numeral.ofText? text).bind Numeral.value? = some v ∧ Value.ofTrimmed text = v) ∨
      Value.unquote? text = none ∧ (∀ b, text ≠ (Value.bool b).literal.toList) ∧
        (Numeral.ofText? text).bind Numeral.value? = none ∧ Value.ofTrimmed text = .string (String.ofList text) := by
  cases inner : Value.unquote? text with
  | some s => exact .inl ⟨s, rfl, by rw [Value.ofTrimmed, inner]⟩
  | none =>
    by_cases yes : text = "true".toList
    · exact .inr (.inl ⟨true, yes, by rw [yes]; rfl⟩)
    by_cases no : text = "false".toList
    · exact .inr (.inl ⟨false, no, by rw [no]; rfl⟩)
    cases named : (Numeral.ofText? text).bind Numeral.value? with
    | some v => exact .inr (.inr (.inl ⟨v, rfl, Value.of_trimmed_named text v named⟩))
    | none =>
      have wordless (b : Bool) : text ≠ (Value.bool b).literal.toList := by
        cases b with
        | false => exact no
        | true => exact yes
      refine .inr (.inr (.inr ⟨rfl, wordless, rfl, ?_⟩))
      rw [Value.ofTrimmed, inner]
      simp only [if_neg yes, if_neg no, named, Option.getD_none]

theorem of_trimmed_bool_iff (text : List Char) (b : Bool) :
    Value.ofTrimmed text = .bool b ↔ text = (Value.bool b).literal.toList := by
  constructor
  · intro read
    rcases of_trimmed_forms text with ⟨s, _, kind⟩ | ⟨b', same, kind⟩ | ⟨v, named, kind⟩ | ⟨_, _, _, kind⟩
    · cases kind.symm.trans read
    · cases kind.symm.trans read
      exact same
    · obtain ⟨n, _, named⟩ := Option.bind_eq_some_iff.mp named
      rcases value_number n v named with ⟨i, rfl⟩ | ⟨x, rfl⟩
      · cases kind.symm.trans read
      · cases kind.symm.trans read
    · cases kind.symm.trans read
  · rintro rfl
    cases b <;> rfl

theorem of_trimmed_numeral_iff (text : List Char) (v : Value) (number : v.kind = .int ∨ v.kind = .float) :
    Value.ofTrimmed text = v ↔ (Numeral.ofText? text).bind Numeral.value? = some v := by
  refine ⟨fun read => ?_, Value.of_trimmed_named text v⟩
  rcases of_trimmed_forms text with ⟨s, _, kind⟩ | ⟨b, _, kind⟩ | ⟨v', named, kind⟩ | ⟨_, _, _, kind⟩
  · simp [← read, kind, Value.kind] at number
  · simp [← read, kind, Value.kind] at number
  · rw [← read, kind, named]
  · simp [← read, kind, Value.kind] at number

-- Capitals are told apart in the payload only.
def Uncapitalized (v : Value) (text : List Char) : Prop := v.kind = .bool → ∀ c ∈ text, c.toLower = c

theorem uncapitalized_trim (v : Value) (text : List Char) : Uncapitalized v (trim text) ↔ Uncapitalized v text := by
  obtain ⟨front, back, whole, gap, gap'⟩ := Text.trim_split text
  constructor
  · intro inner word c member
    rw [whole, List.mem_append, List.mem_append] at member
    rcases member with before | inside | after
    · exact Token.blank_small c (gap c before)
    · exact inner word c inside
    · exact Token.blank_small c (gap' c after)
  · exact fun outer word c member => outer word c ((Text.trim_sublist text).subset member)

theorem of_trimmed_literal (v : Value) (text : List Char) (literal : LiteralText v text) :
    Value.ofTrimmed text = v ↔ Uncapitalized v text := by
  cases literal with
  | word b _ letters =>
    have fixed := List.map_inj_left (l := text) (f := Char.toLower) (g := id)
    rw [of_trimmed_bool_iff, ← letters, eq_comm, Uncapitalized]
    rw [List.map_id] at fixed
    exact fixed.trans ⟨fun small _ => small, fun small => small rfl⟩
  | whole negative digits i all_digits nonempty amount =>
    exact iff_of_true (Value.of_trimmed_number _ _ (number_text_whole negative digits i all_digits nonempty amount)) nofun
  | pointed negative whole fraction whole_digits fraction_digits nonempty =>
    refine iff_of_true (Value.of_trimmed_number _ _ ?_) nofun
    exact number_text_pointed negative whole fraction whole_digits fraction_digits nonempty
  | quoted q s quote inside => exact iff_of_true (Value.of_trimmed_quoted q s quote) nofun

theorem of_scientific_number (negative : Bool) (mantissa : Nat) (exponent : Int) :
    Binary64.ofScientific negative mantissa exponent ≠ .nan := by
  have ratio (num den : Nat) : Binary64.ofRatio negative num den ≠ .nan := by
    unfold Binary64.ofRatio Binary64.ofRank
    split <;> simp
  unfold Binary64.ofScientific
  refine Token.ite_ne _ _ _ _ nofun (Token.ite_ne _ _ _ _ nofun (Token.ite_ne _ _ _ _ ?_ (Token.ite_ne _ _ _ _ nofun ?_)))
  · exact ratio _ _
  · exact ratio _ _

theorem literal_not_nan (v : Value) (text : List Char) (literal : LiteralText v text) : v ≠ .float .nan := by
  cases literal with
  | word b _ letters => simp
  | whole negative digits i all_digits nonempty amount => simp
  | pointed negative whole fraction whole_digits fraction_digits nonempty =>
    exact fun same => of_scientific_number _ _ _ (Value.float.inj same)
  | quoted q s quote inside => simp

end SignalRules
