import SignalRules.Proofs.Binary64.PointedText
import SignalRules.Value.Coercion

set_option autoImplicit false

namespace SignalRules
open Decimal (isDigit)

theorem longest_run (p : Char → Bool) (run rest : List Char) (member : run.all p = true)
    (ends : rest.head?.all (fun c => !p c) = true) :
    (run ++ rest).takeWhile p = run ∧ (run ++ rest).dropWhile p = rest := by
  induction run with
  | nil => cases rest <;> simp_all
  | cons c run ih =>
    obtain ⟨here, member⟩ : p c = true ∧ run.all p = true := by simpa using member
    obtain ⟨taken, dropped⟩ := ih member
    simp [here, taken, dropped]

namespace Numeral

structure Spelled (n : Numeral) (body : List Char) : Prop where
  split : body = n.whole ++ n.fraction.elim [] ('.' :: ·)
  whole_digits : ∀ c ∈ n.whole, isDigit c = true
  fraction_digits : ∀ c ∈ n.fraction.getD [], isDigit c = true
  nonempty : n.whole ++ n.fraction.getD [] ≠ []

theorem of_unsigned_spelled (n : Numeral) (body : List Char) (spelled : n.Spelled body) :
    ofUnsigned? n.negative body = some n := by
  obtain ⟨negative, whole, fraction⟩ := n
  obtain ⟨rfl, whole_digits, fraction_digits, nonempty⟩ := spelled
  dsimp only at whole_digits fraction_digits nonempty ⊢
  cases fraction with
  | none =>
    obtain ⟨taken, dropped⟩ := longest_run isDigit whole [] (List.all_eq_true.mpr whole_digits) rfl
    have filled : whole ≠ [] := by simpa using nonempty
    rw [Option.elim_none, ofUnsigned?, taken, dropped]
    simp [filled]
  | some ds =>
    obtain ⟨taken, dropped⟩ := longest_run isDigit whole ('.' :: ds) (List.all_eq_true.mpr whole_digits) rfl
    have all_digits : ds.all isDigit = true := List.all_eq_true.mpr fraction_digits
    have filled : whole = [] → ds ≠ [] := by simpa using nonempty
    rw [Option.elim_some, ofUnsigned?, taken, dropped]
    simpa [all_digits] using filled

theorem spelled_of_unsigned (negative : Bool) (body : List Char) (n : Numeral) (read : ofUnsigned? negative body = some n) :
    n.negative = negative ∧ n.Spelled body := by
  have split := List.takeWhile_append_dropWhile (p := isDigit) (l := body)
  have whole_digits : ∀ c ∈ body.takeWhile isDigit, isDigit c = true := List.all_eq_true.mp List.all_takeWhile
  unfold ofUnsigned? at read
  generalize body.takeWhile isDigit = whole at split whole_digits read
  cases dropped : body.dropWhile isDigit with
  | nil =>
    rw [dropped] at split read
    by_cases empty : whole = []
    · simp [empty] at read
    · have same : some ⟨negative, whole, none⟩ = some n := by simpa [empty] using read
      cases same
      exact ⟨rfl, split.symm, whole_digits, by simp, by simpa using empty⟩
  | cons c fraction =>
    rw [dropped] at split read
    by_cases pointed : c = '.' ∧ fraction.all isDigit ∧ ¬(whole.isEmpty ∧ fraction.isEmpty)
    · have same : some ⟨negative, whole, some fraction⟩ = some n := by simpa only [if_pos pointed] using read
      cases same
      obtain ⟨rfl, fraction_digits, filled⟩ := pointed
      exact ⟨rfl, split.symm, whole_digits, List.all_eq_true.mp fraction_digits, by simpa using filled⟩
    · simp only [if_neg pointed] at read
      cases read

theorem spelled_parts (n : Numeral) (body : List Char) (spelled : n.Spelled body) :
    ∀ c ∈ body, isDigit c = true ∨ c = '.' := by
  obtain ⟨rfl, whole_digits, fraction_digits, _⟩ := spelled
  intro c member
  rcases List.mem_append.mp member with left | right
  · exact .inl (whole_digits c left)
  · cases pointed : n.fraction with
    | none => simp [pointed] at right
    | some fraction =>
      rw [pointed] at right fraction_digits
      rcases List.mem_cons.mp right with point | digit
      · exact .inr point
      · exact .inl (fraction_digits c digit)

theorem spelled_cons (n : Numeral) (body : List Char) (spelled : n.Spelled body) : ∃ c rest, body = c :: rest ∧
    (isDigit c = true ∨ c = '.') ∧ ∀ d ∈ rest, isDigit d = true ∨ d = '.' := by
  have parts := spelled_parts n body spelled
  cases body with
  | nil =>
    have empty := spelled.split
    cases pointed : n.fraction with
    | none =>
      rw [pointed] at empty
      exact absurd (by simpa using empty) (by simpa [pointed] using spelled.nonempty)
    | some fraction => simp [pointed] at empty
  | cons c rest => exact ⟨c, rest, rfl, List.forall_mem_cons.mp parts⟩

inductive SignText : Bool → List Char → Prop where
  | absent : SignText false []
  | plus : SignText false ['+']
  | minus : SignText true ['-']

theorem sign_text (negative : Bool) : SignText negative (Binary64.sign negative) := by
  cases negative with
  | false => exact .absent
  | true => exact .minus

theorem of_text_signed (n : Numeral) (sign body : List Char) (signed : SignText n.negative sign) (spelled : n.Spelled body) :
    ofText? (sign ++ body) = some n := by
  have read := of_unsigned_spelled n body spelled
  obtain ⟨c, rest, rfl, start, _⟩ := spelled_cons n body spelled
  obtain ⟨negative, whole, fraction⟩ := n
  cases signed with
  | plus => exact read
  | minus => exact read
  | absent =>
    have signless : c ≠ '-' ∧ c ≠ '+' := by
      constructor
      all_goals
        rintro rfl
        exact absurd start (by decide)
    rw [List.nil_append, ofText?, if_neg signless.1, if_neg signless.2]
    exact read

theorem signed_of_text (text : List Char) (n : Numeral) (read : ofText? text = some n) :
    ∃ sign body, SignText n.negative sign ∧ text = sign ++ body ∧ n.Spelled body := by
  cases text with
  | nil => cases read
  | cons c rest =>
    rw [ofText?] at read
    by_cases minus : c = '-'
    · rw [if_pos minus] at read
      obtain ⟨negative, spelled⟩ := spelled_of_unsigned true rest n read
      exact ⟨['-'], rest, negative ▸ .minus, by rw [minus]; rfl, spelled⟩
    by_cases plus : c = '+'
    · rw [if_neg minus, if_pos plus] at read
      obtain ⟨negative, spelled⟩ := spelled_of_unsigned false rest n read
      exact ⟨['+'], rest, negative ▸ .plus, by rw [plus]; rfl, spelled⟩
    · rw [if_neg minus, if_neg plus] at read
      obtain ⟨negative, spelled⟩ := spelled_of_unsigned false (c :: rest) n read
      exact ⟨[], c :: rest, negative ▸ .absent, rfl, spelled⟩

theorem spelled_of_text (text : List Char) (n : Numeral) (unplussed : text.head? ≠ some '+') (read : ofText? text = some n) :
    ∃ body, text = Binary64.sign n.negative ++ body ∧ n.Spelled body := by
  obtain ⟨sign, body, signed, rfl, spelled⟩ := signed_of_text text n read
  refine ⟨body, ?_, spelled⟩
  cases negative : n.negative with
  | false =>
    rw [negative] at signed
    cases signed with
    | absent => rfl
    | plus => exact absurd rfl unplussed
  | true =>
    rw [negative] at signed
    cases signed
    rfl

end Numeral

structure NumberText (text : List Char) (value : Value) : Prop where
  shape : ∃ c tail, text = c :: tail ∧ (isDigit c = true ∨ c = '.' ∨ c = '-') ∧ ∀ d ∈ tail, isDigit d = true ∨ d = '.'
  names : (Numeral.ofText? text).bind Numeral.value? = some value

theorem number_text_spelled (n : Numeral) (body : List Char) (value : Value) (spelled : n.Spelled body)
    (names : n.value? = some value) : NumberText (Binary64.sign n.negative ++ body) value := by
  constructor
  · obtain ⟨c, rest, rfl, start, parts⟩ := Numeral.spelled_cons n body spelled
    cases n.negative with
    | false => exact ⟨c, rest, rfl, start.imp_right .inl, parts⟩
    | true => exact ⟨'-', c :: rest, rfl, .inr (.inr rfl), List.forall_mem_cons.mpr ⟨start, parts⟩⟩
  · rw [Numeral.of_text_signed n _ body (Numeral.sign_text n.negative) spelled, Option.bind_some, names]

theorem number_text_pointed (negative : Bool) (whole fraction : List Char) (whole_digits : ∀ c ∈ whole, isDigit c = true)
    (fraction_digits : ∀ c ∈ fraction, isDigit c = true) (nonempty : whole ++ fraction ≠ []) :
    NumberText (Binary64.sign negative ++ (whole ++ '.' :: fraction))
      (.float (.ofScientific negative (Decimal.number (whole ++ fraction)) (-fraction.length))) :=
  number_text_spelled ⟨negative, whole, some fraction⟩ _ _ ⟨rfl, whole_digits, fraction_digits, nonempty⟩ rfl

theorem number_text_named (negative : Bool) (text : List Char) (x : Binary64) (named : Binary64.Named negative text x) :
    NumberText (Binary64.sign negative ++ text) (.float x) := by
  obtain ⟨whole, fraction, digits, rfl⟩ := named
  have filled := List.append_ne_nil_of_left_ne_nil digits.whole_ne_nil fraction
  rw [digits.split]
  exact number_text_pointed negative whole fraction digits.whole_digits digits.fraction_digits filled

theorem number_text_float (negative : Bool) (rank : Fin Binary64.limit) :
    NumberText (Binary64.finite negative rank).pointedText (.float (.finite negative rank)) := by
  obtain ⟨text, split, named⟩ := Binary64.pointed_text_finite negative rank
  rw [split]
  exact number_text_named negative text _ named

theorem int64_to_int (i : Int64) : int64? i.toInt = some i := by
  have low := Int64.le_toInt i
  have high := Int64.toInt_lt i
  rw [int64?, if_pos (by constructor <;> omega), Int64.ofInt_toInt]

theorem signed_text_eq (i : Int) :
    (Decimal.signedText i).toList = Binary64.sign (decide (i < 0)) ++ Decimal.digits i.natAbs := by
  unfold Decimal.signedText
  by_cases negative : i < 0
  · simp [negative, Binary64.sign, Decimal.text]
  · simp [negative, Binary64.sign, Decimal.text]

theorem number_text_whole (negative : Bool) (digits : List Char) (i : Int64) (all_digits : ∀ c ∈ digits, isDigit c = true)
    (nonempty : digits ≠ []) (amount : i.toInt = if negative then -(Decimal.number digits : Int) else Decimal.number digits) :
    NumberText (Binary64.sign negative ++ digits) (.int i) := by
  refine number_text_spelled ⟨negative, digits, none⟩ digits _ ⟨by simp, all_digits, by simp, by simpa using nonempty⟩ ?_
  rw [Numeral.value?]
  dsimp only
  rw [← amount, int64_to_int]
  rfl

theorem number_text_int (i : Int64) : NumberText (Decimal.signedText i.toInt).toList (.int i) := by
  rw [signed_text_eq]
  refine number_text_whole _ _ i (fun c => Decimal.isDigit_of_mem_digits) (Decimal.digits_ne_nil _) ?_
  rw [Decimal.number_digits]
  simp only [decide_eq_true_eq]
  omega

end SignalRules
