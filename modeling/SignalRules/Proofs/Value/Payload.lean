import SignalRules.Binary64.Reading
import SignalRules.Proofs.Text.Utf8
import SignalRules.Proofs.Value.LiteralText

set_option autoImplicit false

namespace SignalRules
open Decimal (isDigit number)

namespace Payload

def text (raw : String) : List Char := Text.trim raw.toList

def bytes (raw : String) : List UInt8 := Text.Utf8.encode (String.ofList (text raw))

def Quoted (text inner : List Char) : Prop := ∃ q, Value.isQuote q = true ∧ text = q :: (inner ++ [q])

def Enclosed (bytes inner : List UInt8) : Prop := ∃ q, (q = 34 ∨ q = 39) ∧ bytes = q :: (inner ++ [q])

def word (b : Bool) : List Char := (if b then "true" else "false").toList

def Whole (text : List Char) (i : Int) : Prop :=
  ∃ negative sign digits, Numeral.SignText negative sign ∧ text = sign ++ digits ∧ digits ≠ [] ∧
    (∀ c ∈ digits, isDigit c = true) ∧ i = if negative then -(number digits : Int) else number digits

-- Digits with one point among them are a whole number in units of ten to the power of minus the places.
def Pointed (text : List Char) (negative : Bool) (mantissa places : Nat) : Prop :=
  ∃ sign whole fraction, Numeral.SignText negative sign ∧ text = sign ++ (whole ++ '.' :: fraction) ∧
    whole ++ fraction ≠ [] ∧ (∀ c ∈ whole ++ fraction, isDigit c = true) ∧ mantissa = number (whole ++ fraction) ∧
      places = fraction.length

theorem unquote_iff (text inner : List Char) : Value.unquote? text = some inner ↔ Quoted text inner := by
  cases text with
  | nil => exact iff_of_false nofun nofun
  | cons q rest =>
    rw [Value.unquote?]
    constructor
    · intro cut
      obtain ⟨enclosed, rfl⟩ := Option.ite_some_none_eq_some.mp cut
      obtain ⟨quote, last⟩ : Value.isQuote q = true ∧ rest.getLast? = some q := by simpa using enclosed
      obtain ⟨front, rfl⟩ := List.getLast?_eq_some_iff.mp last
      exact ⟨q, quote, by rw [List.dropLast_concat]⟩
    · rintro ⟨q', quote, split⟩
      cases split
      rw [if_pos (by simp [quote]), List.dropLast_concat]

end Payload

theorem numeral_whole_iff (text : List Char) (i : Int) : Payload.Whole text i ↔ ∃ n, Numeral.ofText? text = some n ∧
    n.fraction = none ∧ i = if n.negative then -(number n.whole : Int) else number n.whole := by
  constructor
  · rintro ⟨negative, sign, digits, signed, rfl, nonempty, all_digits, amount⟩
    refine ⟨⟨negative, digits, none⟩, ?_, rfl, amount⟩
    exact Numeral.of_text_signed _ sign digits signed ⟨by simp, all_digits, by simp, by simpa using nonempty⟩
  · rintro ⟨⟨negative, whole, fraction⟩, read, rfl, amount⟩
    obtain ⟨sign, body, signed, rfl, split, whole_digits, _, nonempty⟩ := Numeral.signed_of_text text _ read
    refine ⟨negative, sign, whole, signed, by simpa using split, by simpa using nonempty, whole_digits, amount⟩

theorem numeral_pointed_iff (text : List Char) (negative : Bool) (mantissa places : Nat) :
    Payload.Pointed text negative mantissa places ↔ ∃ n fraction, Numeral.ofText? text = some n ∧ n.negative = negative ∧
      n.fraction = some fraction ∧ mantissa = number (n.whole ++ fraction) ∧ places = fraction.length := by
  constructor
  · rintro ⟨sign, whole, fraction, signed, rfl, nonempty, all_digits, amount, length⟩
    obtain ⟨whole_digits, fraction_digits⟩ := List.forall_mem_append.mp all_digits
    refine ⟨⟨negative, whole, some fraction⟩, fraction, ?_, rfl, rfl, amount, length⟩
    exact Numeral.of_text_signed _ sign _ signed ⟨rfl, whole_digits, fraction_digits, nonempty⟩
  · rintro ⟨⟨negative, whole, _⟩, fraction, read, rfl, rfl, amount, length⟩
    obtain ⟨sign, body, signed, rfl, rfl, whole_digits, fraction_digits, nonempty⟩ := Numeral.signed_of_text text _ read
    exact ⟨sign, whole, fraction, signed, rfl, nonempty, List.forall_mem_append.mpr ⟨whole_digits, fraction_digits⟩,
      amount, length⟩

theorem whole_value_iff (n : Numeral) (i : Int64) (whole : n.fraction = none) :
    n.value? = some (.int i) ↔ i.toInt = if n.negative then -(number n.whole : Int) else number n.whole := by
  rw [Numeral.value?, whole]
  dsimp only
  constructor
  · intro named
    obtain ⟨j, fits, same⟩ := Option.map_eq_some_iff.mp named
    cases same
    exact int64_some _ i fits
  · intro amount
    rw [← amount, int64_to_int]
    rfl

theorem named_int_iff (text : List Char) (i : Int64) :
    (Numeral.ofText? text).bind Numeral.value? = some (.int i) ↔ Payload.Whole text i.toInt := by
  rw [numeral_whole_iff, Option.bind_eq_some_iff]
  constructor
  · rintro ⟨n, read, named⟩
    have whole : n.fraction = none := by
      cases pointed : n.fraction with
      | none => rfl
      | some fraction => simp [Numeral.value?, pointed] at named
    exact ⟨n, read, whole, (whole_value_iff n i whole).mp named⟩
  · rintro ⟨n, read, whole, amount⟩
    exact ⟨n, read, (whole_value_iff n i whole).mpr amount⟩

namespace Binary64

theorem part_small (c : Char) (part : isDigit c = true ∨ c = '.') : c.toLower = c ∧ c ≠ 'e' ∧ c ≠ 'E' := by
  rcases part with digit | rfl
  · have plain : ∀ n ∈ List.range' 48 10, (Char.ofNat n).toLower = Char.ofNat n ∧ Char.ofNat n ≠ 'e' ∧ Char.ofNat n ≠ 'E' := by
      decide
    simpa using plain c.toNat (Token.digit_point c digit)
  · decide

theorem of_magnitude_spelled (n : Numeral) (body : List Char) (spelled : n.Spelled body) :
    ofMagnitude? n.negative body =
      some (ofScientific n.negative (number (n.whole ++ n.fraction.getD [])) (-(n.fraction.getD []).length)) := by
  have parts := Numeral.spelled_parts n body spelled
  have small : body.map Char.toLower = body :=
    (List.map_congr_left fun c member => (part_small c (parts c member)).1).trans (List.map_id body)
  have wordless (w : List Char) (letter : ∃ c ∈ w, ¬(isDigit c = true ∨ c = '.')) : body ≠ w := by
    obtain ⟨c, member, outside⟩ := letter
    exact fun same => outside (parts c (same ▸ member))
  have unmarked : body.all (fun c => !(c == 'e' || c == 'E')) = true :=
    List.all_eq_true.mpr fun c member => by simp [(part_small c (parts c member)).2]
  have split : splitExponent body = (body, none) := by
    obtain ⟨taken, dropped⟩ := longest_run _ body [] unmarked rfl
    rw [List.append_nil] at taken dropped
    rw [splitExponent, taken, dropped]
  have finite : ¬(body = "inf".toList ∨ body = "infinity".toList) :=
    not_or.mpr ⟨wordless _ ⟨'i', by decide, by decide⟩, wordless _ ⟨'i', by decide, by decide⟩⟩
  have known : body ≠ "nan".toList := wordless _ ⟨'n', by decide, by decide⟩
  rw [ofMagnitude?]
  simp only [small]
  rw [if_neg finite, if_neg known, ofUnsigned?, split]
  simp [Numeral.of_unsigned_spelled n body spelled]

theorem of_text_numeral (text : List Char) (n : Numeral) (read : Numeral.ofText? text = some n) : ofText? text =
    some (ofScientific n.negative (number (n.whole ++ n.fraction.getD [])) (-(n.fraction.getD []).length)) := by
  obtain ⟨sign, body, signed, rfl, spelled⟩ := Numeral.signed_of_text text n read
  rw [← of_magnitude_spelled n body spelled]
  obtain ⟨c, rest, rfl, start, _⟩ := Numeral.spelled_cons n body spelled
  obtain ⟨negative, whole, fraction⟩ := n
  cases signed with
  | plus => rfl
  | minus => rfl
  | absent =>
    rw [List.nil_append, ofText?]
    · rintro _ ⟨⟩
      exact absurd start (by decide)
    · rintro _ ⟨⟩
      exact absurd start (by decide)

end Binary64

theorem named_float_iff (text : List Char) (x : Binary64) :
    (Numeral.ofText? text).bind Numeral.value? = some (.float x) ↔
      (∃ negative mantissa places, Payload.Pointed text negative mantissa places) ∧ Binary64.ofText? text = some x := by
  simp only [numeral_pointed_iff]
  rw [Option.bind_eq_some_iff]
  constructor
  · rintro ⟨n, read, named⟩
    cases pointed : n.fraction with
    | none => simp [Numeral.value?, pointed] at named
    | some fraction =>
      refine ⟨⟨_, _, _, n, fraction, read, rfl, pointed, rfl, rfl⟩, ?_⟩
      rw [Binary64.of_text_numeral text n read, pointed]
      simpa [Numeral.value?, pointed] using named
  · rintro ⟨⟨_, _, _, n, fraction, read, _, pointed, _, _⟩, named⟩
    refine ⟨n, read, ?_⟩
    rw [Binary64.of_text_numeral text n read, pointed] at named
    simpa [Numeral.value?, pointed] using named

theorem pointed_read (text : List Char) (negative : Bool) (mantissa places : Nat)
    (pointed : Payload.Pointed text negative mantissa places) : ∃ rank,
      Binary64.Nearest (Binary64.inUnits 1074 mantissa) (10 ^ places) rank ∧
        Binary64.ofText? text = some (.ofRank negative rank) := by
  obtain ⟨n, fraction, read, rfl, split, rfl, rfl⟩ := (numeral_pointed_iff text negative mantissa places).mp pointed
  obtain ⟨rank, nearest, rounded⟩ := Binary64.of_scientific_nearest n.negative (number (n.whole ++ fraction)) fraction.length
  refine ⟨rank, nearest, ?_⟩
  rw [Binary64.of_text_numeral text n read, split, ← rounded]
  rfl

theorem of_trimmed_int_iff (text : List Char) (i : Int64) :
    Value.ofTrimmed text = .int i ↔ Payload.Whole text i.toInt :=
  (of_trimmed_numeral_iff text (.int i) (.inl rfl)).trans (named_int_iff text i)

theorem of_trimmed_float_iff (text : List Char) (x : Binary64) : Value.ofTrimmed text = .float x ↔
    (∃ negative mantissa places, Payload.Pointed text negative mantissa places) ∧ Binary64.ofText? text = some x :=
  (of_trimmed_numeral_iff text (.float x) (.inr rfl)).trans (named_float_iff text x)

theorem enclosed_iff (text : List Char) (inner : List UInt8) :
    Payload.Enclosed (Text.Utf8.encode (String.ofList text)) inner ↔
      ∃ s, Payload.Quoted text s ∧ Text.Utf8.encode (String.ofList s) = inner := by
  simp only [Text.Utf8.encode_eq, String.toList_ofList]
  constructor
  · rintro ⟨q, quote, enclosed⟩
    have low : q.toNat < 128 := by rcases quote with rfl | rfl <;> decide
    have single : Value.isQuote (Char.ofNat q.toNat) = true := by rcases quote with rfl | rfl <;> decide
    obtain ⟨rest, rfl, encoded⟩ := Text.Utf8.encoded_first text q _ low enclosed
    obtain ⟨front, rfl, within⟩ := Text.Utf8.encoded_last rest q inner low encoded
    exact ⟨front, ⟨_, single, rfl⟩, within⟩
  · rintro ⟨s, ⟨q, quote, rfl⟩, rfl⟩
    have listed : q = '"' ∨ q = '\x27' := by simpa [Value.isQuote] using quote
    have byte : ∃ b, (b = 34 ∨ b = 39) ∧ String.utf8EncodeChar q = [b] := by
      rcases listed with rfl | rfl
      · exact ⟨34, .inl rfl, by decide⟩
      · exact ⟨39, .inr rfl, by decide⟩
    obtain ⟨b, mark, encoded⟩ := byte
    exact ⟨b, mark, by simp [encoded]⟩

theorem of_trimmed_unformed (text : List Char) (bare : ∀ inner, ¬Payload.Quoted text inner)
    (wordless : ∀ b, text ≠ Payload.word b) (fractional : ∀ i : Int64, ¬Payload.Whole text i.toInt)
    (pointless : ¬∃ negative mantissa places, Payload.Pointed text negative mantissa places) :
    Value.ofTrimmed text = .string (String.ofList text) := by
  rcases of_trimmed_forms text with ⟨s, inner, _⟩ | ⟨b, same, _⟩ | ⟨v, named, _⟩ | ⟨_, _, _, kind⟩
  · exact absurd ((Payload.unquote_iff text s).mp inner) (bare s)
  · exact absurd same (wordless b)
  · obtain ⟨n, _, value⟩ := Option.bind_eq_some_iff.mp named
    rcases value_number n v value with ⟨i, rfl⟩ | ⟨x, rfl⟩
    · exact absurd ((named_int_iff text i).mp named) (fractional i)
    · exact absurd ((named_float_iff text x).mp named).1 pointless
  · exact kind

-- A quoted payload is told by its bytes. One with a point is always read, as the floating-point number nearest to it.
theorem coercion_recognises_grammar (raw : String) :
    (∀ inner, Payload.Enclosed (Payload.bytes raw) inner → ∃ s, Text.Utf8.encode s = inner ∧ Value.ofText raw = .string s) ∧
      (∀ b, Value.ofText raw = .bool b ↔ Payload.text raw = Payload.word b) ∧
      (∀ i, Value.ofText raw = .int i ↔ Payload.Whole (Payload.text raw) i.toInt) ∧
      (∀ x, Value.ofText raw = .float x ↔
        (∃ negative mantissa places, Payload.Pointed (Payload.text raw) negative mantissa places) ∧
          Binary64.ofText? (Payload.text raw) = some x) ∧
      (∀ negative mantissa places, Payload.Pointed (Payload.text raw) negative mantissa places → ∃ rank,
        Binary64.Nearest (Binary64.inUnits 1074 mantissa) (10 ^ places) rank ∧
          Binary64.ofText? (Payload.text raw) = some (.ofRank negative rank)) ∧
      ((∀ inner, ¬Payload.Enclosed (Payload.bytes raw) inner) → (∀ b, Payload.text raw ≠ Payload.word b) →
        (∀ i : Int64, ¬Payload.Whole (Payload.text raw) i.toInt) →
        (¬∃ negative mantissa places, Payload.Pointed (Payload.text raw) negative mantissa places) →
          Value.ofText raw = .string (String.ofList (Payload.text raw))) := by
  refine ⟨?_, of_trimmed_bool_iff _, of_trimmed_int_iff _, of_trimmed_float_iff _, pointed_read _, ?_⟩
  · intro inner enclosed
    obtain ⟨s, quoted, encoded⟩ := (enclosed_iff _ inner).mp enclosed
    refine ⟨String.ofList s, encoded, ?_⟩
    change Value.ofTrimmed (Payload.text raw) = _
    rw [Value.ofTrimmed, (Payload.unquote_iff _ s).mpr quoted]
  · intro bare wordless fractional pointless
    refine of_trimmed_unformed _ (fun inner quoted => ?_) wordless fractional pointless
    exact bare _ ((enclosed_iff _ _).mpr ⟨inner, quoted, rfl⟩)

example : ["9223372036854775808", "1e5", "inf", "NaN", "--1", "1.2.3", "+", ".", "\"x\x27", "\"", "True"].all
    (fun raw => Value.ofText raw == .string raw) = true := by
  decide +kernel

end SignalRules
