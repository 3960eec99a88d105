import SignalRules.Proofs.Condition.RoundTrip
import SignalRules.Proofs.Value.Comparison
import SignalRules.Proofs.Value.LiteralText
import SignalRules.Store

set_option autoImplicit false

namespace SignalRules
open Decimal (isDigit)
open Text (trim)

theorem literal_text_number (c : Char) (tail : List Char) (v : Value) (start : Token.isNumberStart c = true)
    (stands : Token.ofNumber (c :: tail) = .ok (.literal v)) : LiteralText v (c :: tail) := by
  have names : (Numeral.ofText? (c :: tail)).bind Numeral.value? = some v := by
    unfold Token.ofNumber at stands
    cases named : (Numeral.ofText? (c :: tail)).bind Numeral.value? with
    | none =>
      rw [named] at stands
      cases stands
    | some other =>
      rw [named] at stands
      cases stands
      rfl
  obtain ⟨n, read, named⟩ := Option.bind_eq_some_iff.mp names
  have unplussed : (c :: tail).head? ≠ some '+' := by
    intro plus
    cases plus
    exact absurd start (by decide)
  obtain ⟨body, split, spelled⟩ := Numeral.spelled_of_text (c :: tail) n unplussed read
  rw [split]
  exact literal_text_numeral n body v spelled named

theorem keyword_bool (b : Bool) (word : List Char) (letters : word.map Char.toLower = (Value.bool b).literal.toList) :
    Token.keyword? word = some (.literal (.bool b)) := by
  unfold Token.keyword?
  rw [letters]
  cases b <;> rfl

theorem keyword_literal (word : List Char) (v : Value) (read : Token.keyword? word = some (.literal v)) :
    LiteralText v word := by
  by_cases yes : word.map Char.toLower = "true".toList
  · rw [keyword_bool true word yes] at read
    cases read
    exact .word true word yes
  by_cases no : word.map Char.toLower = "false".toList
  · rw [keyword_bool false word no] at read
    cases read
    exact .word false word no
  refine absurd read ?_
  unfold Token.keyword?
  dsimp only
  rw [if_neg yes, if_neg no]
  repeat' apply Token.ite_ne
  all_goals simp

theorem literal_text_word (word : List Char) (v : Value) (stands : Token.ofWord word = .ok (.literal v)) :
    LiteralText v word := by
  unfold Token.ofWord at stands
  by_cases point : word.contains '.' = true
  · rw [if_pos point] at stands
    cases path : Token.isPath word <;> simp [path] at stands
  · rw [if_neg point] at stands
    cases keyword : Token.keyword? word with
    | none =>
      rw [keyword] at stands
      cases path : Token.isPath word <;> simp [path] at stands
    | some token =>
      rw [keyword] at stands
      cases stands
      exact keyword_literal word v keyword

theorem spelling_word (b : Bool) (text : List Char) (letters : text.map Char.toLower = (Value.bool b).literal.toList) :
    Token.Spelling (.literal (.bool b)) text := by
  have listed : (Value.bool b).literal ∈ Token.keywords := by cases b <;> decide
  exact Token.spelling_keyword _ text _ listed letters (by cases b <;> rfl)

theorem spelling_literal_iff (v : Value) (text : List Char) : Token.Spelling (.literal v) text ↔ LiteralText v text := by
  constructor
  · intro spelling
    cases spelling with
    | word c tail _ start parts stands => exact literal_text_word _ v stands
    | number c tail _ start parts stands => exact literal_text_number c tail v start stands
    | quoted q s quote inside => exact .quoted q s quote inside
  · intro literal
    cases literal with
    | word b _ letters => exact spelling_word b text letters
    | whole negative digits i all_digits nonempty amount =>
      exact number_text_spelling _ _ (number_text_whole negative digits i all_digits nonempty amount)
    | pointed negative whole fraction whole_digits fraction_digits nonempty =>
      exact number_text_spelling _ _ (number_text_pointed negative whole fraction whole_digits fraction_digits nonempty)
    | quoted q s quote inside => exact .quoted q s quote inside

theorem order_self (v : Value) (comparable : v ≠ .float .nan) (unordered : v.kind ≠ .bool) : v.order v = some .eq := by
  cases v with
  | bool b => exact absurd rfl unordered
  | int i => exact congrArg some Std.ReflCmp.compare_self
  | string s => exact congrArg some Std.ReflCmp.compare_self
  | float x =>
    cases x with
    | nan => exact absurd rfl comparable
    | infinity negative => exact congrArg some Std.ReflCmp.compare_self
    | finite negative rank => exact congrArg some Std.ReflCmp.compare_self

theorem apply_eq_self (v : Value) (comparable : v ≠ .float .nan) : Comparator.eq.apply v v = .ok true := by
  by_cases word : v.kind = .bool
  · cases v with
    | bool b => cases b <;> rfl
    | int _ | float _ | string _ => cases word
  · have ordered : Comparator.eq.apply v v = .ok (Comparator.eq.holds (v.order v)) := by
      cases v with
      | bool b => exact absurd rfl word
      | int _ | float _ | string _ => rfl
    rw [ordered, order_self v comparable word]
    rfl

theorem read_entry_name (name : String) (legal : IsName name) (t : String) :
    Store.readEntry (name ++ " = " ++ t) = .ok (name, Value.ofText t) := by
  have parts := name_word_parts name legal
  have cut : Text.splitOnce '=' (name ++ " = " ++ t).toList = some (name.toList ++ [' '], ' ' :: t.toList) := by
    have absent : '=' ∉ name.toList ++ [' '] := by
      intro member
      rcases List.mem_append.mp member with inside | gap
      · exact absurd (parts '=' inside) (by decide)
      · exact absurd gap (by decide)
    have whole : (name ++ " = " ++ t).toList = name.toList ++ [' '] ++ '=' :: (' ' :: t.toList) := by simp
    rw [whole, Text.splitOnce_append '=' _ _ absent]
  have trimmed : trim (name.toList ++ [' ']) = name.toList := by
    rw [Text.trim_blank _ ' ' rfl, Text.trim_trimmed]
    exact Text.solid_trimmed _ fun c member => Token.word_part_not_blank c (parts c member)
  have filled : name.toList.isEmpty = false := by
    obtain ⟨c, rest, split, _⟩ := legal.characters
    rw [split]
    rfl
  rw [Store.readEntry, cut]
  dsimp only
  rw [trimmed, filled, String.ofList_toList]
  rfl

theorem of_entries_single (name : String) (legal : IsName name) (t : String) :
    Store.ofEntries [name ++ " = " ++ t] = .ok (NameMap.empty.insert name (Value.ofText t)) := by
  rw [Store.ofEntries, Store.seed, read_entry_name name legal t]
  rfl

theorem parse_equal (name t : String) (v : Value) (legal : IsName name) (spelling : Token.Spelling (.literal v) (trim t.toList)) :
    Condition.parse (name ++ " == " ++ t) = .ok (.compare .eq (.signal name) (.literal v)) := by
  have right : Printed t [.literal v] := fun rest boundary => Token.scanned_trim _ _ rest spelling boundary
  have printed := printed_spaced _ _ _ _ (printed_spaced _ _ _ _ (printed_signal name legal) (printed_comparator .eq)) right
  have gaps : name ++ " " ++ Comparator.eq.symbol ++ " " ++ t = name ++ " == " ++ t := by
    have gap : " == " = " " ++ "==" ++ " " := rfl
    rw [gap]
    simp [String.append_assoc, Comparator.symbol]
  obtain ⟨placed, scanned, shown⟩ := Token.scanned_whole _ _ (printed [] rfl)
  rw [gaps] at scanned
  refine (Condition.parse_eq_ok_iff _ _).mpr ⟨placed, scanned, ?_⟩
  rw [shown]
  exact derives_loosest _ _ (.compared .eq [.signal name] [.literal v] _ _ (.signal name) (.literal v))

theorem evaluate_equal (name : String) (v : Value) (comparable : v ≠ .float .nan) :
    (Condition.compare .eq (.signal name) (.literal v)).evaluate (NameMap.empty.insert name v) = .ok true := by
  have held : (Condition.signal name).value (NameMap.empty.insert name v) = .ok v := by
    rw [Condition.value, Condition.read, NameMap.get?_insert, if_pos rfl]
  rw [Condition.evaluate_compare _ .eq _ _ v v held rfl, apply_eq_self v comparable]

theorem scan_literal_iff (v : Value) (text : List Char) :
    (∃ offset, Token.scan 0 text = .ok [(offset, .literal v)]) ↔ LiteralText v (trim text) :=
  (Token.scan_alone_iff (.literal v) text).trans (spelling_literal_iff v (trim text))

theorem literal_tokens_coerce_alike (t : String) (v : Value) :
    ((∃ offset, Token.scan 0 t.toList = .ok [(offset, .literal v)]) ↔ LiteralText v (trim t.toList)) ∧
    ∀ offset, Token.scan 0 t.toList = .ok [(offset, .literal v)] →
      (Value.ofText t = v ↔ Uncapitalized v t.toList) ∧
      (Uncapitalized v t.toList → ∀ name, IsName name →
        let held := NameMap.empty.insert name v
        let equal := Condition.compare .eq (.signal name) (.literal v)
        Store.ofEntries [name ++ " = " ++ t] = .ok held ∧ Condition.parse (name ++ " == " ++ t) = .ok equal ∧
          equal.evaluate held = .ok true) := by
  refine ⟨scan_literal_iff v t.toList, fun offset read => ?_⟩
  have literal := (scan_literal_iff v t.toList).mp ⟨offset, read⟩
  have coerced : Value.ofText t = v ↔ Uncapitalized v t.toList := by
    rw [Value.ofText, of_trimmed_literal v _ literal, uncapitalized_trim]
  refine ⟨coerced, fun small name legal => ⟨?_, ?_, ?_⟩⟩
  · rw [of_entries_single name legal t, coerced.mpr small]
  · exact parse_equal name t v legal ((spelling_literal_iff v _).mpr literal)
  · exact evaluate_equal name v (literal_not_nan v _ literal)

theorem literal_tokens_coerce_alike_offset :
    let text := " -.5\t"
    let half := Value.float (.ofScientific true 5 (-1))
    let held := NameMap.empty.insert "offset" half
    let equal := Condition.compare .eq (.signal "offset") (.literal half)
    (∃ offset, Token.scan 0 text.toList = .ok [(offset, .literal half)]) ∧ IsName "offset" ∧ Value.ofText text = half ∧
      Store.ofEntries ["offset" ++ " = " ++ text] = .ok held ∧ Condition.parse ("offset" ++ " == " ++ text) = .ok equal ∧
      equal.evaluate held = .ok true := by
  intro text half held equal
  obtain ⟨grammar, alike⟩ := literal_tokens_coerce_alike text half
  have digits : ∀ c ∈ ['5'], isDigit c = true := List.all_eq_true.mp (by decide)
  have trimmed : trim text.toList = ['-', '.', '5'] := by decide
  have literal : LiteralText half (trim text.toList) := by
    rw [trimmed]
    exact .pointed true [] ['5'] nofun digits nofun
  have name : IsName "offset" := name_of_word 'o' "ffset".toList "offset" rfl rfl rfl
  obtain ⟨offset, read⟩ := grammar.mpr literal
  obtain ⟨coerced, conditioned⟩ := alike offset read
  have small : Uncapitalized half text.toList := nofun
  exact ⟨⟨offset, read⟩, name, coerced.mpr small, conditioned small "offset" name⟩

end SignalRules
