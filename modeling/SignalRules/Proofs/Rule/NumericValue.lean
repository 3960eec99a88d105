import SignalRules.Proofs.Binary64.DocumentText
import SignalRules.Proofs.Condition.RoundTrip
import SignalRules.Proofs.Rule.Index
import SignalRules.Proofs.Value.Literal

set_option autoImplicit false

namespace SignalRules
open Decimal (isDigit)
open Text (isBlank)

namespace Value

theorem marked_solid (text : List Char) (marked : Binary64.Marked text) : ∀ c ∈ text, isBlank c = false := by
  have solid (c : Char) (part : isDigit c = true ∨ c ∈ ['.', '-', 'e']) : isBlank c = false := by
    rcases part with digit | other
    · exact Token.number_start_not_blank c (Token.number_start_of c (.inl digit))
    · exact Text.solid_of_all ['.', '-', 'e'] (by decide) c other
  obtain ⟨first, rest, rfl, start, _, parts⟩ := marked.shape
  refine List.forall_mem_cons.mpr ⟨solid first (start.imp_right fun minus => by simp [minus]), ?_⟩
  exact fun c member => solid c (parts c member)

theorem marked_not_numeral (text : List Char) (marked : Binary64.Marked text) : Numeral.ofText? text = none := by
  obtain ⟨first, rest, rfl, start, mark, _⟩ := marked.shape
  cases read : Numeral.ofText? (first :: rest) with
  | none => rfl
  | some n =>
    have unplussed : (first :: rest).head? ≠ some '+' := by
      intro plus
      cases plus
      exact absurd start (by decide)
    obtain ⟨body, split, spelled⟩ := Numeral.spelled_of_text _ n unplussed read
    have member : 'e' ∈ Binary64.sign n.negative ++ body := split ▸ List.mem_cons_of_mem first mark
    rcases List.mem_append.mp member with sign | inside
    · exact absurd sign (by cases n.negative <;> decide)
    · exact absurd (Numeral.spelled_parts n body spelled 'e' inside) (by decide)

theorem of_trimmed_marked (text : List Char) (marked : Binary64.Marked text) : ofTrimmed text = .string (String.ofList text) := by
  have unread := marked_not_numeral text marked
  obtain ⟨first, rest, rfl, start, _⟩ := marked.shape
  rw [of_trimmed_started first rest (start.imp_right fun minus => by simp [minus]), unread]
  rfl

theorem document_word : ∀ x ∈ [Binary64.nan, .infinity false, .infinity true], ¬x.Plain ∧
    x.documentText.all (!isBlank ·) = true ∧ ofTrimmed x.documentText = .string (String.ofList x.documentText) := by
  decide

theorem of_text_document (x : Binary64) : ofText (String.ofList x.documentText) =
    if x.Plain then .float x else .string (String.ofList x.documentText) := by
  rw [of_text_list]
  rcases word_cases x with word | ⟨negative, rank, rfl⟩
  · obtain ⟨scaled, solid, read⟩ := document_word x word
    rw [if_neg scaled, Text.trim_trimmed _ (Text.solid_trimmed _ (Text.solid_of_all _ solid)), read]
  · by_cases plain : (Binary64.finite negative rank).Plain
    · obtain ⟨text, split, named⟩ := Binary64.document_text_plain negative rank plain
      have number := number_text_named negative text _ named
      rw [if_pos plain, split, Text.trim_trimmed _ (Text.solid_trimmed _ (number_text_solid _ _ number))]
      exact of_trimmed_number _ _ number
    · have marked := Binary64.document_text_marked negative rank plain
      rw [if_neg plain, Text.trim_trimmed _ (Text.solid_trimmed _ (marked_solid _ marked))]
      exact of_trimmed_marked _ marked

end Value

namespace EmitBlock

theorem action_read (b : EmitBlock) (signal : String) (d : Yaml.Datum) (text : String) (delay : Option Nat)
    (named : b.signalName? = some signal) (given : b.value = some d) (scalar : d.scalarText? = some text)
    (delayed : b.readDelay = .ok delay) : b.action = .ok ⟨signal, Value.ofText text, delay⟩ := by
  rw [action, readValue, named, given, delayed]
  dsimp only
  rw [scalar]

end EmitBlock

section
variable (b : RuleBlock) (id : Nat) (emit : EmitBlock) (d : Yaml.Datum) (condition : Condition) (signal : String)
  (delay : Option Nat) (valid : b.readCondition = .ok condition) (emits : b.emit = some emit)
  (named : emit.signalName? = some signal) (given : emit.value = some d) (delayed : emit.readDelay = .ok delay)
include valid emits named given delayed

theorem rule_read (text : String) (scalar : d.scalarText? = some text) :
    b.rule id = .ok ⟨id, condition, ⟨signal, Value.ofText text, delay⟩⟩ :=
  (RuleSet.rule_eq_ok_iff b id _).mpr
    ⟨condition, emit, _, valid, emits, emit.action_read signal d text delay named given scalar delayed, rfl⟩

-- Numbers go through their text, which is read back as a number only if there is no exponent in it.
theorem numbers_emitted_unless_scaled :
    (∀ n : Int64, d.untagged = .integer n.toInt → b.rule id = .ok ⟨id, condition, ⟨signal, .int n, delay⟩⟩) ∧
      ∀ x, d.untagged = .float x → b.rule id = .ok ⟨id, condition,
        ⟨signal, if x.Plain then .float x else .string (String.ofList x.documentText), delay⟩⟩ := by
  have ruled := rule_read b id emit d condition signal delay valid emits named given delayed
  constructor
  · intro n whole
    have read : Value.ofText (Decimal.signedText n.toInt) = .int n := Value.of_text_bounded (.int n) trivial
    rw [ruled (Decimal.signedText n.toInt) (by rw [Yaml.Datum.scalarText?, whole]), read]
  · intro x number
    rw [ruled (String.ofList x.documentText) (by rw [Yaml.Datum.scalarText?, number]), Value.of_text_document]

end

def levelBlock (d : Yaml.Datum) : RuleBlock := ⟨some (.text "door"), some ⟨some "level", some d, none, []⟩, []⟩

def levelRule (value : Value) : Rule := ⟨0, .signal "door", ⟨"level", value, none⟩⟩

theorem level_condition (d : Yaml.Datum) : (levelBlock d).readCondition = .ok (.signal "door") := by
  have door := parse_name "door" (name_of_word 'd' "oor".toList "door" rfl rfl rfl)
  simp only [levelBlock, RuleBlock.readCondition, Yaml.Datum.scalarText?, Yaml.Datum.untagged, door]

theorem level_signal : (EmitBlock.mk (some "level") none none []).signalName? = some "level" := by decide

-- The numbers 0.5, 0.000001 and 10000000000000000.
def half : Binary64 := .finite false ⟨4602678819172646912, by decide⟩
def millionth : Binary64 := .finite false ⟨4517329193108106637, by decide⟩
def tenQuadrillion : Binary64 := .finite false ⟨Binary64.pastPlain, by decide⟩

theorem numbers_emitted_unless_scaled_level :
    (levelBlock (.integer (-3))).rule 0 = .ok (levelRule (.int (-3))) ∧
      (levelBlock (.float half)).rule 0 = .ok (levelRule (.float half)) ∧
      (levelBlock (.float millionth)).rule 0 = .ok (levelRule (.string "1e-6")) := by
  have emitted (d : Yaml.Datum) := numbers_emitted_unless_scaled (levelBlock d) 0 _ d _ "level" none (level_condition d) rfl
    level_signal rfl rfl
  have plain : half.Plain := by decide +kernel
  have scaled : ¬millionth.Plain := by decide +kernel
  have text : String.ofList millionth.documentText = "1e-6" := by decide +kernel
  refine ⟨(emitted _).1 (-3) rfl, ?_, ?_⟩
  · rw [(emitted _).2 half rfl, if_pos plain]
    rfl
  · rw [(emitted _).2 millionth rfl, if_neg scaled, text]
    rfl

theorem level_text (x : Binary64) (text : String) (read : Value.ofText (String.ofList x.documentText) = .string text) :
    (levelBlock (.float x)).rule 0 = .ok (levelRule (.string text)) := by
  rw [rule_read (levelBlock (.float x)) 0 _ (.float x) _ "level" none (level_condition _) rfl level_signal rfl rfl _ rfl, read]
  rfl

theorem scaled_numbers_emitted_as_text :
    ((levelBlock (.float millionth)).rule 0 = .ok (levelRule (.string "1e-6")) ∧ millionth.isFinite = true ∧
      Value.ofText "0.000001" = .float millionth) ∧
    (levelBlock (.float tenQuadrillion)).rule 0 = .ok (levelRule (.string "1e16")) ∧ tenQuadrillion.isFinite = true ∧
      Value.ofText "10000000000000000.0" = .float tenQuadrillion := by
  have small : Value.ofText (String.ofList millionth.documentText) = .string "1e-6" := by decide +kernel
  have large : Value.ofText (String.ofList tenQuadrillion.documentText) = .string "1e16" := by decide +kernel
  exact ⟨⟨level_text millionth "1e-6" small, rfl, by decide +kernel⟩,
    level_text tenQuadrillion "1e16" large, rfl, by decide +kernel⟩

end SignalRules
