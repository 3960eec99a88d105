import SignalRules.Proofs.Engine.Dispatch
import SignalRules.Proofs.Rule.Compilation
import SignalRules.Proofs.Signal.Wire
import SignalRules.Proofs.Transport.Lines

set_option autoImplicit false

namespace SignalRules

namespace Action

structure Survives (a : Action) (line raw : String) : Prop where
  sent : ∀ (o : Outlet) (time : Nat), o.refuses o.attempts = false →
    ByteFeed.written (o.send time a.outbound).2 = ByteFeed.written o ++ (line ++ "\n")
  filled : line ≠ ""
  single : '\n' ∉ line.toList
  read : Inbound.ofLine? line = some (.update a.signal raw)
  value : Value.ofText raw = a.value

theorem survives_iff (a : Action) (named : a.signal.toList ≠ []) (trimmed : Text.Trimmed a.signal.toList) :
    (∃ line raw, a.Survives line raw) ↔ Signal.Clean a.signal a.value := by
  constructor
  · rintro ⟨line, raw, survives⟩
    have wire : line = a.outbound.wire := by
      have first := survives.sent ⟨"", fun _ => false, fun _ => "", 0, []⟩ 0 rfl
      rw [ByteFeed.written_sent _ _ _ rfl] at first
      simpa using first.symm
    subst wire
    have undivided := Inbound.of_line_undivided _ a.signal raw survives.read
    obtain ⟨unbroken, whole⟩ := (Signal.wire_unbroken_iff a.signal a.value).mp survives.single
    have read := survives.read
    rw [Action.outbound, Inbound.of_line_wire a.signal a.value undivided named trimmed] at read
    cases read
    exact ⟨undivided, unbroken, (Value.of_text_literal_iff a.value).mp survives.value, whole⟩
  · intro clean
    exact ⟨a.outbound.wire, a.value.literal, {
      sent := fun o time accepts => ByteFeed.written_sent o time a.outbound accepts
      filled := Signal.wire_filled a.signal a.value
      single := (Signal.wire_unbroken_iff a.signal a.value).mpr ⟨clean.unbroken, clean.whole⟩
      read := Inbound.of_line_wire a.signal a.value clean.undivided named trimmed
      value := (Value.of_text_literal_iff a.value).mpr clean.bounded }⟩

end Action

namespace EmitBlock

theorem signal_name (b : EmitBlock) (signal : String) (named : b.signalName? = some signal) :
    signal.toList ≠ [] ∧ Text.Trimmed signal.toList := by
  obtain ⟨text, _, kept⟩ := Option.bind_eq_some_iff.mp named
  by_cases empty : (Text.trim text.toList).isEmpty = true
  · simp [empty] at kept
  · simp only [empty, Bool.false_eq_true, if_false, Option.some.injEq] at kept
    rw [← kept, String.toList_ofList]
    exact ⟨by simpa using empty, Text.trimmed_trim text.toList⟩

theorem action_signal (b : EmitBlock) (a : Action) (read : b.action = .ok a) : b.signalName? = some a.signal := by
  unfold action at read
  cases named : b.signalName? with
  | none => simp [named] at read
  | some signal =>
    cases valued : b.readValue with
    | error fault => simp [named, valued] at read
    | ok value =>
      cases delayed : b.readDelay with
      | error fault => simp [named, valued, delayed] at read
      | ok delay =>
        simp only [named, valued, delayed, Except.ok.injEq] at read
        rw [← read]

end EmitBlock

namespace RuleSet

theorem compile_signal (blocks : List RuleBlock) (s : RuleSet) (rule : Rule) (compiled : compile blocks = .ok s)
    (member : rule ∈ s.rules) : rule.action.signal.toList ≠ [] ∧ Text.Trimmed rule.action.signal.toList := by
  obtain ⟨length, each⟩ := declared_each blocks 0 s.rules (compile_declared blocks s compiled)
  obtain ⟨i, bound, found⟩ := List.mem_iff_getElem.mp member
  have inside : i < blocks.length := length ▸ bound
  have read := each i blocks[i] rule (List.getElem?_eq_getElem inside) (by rw [List.getElem?_eq_getElem bound, found])
  obtain ⟨condition, emit, action, _, _, acted, rfl⟩ := (rule_eq_ok_iff _ _ _).mp read
  exact emit.signal_name action.signal (emit.action_signal action acted)

end RuleSet

theorem action_survives_iff (blocks : List RuleBlock) (s : RuleSet) (rule : Rule) (compiled : RuleSet.compile blocks = .ok s)
    (member : rule ∈ s.rules) :
    (∃ line raw, rule.action.Survives line raw) ↔ Signal.Clean rule.action.signal rule.action.value := by
  obtain ⟨named, trimmed⟩ := RuleSet.compile_signal blocks s rule compiled member
  exact rule.action.survives_iff named trimmed

theorem action_survives_iff_door : RuleSet.compile doorBlocks = .ok doorRules ∧
    ∀ rule ∈ doorRules.rules, ∃ line raw, rule.action.Survives line raw := by
  have clean : ∀ rule ∈ doorRules.rules, Signal.Clean rule.action.signal rule.action.value := by decide
  exact ⟨compile_door, fun rule member =>
    (action_survives_iff doorBlocks doorRules rule compile_door member).mpr (clean rule member)⟩

def beyondDigits : List Char := List.replicate 309 '9' ++ ['.', '0']

def strayBlocks : List RuleBlock :=
  [⟨some (.text "door"), some ⟨some "x=y", some (.integer 1), none, []⟩, []⟩,
    ⟨some (.text "door"), some ⟨some "x\ny", some (.integer 1), none, []⟩, []⟩,
    ⟨some (.text "door"), some ⟨some "note", some (.text "p\nq"), none, []⟩, []⟩,
    ⟨some (.text "door"), some ⟨some "level", some (.text (String.ofList beyondDigits)), none, []⟩, []⟩]

def strayActions : List Action :=
  [⟨"x=y", .int 1, none⟩, ⟨"x\ny", .int 1, none⟩, ⟨"note", .string "p\nq", none⟩, ⟨"level", .float (.infinity false), none⟩]

theorem compile_stray : ∃ s, RuleSet.compile strayBlocks = .ok s ∧ s.rules.map (·.action) = strayActions := by
  have door := parse_name "door" (name_of_word 'd' "oor".toList "door" rfl rfl rfl)
  have one : Value.ofText (Decimal.signedText 1) = .int 1 := by decide +kernel
  have broken : Value.ofText "p\nq" = .string "p\nq" := by decide +kernel
  have beyond : Value.ofText (String.ofList beyondDigits) = .float (.infinity false) :=
    (Value.of_text_list beyondDigits).trans (by decide +kernel)
  simp only [strayBlocks, RuleSet.compile, RuleSet.extend, RuleBlock.rule, RuleBlock.readCondition, EmitBlock.action,
    EmitBlock.readValue, Yaml.Datum.scalarText?, Yaml.Datum.untagged, door, one, broken, beyond]
  exact ⟨_, rfl, rfl⟩

theorem stray_unclean : ∀ a ∈ strayActions, ¬Signal.Clean a.signal a.value := by decide

theorem stray_actions_lost : ∃ s, RuleSet.compile strayBlocks = .ok s ∧ s.rules.length = 4 ∧
    ∀ rule ∈ s.rules, ¬∃ line raw, rule.action.Survives line raw := by
  obtain ⟨s, compiled, actions⟩ := compile_stray
  refine ⟨s, compiled, by simpa [strayActions] using congrArg List.length actions, fun rule member survives => ?_⟩
  obtain ⟨named, trimmed⟩ := RuleSet.compile_signal strayBlocks s rule compiled member
  have stray : rule.action ∈ strayActions := actions ▸ List.mem_map_of_mem member
  exact stray_unclean rule.action stray ((rule.action.survives_iff named trimmed).mp survives)

end SignalRules
