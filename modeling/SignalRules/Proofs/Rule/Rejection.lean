import SignalRules.Proofs.Condition.RoundTrip
import SignalRules.Proofs.Rule.Compilation

set_option autoImplicit false

namespace SignalRules

theorem rule_from_first (block : RuleBlock) (position : Nat) :
    block.rule position = (block.rule 0).map (Rule.moved position) := by
  unfold RuleBlock.rule
  cases block.readCondition with
  | error fault => rfl
  | ok condition =>
    cases block.emit with
    | none => rfl
    | some emit =>
      cases acted : emit.action with
      | error fault => simp [acted, Except.map]
      | ok action => simp [acted, Except.map, Rule.moved]

def RuleBlock.Accepted (block : RuleBlock) : Prop := ∃ rule, block.rule 0 = .ok rule

theorem declared_accepted (blocks : List RuleBlock) (position : Nat) (accepted : ∀ block ∈ blocks, block.Accepted) :
    ∃ rules, declared position blocks = .ok rules := by
  induction blocks generalizing position with
  | nil => exact ⟨[], rfl⟩
  | cons block blocks ih =>
    obtain ⟨⟨rule, read⟩, later⟩ := List.forall_mem_cons.mp accepted
    obtain ⟨rules, rest⟩ := ih (position + 1) later
    exact ⟨rule.moved position :: rules, by simp [declared, rule_from_first block position, read, rest, Except.map]⟩

theorem declared_refused (front : List RuleBlock) (block : RuleBlock) (back : List RuleBlock) (position : Nat)
    (fault : RuleFault) (accepted : ∀ other ∈ front, other.Accepted) (refused : block.rule 0 = .error fault) :
    declared position (front ++ block :: back) = .error ⟨position + front.length, fault⟩ := by
  induction front generalizing position with
  | nil => simp [declared, rule_from_first block position, refused, Except.map]
  | cons first front ih =>
    obtain ⟨⟨rule, read⟩, later⟩ := List.forall_mem_cons.mp accepted
    rw [List.length_cons, Nat.add_comm front.length, ← Nat.add_assoc]
    simp [declared, rule_from_first first position, read, ih (position + 1) later, Except.map]

theorem accepted_or_refused (blocks : List RuleBlock) : (∀ block ∈ blocks, block.Accepted) ∨
    ∃ front block back fault, blocks = front ++ block :: back ∧ (∀ other ∈ front, other.Accepted) ∧
      block.rule 0 = .error fault := by
  have accepted_iff (block : RuleBlock) : block.Accepted ↔ (block.rule 0).isOk = true := by
    rw [RuleBlock.Accepted]
    cases block.rule 0 with
    | error fault => simp [Except.isOk, Except.toBool]
    | ok rule => simp [Except.isOk, Except.toBool]
  cases found : blocks.find? fun block => !(block.rule 0).isOk with
  | none =>
    refine .inl fun block member => (accepted_iff block).mpr ?_
    simpa using List.find?_eq_none.mp found block member
  | some block =>
    obtain ⟨refused, front, back, split, accepted⟩ := List.find?_eq_some_iff_append.mp found
    refine .inr ⟨front, block, back, ?_⟩
    cases read : block.rule 0 with
    | ok rule => simp [read, Except.isOk, Except.toBool] at refused
    | error fault => exact ⟨fault, split, fun other member => (accepted_iff other).mpr (by simpa using accepted other member), rfl⟩

namespace RuleSet

theorem compile_alone (block : RuleBlock) : compile [block] =
    match block.rule 0 with
    | .error fault => .error ⟨0, fault⟩
    | .ok rule => .ok (empty.add rule) := rfl

theorem alone_accepted_iff (block : RuleBlock) : (∃ s, compile [block] = .ok s) ↔ block.Accepted := by
  rw [compile_alone, RuleBlock.Accepted]
  cases block.rule 0 with
  | error fault => simp
  | ok rule => simp

theorem alone_refused_iff (block : RuleBlock) (fault : RuleFault) :
    compile [block] = .error ⟨0, fault⟩ ↔ block.rule 0 = .error fault := by
  rw [compile_alone]
  cases block.rule 0 with
  | error fault => simp
  | ok rule => simp

theorem compile_refused (front : List RuleBlock) (block : RuleBlock) (back : List RuleBlock) (fault : RuleFault)
    (accepted : ∀ other ∈ front, other.Accepted) (refused : block.rule 0 = .error fault) :
    compile (front ++ block :: back) = .error ⟨front.length, fault⟩ := by
  have blamed := declared_refused front block back 0 fault accepted refused
  rw [Nat.zero_add] at blamed
  rw [compile, extend_declared]
  change (declared 0 (front ++ block :: back)).map _ = _
  rw [blamed]
  rfl

theorem compile_ok_iff (blocks : List RuleBlock) : (∃ s, compile blocks = .ok s) ↔ ∀ block ∈ blocks, block.Accepted := by
  constructor
  · rintro ⟨s, compiled⟩
    rcases accepted_or_refused blocks with accepted | ⟨front, block, back, fault, rfl, accepted, refused⟩
    · exact accepted
    · cases compiled.symm.trans (compile_refused front block back fault accepted refused)
  · intro accepted
    obtain ⟨rules, read⟩ := declared_accepted blocks 0 accepted
    obtain ⟨s, compiled, _⟩ := compile_of_declared blocks rules read
    exact ⟨s, compiled⟩

theorem compile_error_iff (blocks : List RuleBlock) (e : RuleError) : compile blocks = .error e ↔
    ∃ front block back fault, blocks = front ++ block :: back ∧ (∀ other ∈ front, other.Accepted) ∧
      block.rule 0 = .error fault ∧ e = ⟨front.length, fault⟩ := by
  constructor
  · intro failed
    rcases accepted_or_refused blocks with accepted | ⟨front, block, back, fault, rfl, accepted, refused⟩
    · obtain ⟨s, compiled⟩ := (compile_ok_iff blocks).mpr accepted
      cases failed.symm.trans compiled
    · have blamed := compile_refused front block back fault accepted refused
      exact ⟨front, block, back, fault, rfl, accepted, refused, Except.error.inj (failed.symm.trans blamed)⟩
  · rintro ⟨front, block, back, fault, rfl, accepted, refused, rfl⟩
    exact compile_refused front block back fault accepted refused

theorem compile_each (blocks : List RuleBlock) (s : RuleSet) (compiled : compile blocks = .ok s) (i : Nat)
    (block : RuleBlock) (found : blocks[i]? = some block) : ∃ own alone, compile [block] = .ok own ∧
      own.rules = [alone] ∧ s.get? i = some ⟨i, alone.condition, alone.action⟩ := by
  obtain ⟨length, each⟩ := declared_each blocks 0 s.rules (compile_declared blocks s compiled)
  obtain ⟨alone, read⟩ := (compile_ok_iff blocks).mp ⟨s, compiled⟩ block (List.mem_of_getElem? found)
  have inside : i < s.rules.length := length ▸ (List.getElem?_eq_some_iff.mp found).1
  have there := List.getElem?_eq_getElem inside
  have same := each i block _ found there
  rw [Nat.zero_add, rule_from_first, read] at same
  refine ⟨empty.add alone, alone, by rw [compile_alone, read], rfl, ?_⟩
  rw [get?, there, ← Except.ok.inj same, Rule.moved, RuleSet.rule_id block 0 alone read, Nat.zero_add]

end RuleSet

theorem compilation_blames_first_fault (blocks : List RuleBlock) :
    ((∃ s, RuleSet.compile blocks = .ok s) ↔ ∀ block ∈ blocks, ∃ own, RuleSet.compile [block] = .ok own) ∧
      (∀ s, RuleSet.compile blocks = .ok s → s.size = blocks.length ∧
        ∀ (i : Nat) (block : RuleBlock), blocks[i]? = some block → ∃ own alone, RuleSet.compile [block] = .ok own ∧
          own.rules = [alone] ∧ s.get? i = some ⟨i, alone.condition, alone.action⟩) ∧
      ∀ e, RuleSet.compile blocks = .error e ↔ ∃ front block back fault, blocks = front ++ block :: back ∧
        (∀ other ∈ front, ∃ own, RuleSet.compile [other] = .ok own) ∧
          RuleSet.compile [block] = .error ⟨0, fault⟩ ∧ e = ⟨front.length, fault⟩ := by
  simp only [RuleSet.alone_accepted_iff, RuleSet.alone_refused_iff]
  refine ⟨RuleSet.compile_ok_iff blocks, fun s compiled => ⟨?_, RuleSet.compile_each blocks s compiled⟩,
    RuleSet.compile_error_iff blocks⟩
  exact (declared_each blocks 0 s.rules (RuleSet.compile_declared blocks s compiled)).1

-- The second block asks for a delay before its condition; the third has nothing in it and is never blamed.
def promptBlock : RuleBlock := ⟨some (.text "door"), some ⟨some "alarm", some (.bool true), some (.integer 5), []⟩, []⟩
def hastyBlock : RuleBlock := ⟨some (.text "door"), some ⟨some "alarm", some (.bool true), some (.integer (-5)), []⟩, []⟩
def bareBlock : RuleBlock := ⟨none, none, []⟩

theorem compilation_blames_first_fault_hasty :
    RuleSet.compile [promptBlock, hastyBlock, bareBlock] = .error ⟨1, .invalidDelay (some "-5")⟩ ∧
      RuleSet.compile [bareBlock] = .error ⟨0, .missingCondition⟩ := by
  have door := parse_name "door" (name_of_word 'd' "oor".toList "door" rfl rfl rfl)
  have minus : Decimal.signedText (-5) = "-5" := by decide +kernel
  have prompt : ∃ own, RuleSet.compile [promptBlock] = .ok own := by
    simp only [promptBlock, RuleSet.compile, RuleSet.extend, RuleBlock.rule, RuleBlock.readCondition,
      Yaml.Datum.scalarText?, Yaml.Datum.untagged, door]
    exact ⟨_, rfl⟩
  have hasty : RuleSet.compile [hastyBlock] = .error ⟨0, .invalidDelay (some "-5")⟩ := by
    rw [← minus]
    simp only [hastyBlock, RuleSet.compile, RuleSet.extend, RuleBlock.rule, RuleBlock.readCondition,
      Yaml.Datum.scalarText?, Yaml.Datum.untagged, door]
    rfl
  obtain ⟨_, _, blamed⟩ := compilation_blames_first_fault [promptBlock, hastyBlock, bareBlock]
  refine ⟨(blamed _).mpr ⟨[promptBlock], hastyBlock, [bareBlock], _, rfl, ?_, hasty, rfl⟩, rfl⟩
  exact List.forall_mem_singleton.mpr prompt

end SignalRules
