import SignalRules.Proofs.Rule.Index

set_option autoImplicit false

namespace SignalRules

def declared (position : Nat) : List RuleBlock → Except RuleError (List Rule)
  | [] => .ok []
  | block :: rest =>
    match block.rule position with
    | .error fault => .error ⟨position, fault⟩
    | .ok rule => (declared (position + 1) rest).map (rule :: ·)

def Rule.moved (offset : Nat) (rule : Rule) : Rule := { rule with id := rule.id + offset }

theorem rule_moved (block : RuleBlock) (id offset : Nat) (rule : Rule) (read : block.rule id = .ok rule) :
    block.rule (id + offset) = .ok (rule.moved offset) := by
  obtain ⟨condition, emit, action, condition', emit', action', rfl⟩ := (RuleSet.rule_eq_ok_iff block id rule).mp read
  exact (RuleSet.rule_eq_ok_iff block _ _).mpr ⟨condition, emit, action, condition', emit', action', rfl⟩

theorem declared_cons (position : Nat) (block : RuleBlock) (blocks : List RuleBlock) (rules : List Rule)
    (accepted : declared position (block :: blocks) = .ok rules) : ∃ rule later,
      block.rule position = .ok rule ∧ declared (position + 1) blocks = .ok later ∧ rules = rule :: later := by
  rw [declared] at accepted
  cases read : block.rule position with
  | error fault => simp [read] at accepted
  | ok rule =>
    cases rest : declared (position + 1) blocks with
    | error cause => simp [read, rest, Except.map] at accepted
    | ok later =>
      simp only [read, rest, Except.map, Except.ok.injEq] at accepted
      exact ⟨rule, later, rfl, rfl, accepted.symm⟩

theorem declared_moved (blocks : List RuleBlock) (position offset : Nat) (rules : List Rule)
    (accepted : declared position blocks = .ok rules) :
    declared (position + offset) blocks = .ok (rules.map (Rule.moved offset)) := by
  induction blocks generalizing position rules with
  | nil =>
    cases accepted
    rfl
  | cons block blocks ih =>
    obtain ⟨rule, later, read, rest, rfl⟩ := declared_cons position block blocks rules accepted
    have moved := ih (position + 1) later rest
    rw [Nat.add_right_comm] at moved
    simp [declared, rule_moved block position offset rule read, moved, Except.map]

theorem declared_append (front back : List RuleBlock) (position : Nat) (left right : List Rule)
    (first : declared position front = .ok left) (second : declared (position + front.length) back = .ok right) :
    declared position (front ++ back) = .ok (left ++ right) := by
  induction front generalizing position left with
  | nil =>
    cases first
    simpa using second
  | cons block front ih =>
    obtain ⟨rule, later, read, rest, rfl⟩ := declared_cons position block front left first
    rw [List.length_cons, Nat.add_comm front.length, ← Nat.add_assoc] at second
    simp [declared, read, ih (position + 1) later rest second, Except.map]

theorem declared_each (blocks : List RuleBlock) (position : Nat) (rules : List Rule)
    (accepted : declared position blocks = .ok rules) :
    rules.length = blocks.length ∧
      ∀ (i : Nat) (block : RuleBlock) (rule : Rule), blocks[i]? = some block → rules[i]? = some rule →
        block.rule (position + i) = .ok rule := by
  induction blocks generalizing position rules with
  | nil =>
    cases accepted
    exact ⟨rfl, fun i block rule found => by simp at found⟩
  | cons first blocks ih =>
    obtain ⟨rule, later, read, rest, rfl⟩ := declared_cons position first blocks rules accepted
    obtain ⟨length, each⟩ := ih (position + 1) later rest
    refine ⟨by simp [length], fun i block other here there => ?_⟩
    cases i with
    | zero =>
      simp only [List.getElem?_cons_zero, Option.some.injEq] at here there
      rw [← here, ← there]
      exact read
    | succ i =>
      rw [Nat.add_comm i, ← Nat.add_assoc]
      exact each i block other (by simpa using here) (by simpa using there)

namespace RuleSet

theorem rules_add_all (rules : List Rule) (s : RuleSet) : (rules.foldl add s).rules = s.rules ++ rules := by
  induction rules generalizing s with
  | nil => simp
  | cons rule rules ih => simp [ih, add]

theorem extend_declared (blocks : List RuleBlock) (s : RuleSet) :
    s.extend blocks = (declared s.size blocks).map fun rules => rules.foldl add s := by
  induction blocks generalizing s with
  | nil => rfl
  | cons block blocks ih =>
    cases read : block.rule s.size with
    | error fault => simp [extend, declared, read, Except.map]
    | ok rule =>
      have size : (s.add rule).size = s.size + 1 := by simp [RuleSet.size, add]
      simp only [extend, declared, read, ih (s.add rule), size]
      cases declared (s.size + 1) blocks with
      | error cause => rfl
      | ok later => rfl

theorem compile_declared (blocks : List RuleBlock) (s : RuleSet) (compiled : compile blocks = .ok s) :
    declared 0 blocks = .ok s.rules := by
  rw [compile, extend_declared] at compiled
  cases accepted : declared empty.size blocks with
  | error cause => simp [accepted, Except.map] at compiled
  | ok rules =>
    simp only [accepted, Except.map, Except.ok.injEq] at compiled
    rw [← compiled, rules_add_all]
    exact accepted

theorem compile_of_declared (blocks : List RuleBlock) (rules : List Rule) (accepted : declared 0 blocks = .ok rules) :
    ∃ s, compile blocks = .ok s ∧ s.rules = rules := by
  refine ⟨rules.foldl add empty, ?_, by rw [rules_add_all]; rfl⟩
  rw [compile, extend_declared]
  change (declared 0 blocks).map _ = _
  rw [accepted]
  rfl

theorem compile_append (front back : List RuleBlock) (left right : RuleSet) (first : compile front = .ok left)
    (second : compile back = .ok right) : ∃ s, compile (front ++ back) = .ok s ∧
      s.rules = left.rules ++ right.rules.map (Rule.moved front.length) := by
  have moved := declared_moved back 0 front.length right.rules (compile_declared back right second)
  exact compile_of_declared _ _ (declared_append front back 0 _ _ (compile_declared front left first) moved)

end RuleSet
end SignalRules
