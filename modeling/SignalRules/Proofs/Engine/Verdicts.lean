import SignalRules.Proofs.Condition.Frame
import SignalRules.Proofs.Engine.Dispatch

set_option autoImplicit false

namespace SignalRules

abbrev Verdict := Except Undetermined Bool

def RuleSet.verdicts (s : RuleSet) (store : Store) : List Verdict := s.rules.map (·.condition.evaluate store)

structure Ledger where
  engine : Engine
  kept : List Verdict

namespace Ledger

def start (e : Engine) : Ledger := ⟨e, e.rules.verdicts e.store⟩

def consider (l : Ledger) (rule : Rule) : Ledger :=
  ⟨l.engine.consider rule, l.kept.set rule.id (rule.condition.evaluate l.engine.store)⟩

def dispatch (l : Ledger) (signal : String) (value : Value) : Ledger :=
  let considered := (l.engine.rules.dependents signal).foldl consider ⟨l.engine.write signal value, l.kept⟩
  ⟨considered.engine.note (l.engine.dispatch signal value).1.notes, considered.kept⟩

def run (l : Ledger) (updates : List (String × Value)) : Ledger := updates.foldl (fun l update => l.dispatch update.1 update.2) l

theorem consider_all_engine (rules : List Rule) (l : Ledger) : (rules.foldl consider l).engine = rules.foldl Engine.consider l.engine := by
  induction rules generalizing l with
  | nil => rfl
  | cons rule rules ih => exact ih (l.consider rule)

theorem dispatch_engine (l : Ledger) (signal : String) (value : Value) :
    (l.dispatch signal value).engine = (l.engine.dispatch signal value).2 := by
  simp only [dispatch, consider_all_engine]
  rfl

theorem run_engine (l : Ledger) (updates : List (String × Value)) :
    (l.run updates).engine = updates.foldl (fun e update => (e.dispatch update.1 update.2).2) l.engine := by
  induction updates generalizing l with
  | nil => rfl
  | cons update updates ih =>
    have rest := ih (l.dispatch update.1 update.2)
    rw [dispatch_engine] at rest
    exact rest

-- The verdicts to reach may differ only where a rule is still to be considered; none of them is considered on
-- another store, since considering a rule leaves the store alone.
theorem consider_all_kept (target : List Verdict) (rules : List Rule) (l : Ledger) (length : l.kept.length = target.length)
    (reached : ∀ rule ∈ rules, target[rule.id]? = some (rule.condition.evaluate l.engine.store))
    (settled : ∀ i, i ∉ rules.map Rule.id → l.kept[i]? = target[i]?) : (rules.foldl consider l).kept = target := by
  induction rules generalizing l with
  | nil => exact List.ext_getElem? fun i => settled i (by simp)
  | cons rule rules ih =>
    have store := (Engine.consider_executed l.engine rule).store
    apply ih (l.consider rule)
    · rw [consider, List.length_set, length]
    · intro other member
      rw [consider, store]
      exact reached other (List.mem_cons_of_mem rule member)
    · intro i outside
      have here := reached rule List.mem_cons_self
      rw [consider, List.getElem?_set]
      by_cases same : rule.id = i
      · subst same
        have bound : rule.id < l.kept.length := by
          rw [length]
          exact (List.getElem?_eq_some_iff.mp here).1
        simp [bound, here]
      · rw [if_neg same]
        refine settled i fun member => ?_
        rcases List.mem_cons.mp member with head | tail
        · exact same head.symm
        · exact outside tail

end Ledger

theorem verdict_unmentioned (rule : Rule) (store : Store) (signal : String) (value : Value)
    (unmentioned : ¬rule.Mentions signal) :
    rule.condition.evaluate (store.insert signal value) = rule.condition.evaluate store := by
  rw [mentions_iff] at unmentioned
  exact Condition.evaluate_agree _ _ _ (agree_insert _ store signal value unmentioned)

namespace Ledger

structure Current (l : Ledger) (rules : RuleSet) : Prop where
  unchanged : l.engine.rules = rules
  kept : l.kept = rules.verdicts l.engine.store

theorem start_current (e : Engine) : (start e).Current e.rules :=
  ⟨rfl, rfl⟩

theorem dispatch_current (l : Ledger) (rules : RuleSet) (signal : String) (value : Value) (indexed : rules.Indexed)
    (current : l.Current rules) : (l.dispatch signal value).Current rules := by
  obtain ⟨rfl, kept⟩ := current
  have executed := dispatch_executed l.engine signal value indexed
  have store : (l.dispatch signal value).engine.store = l.engine.store.insert signal value := by
    rw [dispatch_engine, executed.store]
    rfl
  constructor
  · rw [dispatch_engine, executed.rules]
    rfl
  · rw [store]
    apply consider_all_kept
    · rw [kept]
      simp [RuleSet.verdicts]
    · intro rule member
      have found := RuleSet.get_id _ indexed rule ((RuleSet.mem_dependents _ indexed rule signal).mp member).1
      rw [RuleSet.get?] at found
      rw [RuleSet.verdicts, List.getElem?_map, found]
      rfl
    · intro i outside
      change l.kept[i]? = _
      rw [kept, RuleSet.verdicts, RuleSet.verdicts, List.getElem?_map, List.getElem?_map]
      cases found : l.engine.rules.rules[i]? with
      | none => rfl
      | some rule =>
        have unmentioned : ¬rule.Mentions signal := by
          intro mentions
          have inside := (RuleSet.mem_dependents _ indexed rule signal).mpr ⟨List.mem_of_getElem? found, mentions⟩
          exact outside (List.mem_map.mpr ⟨rule, inside, indexed.positions i rule found⟩)
        rw [Option.map_some, Option.map_some, verdict_unmentioned rule _ signal value unmentioned]

theorem run_current (l : Ledger) (rules : RuleSet) (updates : List (String × Value)) (indexed : rules.Indexed)
    (current : l.Current rules) : (l.run updates).Current rules := by
  induction updates generalizing l with
  | nil => exact current
  | cons update updates ih => exact ih _ (dispatch_current l rules update.1 update.2 indexed current)

end Ledger

theorem verdict_changed (e : Engine) (signal : String) (value : Value) (indexed : e.rules.Indexed) (rule : Rule)
    (member : rule ∈ e.rules.rules)
    (changed : rule.condition.evaluate (e.dispatch signal value).2.store ≠ rule.condition.evaluate e.store) :
    rule ∈ e.rules.dependents signal := by
  refine (RuleSet.mem_dependents e.rules indexed rule signal).mpr ⟨member, ?_⟩
  refine Decidable.byContradiction fun unmentioned => changed ?_
  rw [(dispatch_executed e signal value indexed).store]
  exact verdict_unmentioned rule e.store signal value unmentioned

theorem kept_verdicts_are_current (blocks : List RuleBlock) (e : Engine) (updates : List (String × Value))
    (compiled : RuleSet.compile blocks = .ok e.rules) :
    let l := (Ledger.start e).run updates
    l.engine = updates.foldl (fun e update => (e.dispatch update.1 update.2).2) e ∧
      l.kept = e.rules.verdicts l.engine.store ∧
      ∀ signal value, ∀ rule ∈ e.rules.rules,
        rule.condition.evaluate (l.engine.dispatch signal value).2.store ≠ rule.condition.evaluate l.engine.store →
          rule ∈ e.rules.dependents signal := by
  intro l
  have indexed := RuleSet.compile_indexed blocks e.rules compiled
  have current := Ledger.run_current (Ledger.start e) e.rules updates indexed (Ledger.start_current e)
  refine ⟨Ledger.run_engine (Ledger.start e) updates, current.kept, ?_⟩
  intro signal value rule member changed
  rw [← current.unchanged] at indexed member ⊢
  exact verdict_changed l.engine signal value indexed rule member changed

theorem kept_verdicts_are_current_door :
    let e := Engine.start doorRules NameMap.empty ⟨"memory", fun _ => false, fun _ => "", 0, []⟩
    RuleSet.compile doorBlocks = .ok e.rules ∧
      ((Ledger.start e).run [("door", .bool false), ("door", .bool true)]).kept = [.ok true, .error (.missing "alarm")] := by
  intro e
  have current := kept_verdicts_are_current doorBlocks e [("door", .bool false), ("door", .bool true)] compile_door
  exact ⟨compile_door, current.2.1.trans rfl⟩

end SignalRules
