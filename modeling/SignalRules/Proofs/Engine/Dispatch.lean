import SignalRules.Engine.Basic
import SignalRules.Proofs.Condition.RoundTrip
import SignalRules.Proofs.Rule.Index

set_option autoImplicit false

namespace SignalRules

namespace Rule

def Holds (rule : Rule) (store : Store) : Prop := rule.condition.evaluate store = .ok true
def Undecided (rule : Rule) (store : Store) : Prop := ∃ cause, rule.condition.evaluate store = .error cause

instance (rule : Rule) (store : Store) : Decidable (rule.Holds store) :=
  match verdict : rule.condition.evaluate store with
  | .ok true => isTrue verdict
  | .ok false => isFalse (by simp [Holds, verdict])
  | .error _ => isFalse (by simp [Holds, verdict])

instance (rule : Rule) (store : Store) : Decidable (rule.Undecided store) :=
  match verdict : rule.condition.evaluate store with
  | .ok _ => isFalse (by simp [Undecided, verdict])
  | .error cause => isTrue ⟨cause, verdict⟩

def immediate? (rule : Rule) : Option Signal :=
  match rule.action.delay with
  | none => some rule.action.outbound
  | some _ => none

def timer? (clock : Nat) (rule : Rule) : Option Timer :=
  rule.action.delay.map fun delay => ⟨clock + delay, rule.id, rule.action.outbound⟩

end Rule

namespace Outlet

def sendAll (o : Outlet) (time : Nat) (signals : List Signal) : Outlet :=
  signals.foldl (fun o signal => (o.send time signal).2) o

theorem send_all_append (o : Outlet) (time : Nat) (front back : List Signal) :
    o.sendAll time (front ++ back) = (o.sendAll time front).sendAll time back :=
  List.foldl_append

theorem send_attempts (o : Outlet) (time : Nat) (signal : Signal) : (o.send time signal).2.attempts = o.attempts + 1 := by
  unfold send
  by_cases refused : o.refuses o.attempts = true
  · simp [refused]
  · simp [refused]

theorem send_refuses (o : Outlet) (time : Nat) (signal : Signal) : (o.send time signal).2.refuses = o.refuses := by
  unfold send
  by_cases refused : o.refuses o.attempts = true
  · simp [refused]
  · simp [refused]

theorem send_all_refuses (o : Outlet) (time : Nat) (signals : List Signal) : (o.sendAll time signals).refuses = o.refuses := by
  induction signals generalizing o with
  | nil => rfl
  | cons signal signals ih => exact (ih (o.send time signal).2).trans (send_refuses o time signal)

theorem send_all_attempts (o : Outlet) (time : Nat) (signals : List Signal) :
    (o.sendAll time signals).attempts = o.attempts + signals.length := by
  induction signals generalizing o with
  | nil => rfl
  | cons signal signals ih =>
    have rest := ih (o.send time signal).2
    rw [send_attempts] at rest
    change ((o.send time signal).2.sendAll time signals).attempts = _
    rw [rest, List.length_cons, Nat.add_assoc, Nat.add_comm 1]

theorem send_all_accepted (o : Outlet) (time : Nat) (signals : List Signal) (accepts : ∀ n, o.refuses n = false) :
    (o.sendAll time signals).sent = o.sent ++ signals.map (⟨time, ·⟩) := by
  induction signals generalizing o with
  | nil => simp [sendAll]
  | cons signal signals ih =>
    have sent : (o.send time signal).2 = { o with attempts := o.attempts + 1, sent := o.sent ++ [⟨time, signal⟩] } := by
      simp [send, accepts]
    rw [sendAll, List.foldl_cons, sent]
    simpa [sendAll] using ih { o with attempts := o.attempts + 1, sent := o.sent ++ [⟨time, signal⟩] } accepts

end Outlet

theorem report_add (r : Report) (rule : Rule) (store : Store) : r.add rule store =
    ⟨r.signal, r.evaluated + 1, r.fired ++ ([rule].filter (·.Holds store)).map Rule.id,
      r.undetermined + ([rule].filter (·.Undecided store)).length⟩ := by
  unfold Report.add
  cases verdict : rule.condition.evaluate store with
  | error cause => simp [Rule.Holds, Rule.Undecided, verdict]
  | ok holds =>
    cases holds with
    | true => simp [Rule.Holds, Rule.Undecided, verdict]
    | false => simp [Rule.Holds, Rule.Undecided, verdict]

theorem report_add_all (rules : List Rule) (r : Report) (store : Store) :
    rules.foldl (fun r rule => r.add rule store) r =
      ⟨r.signal, r.evaluated + rules.length, r.fired ++ (rules.filter (·.Holds store)).map Rule.id,
        r.undetermined + (rules.filter (·.Undecided store)).length⟩ := by
  induction rules generalizing r with
  | nil => simp
  | cons rule rules ih =>
    rw [List.foldl_cons, ih, report_add]
    have holds := List.filter_append (p := fun rule => decide (rule.Holds store)) [rule] rules
    have undecided := List.filter_append (p := fun rule => decide (rule.Undecided store)) [rule] rules
    rw [List.singleton_append] at holds undecided
    dsimp only
    rw [holds, undecided, List.map_append, List.length_append, List.length_cons, List.append_assoc, Report.mk.injEq]
    exact ⟨rfl, by omega, rfl, by omega⟩

namespace Engine

structure Executed (before : Engine) (fired : List Rule) (after : Engine) : Prop where
  rules : after.rules = before.rules
  store : after.store = before.store
  updates : after.updates = before.updates
  clock : after.clock = before.clock
  outlet : after.outlet = before.outlet.sendAll before.clock (fired.filterMap Rule.immediate?)
  timers : after.timers = before.timers ++ fired.filterMap (Rule.timer? before.clock)
  pending : after.pending = before.pending + (fired.filterMap (Rule.timer? before.clock)).length

theorem nothing_executed (e : Engine) : e.Executed [] e :=
  ⟨rfl, rfl, rfl, rfl, rfl, (List.append_nil _).symm, rfl⟩

theorem note_executed (e : Engine) (notes : List Log.Entry) : e.Executed [] (e.note notes) :=
  ⟨rfl, rfl, rfl, rfl, rfl, (List.append_nil _).symm, rfl⟩

theorem executed_trans (a b c : Engine) (front back : List Rule) (first : a.Executed front b) (second : b.Executed back c) :
    a.Executed (front ++ back) c := by
  constructor
  · exact second.rules.trans first.rules
  · exact second.store.trans first.store
  · exact second.updates.trans first.updates
  · exact second.clock.trans first.clock
  · rw [second.outlet, first.outlet, first.clock, List.filterMap_append, Outlet.send_all_append]
  · rw [second.timers, first.timers, first.clock, List.filterMap_append, List.append_assoc]
  · rw [second.pending, first.pending, first.clock, List.filterMap_append, List.length_append, Nat.add_assoc]

theorem emit_fields (e : Engine) (rule : Nat) (signal : Signal) : ∃ notes,
    e.emit rule signal = { e with outlet := (e.outlet.send e.clock signal).2, log := e.log ++ notes } := by
  unfold emit
  rcases attempt : e.outlet.send e.clock signal with ⟨answer, outlet⟩
  cases answer with
  | ok _ => exact ⟨_, rfl⟩
  | error cause => exact ⟨_, rfl⟩

theorem close_fields (e : Engine) : ∃ notes,
    e.close = { e with outlet := (e.outlet.send e.clock .close).2, log := e.log ++ notes } := by
  unfold close
  rcases attempt : e.outlet.send e.clock .close with ⟨answer, outlet⟩
  cases answer with
  | ok _ => exact ⟨[], by rw [List.append_nil]⟩
  | error cause => exact ⟨_, rfl⟩

theorem execute_executed (e : Engine) (rule : Rule) : e.Executed [rule] (e.execute rule.id rule.action) := by
  unfold execute
  cases delay : rule.action.delay with
  | none =>
    obtain ⟨notes, emitted⟩ := emit_fields e rule.id rule.action.outbound
    dsimp only
    rw [emitted]
    refine ⟨rfl, rfl, rfl, rfl, ?_, ?_, ?_⟩
    · simp [Rule.immediate?, delay, Outlet.sendAll]
    · simp [Rule.timer?, delay]
    · simp [Rule.timer?, delay]
  | some wait =>
    refine ⟨rfl, rfl, rfl, rfl, ?_, ?_, ?_⟩
    · simp [Rule.immediate?, delay, Outlet.sendAll, note]
    · simp [Rule.timer?, delay, note]
    · simp [Rule.timer?, delay, note]

theorem consider_executed (e : Engine) (rule : Rule) :
    e.Executed ([rule].filter (·.Holds e.store)) (e.consider rule) := by
  unfold consider
  cases verdict : rule.condition.evaluate e.store with
  | error cause => simpa [Rule.Holds, verdict] using note_executed e _
  | ok holds =>
    cases holds with
    | false => simpa [Rule.Holds, verdict] using note_executed e _
    | true =>
      have noted := note_executed e (rule.condition.settled e.store ++ [verdictNote rule (.ok true)])
      have executed := executed_trans e _ _ [] [rule] noted (execute_executed _ rule)
      simpa [Rule.Holds, verdict] using executed

theorem consider_all_executed (rules : List Rule) (e : Engine) :
    e.Executed (rules.filter (·.Holds e.store)) (rules.foldl consider e) := by
  induction rules generalizing e with
  | nil => exact nothing_executed e
  | cons rule rules ih =>
    have first := consider_executed e rule
    have rest := ih (e.consider rule)
    rw [first.store] at rest
    have whole := executed_trans e _ _ _ _ first rest
    rwa [← List.filter_append] at whole

end Engine

namespace RuleSet

def mentioning (s : RuleSet) (signal : String) : List Rule := s.rules.filter (·.Mentions signal)
def firing (s : RuleSet) (signal : String) (store : Store) : List Rule := (s.mentioning signal).filter (·.Holds store)

end RuleSet

-- The outcome of an update by a scan of all rules on the store that it leaves.
structure FullScan (before : Engine) (signal : String) (value : Value) (report : Report) (after : Engine) : Prop where
  rules : after.rules = before.rules
  clock : after.clock = before.clock
  written : ∀ name, after.store.get? name = if name = signal then some value else before.store.get? name
  updates : after.updates = before.updates + 1
  subject : report.signal = signal
  evaluated : report.evaluated = (before.rules.mentioning signal).length
  fired : report.fired = (before.rules.firing signal after.store).map Rule.id
  ascending : report.fired.Pairwise (· < ·)
  undetermined : report.undetermined = ((before.rules.mentioning signal).filter (·.Undecided after.store)).length
  sent : after.outlet =
    before.outlet.sendAll before.clock ((before.rules.firing signal after.store).filterMap Rule.immediate?)
  attempts : after.outlet.attempts =
    before.outlet.attempts + ((before.rules.firing signal after.store).filterMap Rule.immediate?).length
  accepted : (∀ n, before.outlet.refuses n = false) → after.outlet.sent = before.outlet.sent ++
    ((before.rules.firing signal after.store).filterMap Rule.immediate?).map (⟨before.clock, ·⟩)
  scheduled : after.timers = before.timers ++ (before.rules.firing signal after.store).filterMap (Rule.timer? before.clock)

theorem dispatch_report (e : Engine) (signal : String) (value : Value) (indexed : e.rules.Indexed) :
    (e.dispatch signal value).1 =
      ⟨signal, (e.rules.mentioning signal).length, (e.rules.firing signal (e.write signal value).store).map Rule.id,
        ((e.rules.mentioning signal).filter (·.Undecided (e.write signal value).store)).length⟩ := by
  change (e.rules.dependents signal).foldl (fun (r : Report) rule => r.add rule (e.write signal value).store)
    (Report.empty signal) = _
  rw [RuleSet.dependents_eq e.rules indexed, report_add_all, Report.mk.injEq]
  exact ⟨rfl, Nat.zero_add _, rfl, Nat.zero_add _⟩

theorem dispatch_executed (e : Engine) (signal : String) (value : Value) (indexed : e.rules.Indexed) :
    (e.write signal value).Executed (e.rules.firing signal (e.write signal value).store) (e.dispatch signal value).2 := by
  have considered := Engine.consider_all_executed (e.rules.dependents signal) (e.write signal value)
  have noted := Engine.executed_trans _ _ _ _ [] considered (Engine.note_executed _ (e.dispatch signal value).1.notes)
  rw [List.append_nil] at noted
  rw [RuleSet.firing, RuleSet.mentioning, ← RuleSet.dependents_eq e.rules indexed]
  exact noted

theorem dispatch_of_indexed (e : Engine) (signal : String) (value : Value) (indexed : e.rules.Indexed) :
    FullScan e signal value (e.dispatch signal value).1 (e.dispatch signal value).2 := by
  have report := dispatch_report e signal value indexed
  have executed := dispatch_executed e signal value indexed
  have store := executed.store
  constructor
  · exact executed.rules
  · exact executed.clock
  · intro name
    rw [store]
    exact NameMap.get?_insert e.store signal name value
  · exact executed.updates
  · rw [report]
  · rw [report]
  · rw [report, store]
  · rw [report, RuleSet.firing, RuleSet.mentioning, List.filter_filter]
    exact RuleSet.ids_ascending e.rules indexed _
  · rw [report, store]
  · rw [store]
    exact executed.outlet
  · rw [store, executed.outlet]
    exact Outlet.send_all_attempts _ _ _
  · intro accepts
    rw [store, executed.outlet]
    exact Outlet.send_all_accepted _ _ _ accepts
  · rw [store]
    exact executed.timers

-- The second rule reads what the first one emits and still waits for an update of its own.
def doorBlocks : List RuleBlock :=
  [⟨some (.text "door"), some ⟨some "alarm", some (.bool true), none, []⟩, []⟩,
    ⟨some (.text "alarm"), some ⟨some "siren", some (.bool true), some (.integer 5), []⟩, []⟩]

def doorRules : RuleSet :=
  (RuleSet.empty.add ⟨0, .signal "door", ⟨"alarm", .bool true, none⟩⟩).add
    ⟨1, .signal "alarm", ⟨"siren", .bool true, some 5⟩⟩

theorem compile_door : RuleSet.compile doorBlocks = .ok doorRules := by
  have door := parse_name "door" (name_of_word 'd' "oor".toList "door" rfl rfl rfl)
  have alarm := parse_name "alarm" (name_of_word 'a' "larm".toList "alarm" rfl rfl rfl)
  simp only [doorBlocks, RuleSet.compile, RuleSet.extend, RuleBlock.rule, RuleBlock.readCondition,
    Yaml.Datum.scalarText?, Yaml.Datum.untagged, door, alarm]
  rfl

theorem dispatch_is_full_scan (blocks : List RuleBlock) (e : Engine) (signal : String) (value : Value)
    (compiled : RuleSet.compile blocks = .ok e.rules) :
    FullScan e signal value (e.dispatch signal value).1 (e.dispatch signal value).2 :=
  dispatch_of_indexed e signal value (RuleSet.compile_indexed blocks e.rules compiled)

theorem dispatch_is_full_scan_door :
    let e := Engine.start doorRules NameMap.empty ⟨"memory", fun _ => false, fun _ => "", 0, []⟩
    RuleSet.compile doorBlocks = .ok e.rules ∧
      FullScan e "door" (.bool true) (e.dispatch "door" (.bool true)).1 (e.dispatch "door" (.bool true)).2 ∧
      (e.dispatch "door" (.bool true)).1 = ⟨"door", 1, [0], 0⟩ :=
  ⟨compile_door, dispatch_is_full_scan doorBlocks _ "door" (.bool true) compile_door, rfl⟩

end SignalRules
