import SignalRules.Proofs.Engine.Dispatch
import SignalRules.Proofs.Rule.Compilation

set_option autoImplicit false

namespace SignalRules

def Timer.moved (offset : Nat) (timer : Timer) : Timer := { timer with rule := timer.rule + offset }

namespace Engine

def update (e : Engine) (next : String × Value) : Engine := (e.dispatch next.1 next.2).2

def Emitted (before after : Engine) (sent : List Delivery) (scheduled : List Timer) : Prop :=
  after.outlet.sent = before.outlet.sent ++ sent ∧ after.timers = before.timers ++ scheduled

structure Beside (offset : Nat) (left right whole : Engine) : Prop where
  rules : whole.rules.rules = left.rules.rules ++ right.rules.rules.map (Rule.moved offset)
  store : left.store = whole.store ∧ right.store = whole.store
  updates : left.updates = whole.updates ∧ right.updates = whole.updates
  clock : left.clock = whole.clock ∧ right.clock = whole.clock
  pending : whole.pending = left.pending + right.pending

structure UpdatedBeside (offset : Nat) (left right whole : Engine) (signal : String) (value : Value) : Prop where
  evaluated : (whole.dispatch signal value).1.evaluated =
    (left.dispatch signal value).1.evaluated + (right.dispatch signal value).1.evaluated
  undetermined : (whole.dispatch signal value).1.undetermined =
    (left.dispatch signal value).1.undetermined + (right.dispatch signal value).1.undetermined
  fired : (whole.dispatch signal value).1.fired =
    (left.dispatch signal value).1.fired ++ (right.dispatch signal value).1.fired.map (· + offset)
  emitted : ∃ sent sent' scheduled scheduled',
    left.Emitted (left.dispatch signal value).2 sent scheduled ∧
      right.Emitted (right.dispatch signal value).2 sent' scheduled' ∧
      whole.Emitted (whole.dispatch signal value).2 (sent ++ sent') (scheduled ++ scheduled'.map (Timer.moved offset))

end Engine

theorem timer_moved (clock offset : Nat) (rules : List Rule) : (rules.map (Rule.moved offset)).filterMap (Rule.timer? clock) =
    (rules.filterMap (Rule.timer? clock)).map (Timer.moved offset) := by
  rw [List.filterMap_map, List.map_filterMap]
  congr 1
  funext rule
  unfold Rule.timer? Rule.moved Timer.moved
  cases delay : rule.action.delay with
  | none => simp [delay]
  | some wait => simp [delay]

theorem immediate_moved (offset : Nat) (rules : List Rule) :
    (rules.map (Rule.moved offset)).filterMap Rule.immediate? = rules.filterMap Rule.immediate? := by
  rw [List.filterMap_map]
  rfl

theorem ids_moved (offset : Nat) (rules : List Rule) :
    (rules.map (Rule.moved offset)).map Rule.id = (rules.map Rule.id).map (· + offset) := by
  rw [List.map_map, List.map_map]
  rfl

namespace Engine

theorem beside_mentioning (offset : Nat) (left right whole : Engine) (beside : Beside offset left right whole)
    (signal : String) : whole.rules.mentioning signal =
      left.rules.mentioning signal ++ (right.rules.mentioning signal).map (Rule.moved offset) := by
  rw [RuleSet.mentioning, beside.rules, List.filter_append, List.filter_map]
  rfl

theorem beside_firing (offset : Nat) (left right whole : Engine) (beside : Beside offset left right whole)
    (signal : String) (store : Store) : whole.rules.firing signal store =
      left.rules.firing signal store ++ (right.rules.firing signal store).map (Rule.moved offset) := by
  rw [RuleSet.firing, beside_mentioning offset left right whole beside, List.filter_append, List.filter_map]
  rfl

-- What an engine needs for an update to be a scan of its rules and for every signal to be sent.
structure Open (e : Engine) : Prop where
  indexed : e.rules.Indexed
  accepts : ∀ n, e.outlet.refuses n = false

theorem executed_emitted (e : Engine) (signal : String) (value : Value) (opened : e.Open) (store : Store)
    (written : (e.write signal value).store = store) :
    e.Emitted (e.dispatch signal value).2 (((e.rules.firing signal store).filterMap Rule.immediate?).map (⟨e.clock, ·⟩))
      ((e.rules.firing signal store).filterMap (Rule.timer? e.clock)) := by
  have executed := dispatch_executed e signal value opened.indexed
  rw [written] at executed
  constructor
  · rw [executed.outlet]
    exact Outlet.send_all_accepted _ _ _ opened.accepts
  · exact executed.timers

theorem update_open (e : Engine) (signal : String) (value : Value) (opened : e.Open) :
    (e.dispatch signal value).2.Open := by
  have executed := dispatch_executed e signal value opened.indexed
  constructor
  · rw [executed.rules]
    exact opened.indexed
  · rw [executed.outlet, Outlet.send_all_refuses]
    exact opened.accepts

section
variable (offset : Nat) (left right whole : Engine) (signal : String) (value : Value)

theorem write_beside (beside : Beside offset left right whole) :
    (left.write signal value).store = (whole.write signal value).store ∧
      (right.write signal value).store = (whole.write signal value).store := by
  constructor
  · change left.store.insert signal value = whole.store.insert signal value
    rw [beside.store.1]
  · change right.store.insert signal value = whole.store.insert signal value
    rw [beside.store.2]

theorem dispatch_beside (beside : Beside offset left right whole) (openLeft : left.Open) (openRight : right.Open)
    (openWhole : whole.Open) :
    Beside offset (left.dispatch signal value).2 (right.dispatch signal value).2 (whole.dispatch signal value).2 := by
  have executed := dispatch_executed whole signal value openWhole.indexed
  have executedLeft := dispatch_executed left signal value openLeft.indexed
  have executedRight := dispatch_executed right signal value openRight.indexed
  obtain ⟨storeLeft, storeRight⟩ := write_beside offset left right whole signal value beside
  constructor
  · rw [executed.rules, executedLeft.rules, executedRight.rules]
    exact beside.rules
  · rw [executed.store, executedLeft.store, executedRight.store]
    exact ⟨storeLeft, storeRight⟩
  · rw [executed.updates, executedLeft.updates, executedRight.updates]
    exact ⟨congrArg (· + 1) beside.updates.1, congrArg (· + 1) beside.updates.2⟩
  · rw [executed.clock, executedLeft.clock, executedRight.clock]
    exact beside.clock
  · rw [executed.pending, executedLeft.pending, executedRight.pending, storeLeft, storeRight,
      beside_firing offset left right whole beside, List.filterMap_append, timer_moved, List.length_append, List.length_map]
    change whole.pending + ((List.filterMap (Rule.timer? whole.clock) _).length +
        (List.filterMap (Rule.timer? whole.clock) _).length) =
      left.pending + (List.filterMap (Rule.timer? left.clock) _).length +
        (right.pending + (List.filterMap (Rule.timer? right.clock) _).length)
    rw [beside.pending, beside.clock.1, beside.clock.2]
    omega

theorem dispatch_updated_beside (beside : Beside offset left right whole) (openLeft : left.Open) (openRight : right.Open)
    (openWhole : whole.Open) : UpdatedBeside offset left right whole signal value := by
  obtain ⟨storeLeft, storeRight⟩ := write_beside offset left right whole signal value beside
  have mentioning := beside_mentioning offset left right whole beside signal
  have firing := beside_firing offset left right whole beside signal (whole.write signal value).store
  have report := dispatch_report whole signal value openWhole.indexed
  have reportLeft := dispatch_report left signal value openLeft.indexed
  have reportRight := dispatch_report right signal value openRight.indexed
  rw [storeLeft] at reportLeft
  rw [storeRight] at reportRight
  constructor
  · rw [report, reportLeft, reportRight, mentioning, List.length_append, List.length_map]
  · rw [report, reportLeft, reportRight]
    dsimp only
    rw [mentioning, List.filter_append, List.length_append, List.filter_map, List.length_map]
    rfl
  · rw [report, reportLeft, reportRight, firing, List.map_append, ids_moved]
  · refine ⟨_, _, _, _, executed_emitted left signal value openLeft _ storeLeft,
      executed_emitted right signal value openRight _ storeRight, ?_⟩
    have emitted := executed_emitted whole signal value openWhole _ rfl
    rw [firing, List.filterMap_append, List.filterMap_append, immediate_moved, timer_moved, List.map_append] at emitted
    rw [beside.clock.1, beside.clock.2]
    exact emitted

end

theorem updates_beside (offset : Nat) (left right whole : Engine) (updates : List (String × Value))
    (beside : Beside offset left right whole) (openLeft : left.Open) (openRight : right.Open) (openWhole : whole.Open) :
    let left := updates.foldl update left
    let right := updates.foldl update right
    let whole := updates.foldl update whole
    Beside offset left right whole ∧ left.Open ∧ right.Open ∧ whole.Open := by
  induction updates generalizing left right whole with
  | nil => exact ⟨beside, openLeft, openRight, openWhole⟩
  | cons next updates ih =>
    exact ih _ _ _ (dispatch_beside offset left right whole next.1 next.2 beside openLeft openRight openWhole)
      (update_open left next.1 next.2 openLeft) (update_open right next.1 next.2 openRight)
      (update_open whole next.1 next.2 openWhole)

end Engine

theorem rules_are_independent (xs ys : List RuleBlock) (left right : RuleSet) (first : RuleSet.compile xs = .ok left)
    (second : RuleSet.compile ys = .ok right) : ∃ whole, RuleSet.compile (xs ++ ys) = .ok whole ∧
      ∀ (store : Store) (outlet : Outlet), (∀ n, outlet.refuses n = false) → ∀ updates : List (String × Value),
        let after (rules : RuleSet) := updates.foldl Engine.update (Engine.start rules store outlet)
        Engine.Beside xs.length (after left) (after right) (after whole) ∧
          ∀ signal value, Engine.UpdatedBeside xs.length (after left) (after right) (after whole) signal value := by
  obtain ⟨whole, compiled, rules⟩ := RuleSet.compile_append xs ys left right first second
  refine ⟨whole, compiled, fun store outlet accepts updates => ?_⟩
  have opened (blocks : List RuleBlock) (s : RuleSet) (ok : RuleSet.compile blocks = .ok s) :
      (Engine.start s store outlet).Open := ⟨RuleSet.compile_indexed blocks s ok, accepts⟩
  have beside : Engine.Beside xs.length (Engine.start left store outlet) (Engine.start right store outlet)
      (Engine.start whole store outlet) := ⟨rules, ⟨rfl, rfl⟩, ⟨rfl, rfl⟩, ⟨rfl, rfl⟩, rfl⟩
  obtain ⟨beside, openLeft, openRight, openWhole⟩ := Engine.updates_beside xs.length _ _ _ updates beside
    (opened xs left first) (opened ys right second) (opened (xs ++ ys) whole compiled)
  exact ⟨beside, fun signal value =>
    Engine.dispatch_updated_beside xs.length _ _ _ signal value beside openLeft openRight openWhole⟩

-- The same rules twice: each alarm schedules two sirens, and the door is seen by the first and the third rule.
theorem rules_are_independent_doors :
    RuleSet.compile doorBlocks = .ok doorRules ∧ ∃ whole, RuleSet.compile (doorBlocks ++ doorBlocks) = .ok whole ∧
      let e := (Engine.start whole NameMap.empty ⟨"memory", fun _ => false, fun _ => "", 0, []⟩).update ("alarm", .bool true)
      e.pending = 2 ∧ (e.dispatch "door" (.bool true)).1.fired = [0, 2] := by
  obtain ⟨whole, compiled, beside⟩ :=
    rules_are_independent doorBlocks doorBlocks doorRules doorRules compile_door compile_door
  obtain ⟨state, step⟩ :=
    beside NameMap.empty ⟨"memory", fun _ => false, fun _ => "", 0, []⟩ (fun _ => rfl) [("alarm", .bool true)]
  exact ⟨compile_door, whole, compiled, state.pending.trans rfl, (step "door" (.bool true)).fired.trans rfl⟩

end SignalRules
