import SignalRules.Proofs.Engine.History

set_option autoImplicit false

namespace SignalRules

-- What can be done in a session. A run starts anew and is resumed with whatever the inlet holds by then.
inductive Act (σ : Type) where
  | dispatch (signal : String) (value : Value)
  | handle (message : Inbound)
  | execute (rule : Nat) (action : Action)
  | run (inlet : σ)
  | resume (inlet : σ)
  | close
  | refuse (refuses : Nat → Bool)
  | advance (ms : Nat)

namespace Engine

def act {σ : Type} [Inlet σ] (e : Engine) : Act σ → Engine
  | .dispatch signal value => (e.dispatch signal value).2
  | .handle message => (e.handle message).2
  | .execute rule action => e.execute rule action
  | .run inlet => (e.run inlet).engine
  | .resume inlet => (e.resume inlet).engine
  | .close => e.close
  | .refuse refuses => { e with outlet := { e.outlet with refuses } }
  | .advance ms => e.advance ms

def dueBy (e : Engine) (time : Nat) : List Timer :=
  (e.timers.filter (·.due ≤ time)).mergeSort fun a b => a.due ≤ b.due

def advanceHistory (e : Engine) (ms : Nat) : History := historyAlong fire fireHistory e (e.dueBy (e.clock + ms))

def actHistory {σ : Type} [Inlet σ] (e : Engine) : Act σ → History
  | .dispatch signal value => e.dispatchHistory signal value
  | .handle message => e.handleHistory message
  | .execute rule action => e.executeHistory rule action
  | .run inlet => (e.note [e.startNote]).resumeHistory inlet
  | .resume inlet => e.resumeHistory inlet
  | .close => [e.attempt none .close]
  | .refuse _ => []
  | .advance ms => e.advanceHistory ms

def history {σ : Type} [Inlet σ] (e : Engine) (acts : List (Act σ)) : History := historyAlong act actHistory e acts

structure OnTime (start : Engine) (history : History) (e : Engine) : Prop where
  once : history.scheduled.Perm (history.fired ++ e.timers)
  punctual : ∀ a ∈ history.attempts, ∀ t, a.timer = some t → a.time = t.due ∧ a.signal = t.signal
  early : ∀ t : Timer, e.clock < t.due → t ∉ history.fired
  late : ∀ t : Timer, t.due < e.clock → history.fired.count t = history.scheduled.count t
  ordered : history.attempts.Pairwise fun a b => a.time ≤ b.time
  pending : e.pending + history.fired.length = history.scheduled.length
  attempts : e.outlet.attempts = start.outlet.attempts + history.attempts.length
  sent : e.outlet.sent = start.outlet.sent ++ history.attempts.filterMap Attempt.delivery?

structure Advanced (e : Engine) (ms : Nat) : Prop where
  clock : (e.advance ms).clock = e.clock + ms
  fired : (e.advanceHistory ms).fired.Perm (e.timers.filter (·.due ≤ e.clock + ms))
  ordered : (e.advanceHistory ms).fired.Pairwise fun a b => a.due ≤ b.due
  waiting : (e.advance ms).timers.Perm (e.timers.filter (e.clock + ms < ·.due))
  unwritten : (e.advance ms).store = e.store ∧ (e.advance ms).updates = e.updates
  apart : ∀ (store : Store) (updates : Nat),
    ({ e with store := store, updates := updates } : Engine).advance ms =
      { e.advance ms with store := store, updates := updates }

theorem fire_fields (e : Engine) (timer : Timer) : ∃ notes, e.fire timer =
    { e with
      outlet := (e.outlet.send timer.due timer.signal).2, clock := timer.due, timers := e.timers.erase timer,
      pending := e.pending - 1, log := e.log ++ notes } := by
  obtain ⟨notes, emitted⟩ := emit_fields { e with clock := timer.due, timers := e.timers.erase timer } timer.rule timer.signal
  refine ⟨notes, ?_⟩
  unfold fire
  rw [emitted]

theorem fire_happened (e : Engine) (timer : Timer) (ready : e.Ready) (waits : timer ∈ e.timers) :
    e.Happened (e.fireHistory timer) (e.fire timer) := by
  have ahead := ready.ahead timer waits
  have counted := ready.counted
  have positive := List.length_pos_of_mem waits
  obtain ⟨notes, fired⟩ := fire_fields e timer
  rw [fired]
  constructor
  · exact ahead
  · exact Outlet.send_attempts _ _ _
  · exact attempt_delivered { e with clock := timer.due } (some timer) timer.signal
  · simpa [fireHistory, attempt] using List.perm_cons_erase waits
  · simp only [fireHistory, attempt, History.fired_attempted, History.scheduled_attempted]
    simp
    omega
  · simpa [fireHistory, attempt] using ahead
  · exact List.pairwise_singleton _ _
  · simp [fireHistory, attempt]

theorem fire_ready (e : Engine) (timer : Timer) (ready : e.Ready) (waits : timer ∈ e.timers)
    (earliest : ∀ t ∈ e.timers, timer.due ≤ t.due) : (e.fire timer).Ready := by
  have counted := ready.counted
  obtain ⟨notes, fired⟩ := fire_fields e timer
  rw [fired]
  constructor
  · intro t member
    exact earliest t (List.mem_of_mem_erase member)
  · rw [List.length_erase_of_mem waits, counted]

theorem fire_history (timers : List Timer) (e : Engine) : (historyAlong fire fireHistory e timers).fired = timers ∧
    (historyAlong fire fireHistory e timers).scheduled = [] := by
  induction timers generalizing e with
  | nil => exact ⟨rfl, rfl⟩
  | cons timer timers ih =>
    obtain ⟨fired, scheduled⟩ := ih (e.fire timer)
    constructor
    · simp [historyAlong, fireHistory, attempt, fired]
    · simp [historyAlong, fireHistory, attempt, scheduled]

theorem fire_all_clock (timers : List Timer) (e : Engine) (time : Nat) (start : e.clock ≤ time)
    (due : ∀ t ∈ timers, t.due ≤ time) : (timers.foldl fire e).clock ≤ time := by
  induction timers generalizing e with
  | nil => exact start
  | cons timer timers ih =>
    obtain ⟨notes, fired⟩ := fire_fields e timer
    apply ih (e.fire timer)
    · rw [fired]
      exact due timer List.mem_cons_self
    · exact fun t member => due t (List.mem_cons_of_mem timer member)

-- The timers to fire are in the order of their due times and before all others, so that each one is the earliest of
-- those that are left when its turn comes.
theorem fire_all_does (timers later : List Timer) (e : Engine) (split : e.timers.Perm (timers ++ later))
    (sorted : timers.Pairwise fun a b => a.due ≤ b.due) (before : ∀ t ∈ timers, ∀ l ∈ later, t.due ≤ l.due) :
    e.Does (historyAlong fire fireHistory e timers) (timers.foldl fire e) := by
  induction timers generalizing e with
  | nil => exact does_nothing e e rfl rfl rfl rfl rfl
  | cons timer timers ih =>
    have waits : timer ∈ e.timers := split.mem_iff.mpr List.mem_cons_self
    obtain ⟨first, sorted⟩ := List.pairwise_cons.mp sorted
    have earliest : ∀ t ∈ e.timers, timer.due ≤ t.due := by
      intro t member
      rcases List.mem_cons.mp (split.mem_iff.mp member) with rfl | member
      · exact Nat.le_refl _
      · rcases List.mem_append.mp member with member | member
        · exact first t member
        · exact before timer List.mem_cons_self t member
    have rest : (e.fire timer).timers.Perm (timers ++ later) := by
      obtain ⟨notes, fired⟩ := fire_fields e timer
      rw [fired]
      have erased := split.erase timer
      rwa [List.cons_append, List.erase_cons_head] at erased
    apply does_trans e (e.fire timer)
    · intro ready
      exact ⟨fire_happened e timer ready waits, fire_ready e timer ready waits earliest⟩
    · exact ih (e.fire timer) rest sorted fun t member => before t (List.mem_cons_of_mem timer member)

theorem due_sorted (e : Engine) (time : Nat) : (e.dueBy time).Pairwise fun a b => a.due ≤ b.due := by
  have transitive : ∀ a b c : Timer,
      decide (a.due ≤ b.due) = true → decide (b.due ≤ c.due) = true → decide (a.due ≤ c.due) = true := by
    intro a b c first second
    exact decide_eq_true (Nat.le_trans (of_decide_eq_true first) (of_decide_eq_true second))
  have total : ∀ a b : Timer, (decide (a.due ≤ b.due) || decide (b.due ≤ a.due)) = true := by
    intro a b
    simpa using Nat.le_total a.due b.due
  exact (List.pairwise_mergeSort transitive total (e.timers.filter (·.due ≤ time))).imp of_decide_eq_true

theorem mem_due (e : Engine) (time : Nat) (t : Timer) : t ∈ e.dueBy time ↔ t ∈ e.timers ∧ t.due ≤ time := by
  rw [dueBy, List.mem_mergeSort, List.mem_filter, decide_eq_true_iff]

theorem due_split (e : Engine) (time : Nat) : e.timers.Perm (e.dueBy time ++ e.timers.filter (time < ·.due)) := by
  have parts := List.filter_append_perm (fun t : Timer => decide (t.due ≤ time)) e.timers
  have after : (fun t : Timer => !decide (t.due ≤ time)) = fun t => decide (time < t.due) := by
    funext t
    rw [← decide_not]
    simp
  rw [after] at parts
  exact parts.symm.trans ((List.mergeSort_perm _ _).symm.append_right _)

theorem wait_does (e : Engine) (time : Nat) (later : e.clock ≤ time) (ahead : ∀ t ∈ e.timers, time ≤ t.due) :
    e.Does [] { e with clock := time } := by
  intro ready
  refine ⟨⟨later, rfl, ?_, ?_, rfl, ?_, .nil, ?_⟩, ⟨ahead, ready.counted⟩⟩
  · simp
  · simp
  · simp
  · simp

theorem fired_due_does (e : Engine) (time : Nat) :
    e.Does (historyAlong fire fireHistory e (e.dueBy time)) ((e.dueBy time).foldl fire e) := by
  refine fire_all_does _ (e.timers.filter (time < ·.due)) e (due_split e time) (due_sorted e time) ?_
  intro t member l member'
  have due := ((mem_due e time t).mp member).2
  have later := of_decide_eq_true (List.mem_filter.mp member').2
  omega

theorem fired_due_timers (e : Engine) (time : Nat) (ready : e.Ready) :
    ((e.dueBy time).foldl fire e).timers.Perm (e.timers.filter (time < ·.due)) := by
  have happened := (fired_due_does e time ready).1.timers
  obtain ⟨fired, scheduled⟩ := fire_history (e.dueBy time) e
  rw [fired, scheduled, List.append_nil] at happened
  exact (List.perm_append_left_iff _).mp (happened.symm.trans (due_split e time))

theorem advance_does (e : Engine) (ms : Nat) : e.Does (e.advanceHistory ms) (e.advance ms) := by
  intro ready
  have fired := fired_due_does e (e.clock + ms)
  have timers := fired_due_timers e (e.clock + ms) ready
  have reached : ((e.dueBy (e.clock + ms)).foldl fire e).clock ≤ e.clock + ms :=
    fire_all_clock _ e _ (Nat.le_add_right _ _) fun t member => ((mem_due e _ t).mp member).2
  have waited := wait_does ((e.dueBy (e.clock + ms)).foldl fire e) (e.clock + ms) reached fun t member =>
    Nat.le_of_lt (of_decide_eq_true (List.mem_filter.mp (timers.mem_iff.mp member)).2)
  have whole := does_trans _ _ _ _ _ fired waited
  rw [List.append_nil] at whole
  exact whole ready

theorem act_does {σ : Type} [Inlet σ] (e : Engine) (a : Act σ) : e.Does (e.actHistory a) (e.act a) := by
  cases a with
  | dispatch signal value => exact dispatch_does e signal value
  | handle message => exact handle_does e message
  | execute rule action => exact execute_does e rule action
  | run inlet => exact does_trans e _ _ [] _ (note_does e _) (resume_does _ inlet)
  | resume inlet => exact resume_does e inlet
  | close => exact close_does e
  | refuse refuses => exact does_nothing e _ rfl rfl rfl rfl rfl
  | advance ms => exact advance_does e ms

theorem session_does {σ : Type} [Inlet σ] (e : Engine) (acts : List (Act σ)) :
    e.Does (e.history acts) (acts.foldl act e) :=
  does_along act actHistory act_does acts e

theorem fire_apart (e : Engine) (timer : Timer) (store : Store) (updates : Nat) :
    ({ e with store := store, updates := updates } : Engine).fire timer =
      { e.fire timer with store := store, updates := updates } := by
  unfold fire emit
  dsimp only
  rcases e.outlet.send timer.due timer.signal with ⟨answer, outlet⟩
  cases answer with
  | ok _ => rfl
  | error cause => rfl

theorem fire_all_apart (timers : List Timer) (e : Engine) (store : Store) (updates : Nat) :
    timers.foldl fire { e with store := store, updates := updates } =
      { timers.foldl fire e with store := store, updates := updates } := by
  induction timers generalizing e with
  | nil => rfl
  | cons timer timers ih => rw [List.foldl_cons, fire_apart, ih (e.fire timer)]; rfl

theorem advance_apart (e : Engine) (ms : Nat) (store : Store) (updates : Nat) :
    ({ e with store := store, updates := updates } : Engine).advance ms =
      { e.advance ms with store := store, updates := updates } := by
  have fired := fire_all_apart (e.dueBy (e.clock + ms)) e store updates
  change ({ (e.dueBy (e.clock + ms)).foldl fire { e with store := store, updates := updates } with clock := _ } : Engine) = _
  rw [fired]
  rfl

theorem advance_unwritten (e : Engine) (ms : Nat) : (e.advance ms).store = e.store ∧ (e.advance ms).updates = e.updates := by
  have same : e.advance ms = { e.advance ms with store := e.store, updates := e.updates } :=
    advance_apart e ms e.store e.updates
  rw [same]
  exact ⟨rfl, rfl⟩

theorem advanced (e : Engine) (ms : Nat) (ready : e.Ready) : e.Advanced ms := by
  constructor
  · rfl
  · rw [advanceHistory, (fire_history _ e).1]
    exact List.mergeSort_perm _ _
  · rw [advanceHistory, (fire_history _ e).1]
    exact due_sorted e _
  · exact fired_due_timers e (e.clock + ms) ready
  · exact advance_unwritten e ms
  · exact advance_apart e ms

theorem on_time (start e : Engine) (history : History) (fresh : start.timers = []) (ready : start.Ready)
    (does : start.Does history e) : OnTime start history e := by
  obtain ⟨happened, after⟩ := does ready
  have scheduled := happened.timers
  have pending := happened.pending
  rw [fresh, List.nil_append] at scheduled
  rw [ready.counted, fresh, List.length_nil, Nat.zero_add] at pending
  refine ⟨scheduled, happened.punctual, ?_, ?_, happened.ordered, pending, happened.attempts, happened.sent⟩
  · intro t early fired
    obtain ⟨attempt, made, timer⟩ := (History.mem_fired history t).mp fired
    have reached := (happened.during attempt made).2
    rw [(happened.punctual attempt made t timer).1] at reached
    omega
  · intro t late
    have gone : e.timers.count t = 0 := by
      rw [List.count_eq_zero]
      intro waits
      have ahead := after.ahead t waits
      omega
    rw [scheduled.count_eq t, List.count_append, gone, Nat.add_zero]

end Engine

theorem delayed_actions_once_and_on_time {σ : Type} [Inlet σ] (rules : RuleSet) (store : Store) (outlet : Outlet)
    (acts : List (Act σ)) :
    let start := Engine.start rules store outlet
    let e := acts.foldl Engine.act start
    Engine.OnTime start (start.history acts) e ∧ ∀ ms, e.Advanced ms := by
  intro start e
  have ready : start.Ready := ⟨fun t member => (List.not_mem_nil member).elim, rfl⟩
  have does := Engine.session_does start acts
  exact ⟨Engine.on_time start e (start.history acts) rfl ready does, fun ms => Engine.advanced e ms (does ready).2⟩

end SignalRules
