import SignalRules.Proofs.Engine.Delays
import SignalRules.Transport.Queue

set_option autoImplicit false

namespace SignalRules

-- What is left of the deliveries of an outlet that refuses nothing when the attempts with these numbers fail.
def survivors (fails : Nat → Bool) (sent : List Delivery) : List Delivery :=
  (sent.zipIdx.filter fun attempt => !fails attempt.2).map (·.1)

theorem survivors_append (fails : Nat → Bool) (sent : List Delivery) (last : Delivery) :
    survivors fails (sent ++ [last]) = survivors fails sent ++ if fails sent.length then [] else [last] := by
  unfold survivors
  rw [List.zipIdx_append, List.filter_append, List.map_append]
  by_cases refused : fails sent.length = true
  · simp [refused]
  · simp [refused]

namespace Outlet

structure Thinned (fails : Nat → Bool) (o o' : Outlet) : Prop where
  refuses : o.refuses = fails
  accepts : ∀ n, o'.refuses n = false
  attempts : o.attempts = o'.sent.length
  attempts' : o'.attempts = o'.sent.length
  sent : o.sent = survivors fails o'.sent

theorem send_thinned (fails : Nat → Bool) (o o' : Outlet) (time : Nat) (signal : Signal) (thinned : Thinned fails o o') :
    Thinned fails (o.send time signal).2 (o'.send time signal).2 := by
  have accepted : (o'.send time signal).2.sent = o'.sent ++ [⟨time, signal⟩] := by simp [send, thinned.accepts]
  constructor
  · rw [send_refuses, thinned.refuses]
  · rw [send_refuses]
    exact thinned.accepts
  · rw [send_attempts, accepted, thinned.attempts, List.length_append, List.length_singleton]
  · rw [send_attempts, accepted, thinned.attempts', List.length_append, List.length_singleton]
  · rw [accepted, survivors_append, ← thinned.sent, ← thinned.attempts, ← thinned.refuses, send]
    by_cases refused : o.refuses o.attempts = true
    · simp [refused]
    · simp [refused]

end Outlet

namespace Engine

-- Two engines in step: nothing that an engine goes by tells them apart.
structure InStep (fails : Nat → Bool) (e e' : Engine) : Prop where
  rules : e.rules = e'.rules
  store : e.store = e'.store
  updates : e.updates = e'.updates
  clock : e.clock = e'.clock
  timers : e.timers = e'.timers
  pending : e.pending = e'.pending
  outlet : e.outlet.Thinned fails e'.outlet

structure Alike {σ : Type} [Inlet σ] (e e' : Engine) : Prop where
  store : e.store = e'.store
  updates : e.updates = e'.updates
  pending : e.pending = e'.pending
  reports : ∀ signal value, (e.dispatch signal value).1 = (e'.dispatch signal value).1
  answers : ∀ message, (e.handle message).1 = (e'.handle message).1
  stops : ∀ s : σ, (e.run s).ending = (e'.run s).ending ∧ (e.run s).inlet = (e'.run s).inlet
  resumes : ∀ s : σ, (e.resume s).ending = (e'.resume s).ending ∧ (e.resume s).inlet = (e'.resume s).inlet

section
variable (fails : Nat → Bool) (e e' : Engine) (inStep : InStep fails e e')
include inStep

theorem note_in_step (notes notes' : List Log.Entry) : InStep fails (e.note notes) (e'.note notes') :=
  ⟨inStep.rules, inStep.store, inStep.updates, inStep.clock, inStep.timers, inStep.pending, inStep.outlet⟩

theorem emit_in_step (rule : Nat) (signal : Signal) : InStep fails (e.emit rule signal) (e'.emit rule signal) := by
  obtain ⟨notes, emitted⟩ := emit_fields e rule signal
  obtain ⟨notes', emitted'⟩ := emit_fields e' rule signal
  have sent := Outlet.send_thinned fails _ _ e'.clock signal inStep.outlet
  rw [emitted, emitted', inStep.clock]
  exact ⟨inStep.rules, inStep.store, inStep.updates, rfl, inStep.timers, inStep.pending, sent⟩

theorem execute_in_step (rule : Nat) (action : Action) : InStep fails (e.execute rule action) (e'.execute rule action) := by
  unfold execute
  cases action.delay with
  | none => exact emit_in_step fails e e' inStep rule action.outbound
  | some delay =>
    apply note_in_step
    refine ⟨inStep.rules, inStep.store, inStep.updates, inStep.clock, ?_, ?_, inStep.outlet⟩
    · rw [inStep.timers, inStep.clock]
    · rw [inStep.pending]

theorem consider_in_step (rule : Rule) : InStep fails (e.consider rule) (e'.consider rule) := by
  unfold consider
  rw [inStep.store]
  have noted := note_in_step fails e e' inStep
  cases verdict : rule.condition.evaluate e'.store with
  | error cause => exact noted _ _
  | ok holds =>
    cases holds with
    | false => exact noted _ _
    | true => exact execute_in_step fails _ _ (noted _ _) rule.id rule.action

theorem write_in_step (signal : String) (value : Value) : InStep fails (e.write signal value) (e'.write signal value) := by
  apply note_in_step
  refine ⟨inStep.rules, ?_, ?_, inStep.clock, inStep.timers, inStep.pending, inStep.outlet⟩
  · rw [inStep.store]
  · rw [inStep.updates]

theorem close_in_step : InStep fails e.close e'.close := by
  obtain ⟨notes, closed⟩ := close_fields e
  obtain ⟨notes', closed'⟩ := close_fields e'
  have sent := Outlet.send_thinned fails _ _ e'.clock .close inStep.outlet
  rw [closed, closed', inStep.clock]
  exact ⟨inStep.rules, inStep.store, inStep.updates, rfl, inStep.timers, inStep.pending, sent⟩

theorem fire_in_step (timer : Timer) : InStep fails (e.fire timer) (e'.fire timer) := by
  obtain ⟨notes, fired⟩ := fire_fields e timer
  obtain ⟨notes', fired'⟩ := fire_fields e' timer
  have sent := Outlet.send_thinned fails _ _ timer.due timer.signal inStep.outlet
  rw [fired, fired']
  refine ⟨inStep.rules, inStep.store, inStep.updates, rfl, ?_, ?_, sent⟩
  · rw [inStep.timers]
  · rw [inStep.pending]

end

section
variable (fails : Nat → Bool)

theorem in_step_along {α : Type} (step : Engine → α → Engine) (as : List α)
    (keeps : ∀ a ∈ as, ∀ e e', InStep fails e e' → InStep fails (step e a) (step e' a)) (e e' : Engine)
    (inStep : InStep fails e e') : InStep fails (as.foldl step e) (as.foldl step e') := by
  induction as generalizing e e' with
  | nil => exact inStep
  | cons a as ih =>
    exact ih (fun b member => keeps b (List.mem_cons_of_mem a member)) _ _ (keeps a List.mem_cons_self e e' inStep)

variable (e e' : Engine) (inStep : InStep fails e e')
include inStep

theorem dispatch_in_step (signal : String) (value : Value) : (e.dispatch signal value).1 = (e'.dispatch signal value).1 ∧
    InStep fails (e.dispatch signal value).2 (e'.dispatch signal value).2 := by
  have written := write_in_step fails e e' inStep signal value
  have considered := in_step_along fails consider (e'.rules.dependents signal)
    (fun rule _ e e' inStep => consider_in_step fails e e' inStep rule) _ _ written
  have rules := written.rules
  have store := written.store
  constructor
  · simp only [dispatch, rules, store]
  · simp only [dispatch, rules]
    exact note_in_step fails _ _ considered _ _

theorem query_in_step (name : String) : (e.query name).1 = (e'.query name).1 ∧
    InStep fails (e.query name).2 (e'.query name).2 := by
  unfold query
  rw [inStep.store]
  cases e'.store.get? name with
  | none => exact ⟨rfl, note_in_step fails e e' inStep _ _⟩
  | some value => exact ⟨rfl, note_in_step fails e e' inStep _ _⟩

theorem handle_in_step (message : Inbound) : (e.handle message).1 = (e'.handle message).1 ∧
    InStep fails (e.handle message).2 (e'.handle message).2 := by
  cases message with
  | update name raw =>
    obtain ⟨report, dispatched⟩ := dispatch_in_step fails e e' inStep name (Value.ofText raw)
    exact ⟨congrArg Step.dispatched report, dispatched⟩
  | query name =>
    obtain ⟨answer, queried⟩ := query_in_step fails e e' inStep name
    exact ⟨congrArg Step.queried answer, queried⟩
  | terminate => exact ⟨rfl, close_in_step fails e e' inStep⟩

theorem resume_in_step {σ : Type} [Inlet σ] (s : σ) : (e.resume s).ending = (e'.resume s).ending ∧
    (e.resume s).inlet = (e'.resume s).inlet ∧ InStep fails (e.resume s).engine (e'.resume s).engine := by
  have received := in_step_along fails receive (script s).messages
    (fun message _ e e' inStep => (handle_in_step fails _ _ (note_in_step fails e e' inStep _ _) message.2).2) e e' inStep
  have pumped := note_in_step fails _ _ received (script s).notes (script s).notes
  unfold resume
  rw [pump_script, pump_script]
  cases (script s).ending with
  | waiting => exact ⟨rfl, rfl, pumped⟩
  | failed cause => exact ⟨rfl, rfl, pumped⟩
  | stopped => exact ⟨rfl, rfl, note_in_step fails _ _ pumped _ _⟩

theorem advance_in_step (ms : Nat) : InStep fails (e.advance ms) (e'.advance ms) := by
  have fired := in_step_along fails fire (e'.dueBy (e'.clock + ms))
    (fun timer _ e e' inStep => fire_in_step fails e e' inStep timer) e e' inStep
  unfold advance advanceTo
  rw [inStep.timers, inStep.clock]
  exact ⟨fired.rules, fired.store, fired.updates, rfl, fired.timers, fired.pending, fired.outlet⟩

theorem act_in_step {σ : Type} [Inlet σ] (a : Act σ) (steady : ∀ refuses, a ≠ .refuse refuses) :
    InStep fails (e.act a) (e'.act a) := by
  cases a with
  | dispatch signal value => exact (dispatch_in_step fails e e' inStep signal value).2
  | handle message => exact (handle_in_step fails e e' inStep message).2
  | execute rule action => exact execute_in_step fails e e' inStep rule action
  | run inlet => exact (resume_in_step fails _ _ (note_in_step fails e e' inStep _ _) inlet).2.2
  | resume inlet => exact (resume_in_step fails e e' inStep inlet).2.2
  | close => exact close_in_step fails e e' inStep
  | refuse refuses => exact absurd rfl (steady refuses)
  | advance ms => exact advance_in_step fails e e' inStep ms

theorem in_step_alike {σ : Type} [Inlet σ] : Alike (σ := σ) e e' := by
  constructor
  · exact inStep.store
  · exact inStep.updates
  · exact inStep.pending
  · exact fun signal value => (dispatch_in_step fails e e' inStep signal value).1
  · exact fun message => (handle_in_step fails e e' inStep message).1
  · intro s
    obtain ⟨ending, rest, _⟩ := resume_in_step fails _ _ (note_in_step fails e e' inStep [e.startNote] [e'.startNote]) s
    exact ⟨ending, rest⟩
  · intro s
    obtain ⟨ending, rest, _⟩ := resume_in_step fails e e' inStep s
    exact ⟨ending, rest⟩

end

end Engine

theorem send_failures_stay_isolated {σ : Type} [Inlet σ] (rules : RuleSet) (store : Store) (name : String)
    (reason : Signal → String) (fails : Nat → Bool) (acts : List (Act σ)) (steady : ∀ refuses, .refuse refuses ∉ acts) :
    let after (refuses : Nat → Bool) := acts.foldl Engine.act (Engine.start rules store ⟨name, refuses, reason, 0, []⟩)
    Engine.Alike (σ := σ) (after fails) (after fun _ => false) ∧
      (after fails).outlet.attempts = (after fun _ => false).outlet.sent.length ∧
      (after fails).outlet.sent = survivors fails (after fun _ => false).outlet.sent := by
  intro after
  have start : Engine.InStep fails (Engine.start rules store ⟨name, fails, reason, 0, []⟩)
      (Engine.start rules store ⟨name, fun _ => false, reason, 0, []⟩) :=
    ⟨rfl, rfl, rfl, rfl, rfl, rfl, ⟨rfl, fun _ => rfl, rfl, rfl, rfl⟩⟩
  have session := Engine.in_step_along fails Engine.act acts
    (fun a member e e' inStep => Engine.act_in_step fails e e' inStep a fun refuses same => steady refuses (same ▸ member))
    _ _ start
  exact ⟨Engine.in_step_alike fails _ _ session, session.outlet.attempts, session.outlet.sent⟩

def doorSession : List (Act LineQueue) :=
  [.dispatch "door" (.bool true), .dispatch "alarm" (.bool true), .advance 5, .close]

-- The second of three attempts fails, that of the delayed siren; the close after it is sent all the same.
theorem send_failures_stay_isolated_door :
    let after (refuses : Nat → Bool) :=
      doorSession.foldl Engine.act (Engine.start doorRules NameMap.empty ⟨"memory", refuses, fun _ => "", 0, []⟩)
    (∀ refuses, .refuse refuses ∉ doorSession) ∧ (after (· == 1)).pending = 0 ∧
      (after (· == 1)).outlet.sent = [⟨0, ⟨"alarm", some (.bool true)⟩⟩, ⟨5, .close⟩] := by
  intro after
  have steady : ∀ refuses, .refuse refuses ∉ doorSession := by simp [doorSession]
  have smooth : (after fun _ => false).pending = 0 ∧ (after fun _ => false).outlet.sent =
      [⟨0, ⟨"alarm", some (.bool true)⟩⟩, ⟨5, ⟨"siren", some (.bool true)⟩⟩, ⟨5, .close⟩] := by decide +kernel
  obtain ⟨alike, _, sent⟩ :=
    send_failures_stay_isolated doorRules NameMap.empty "memory" (fun _ => "") (· == 1) doorSession steady
  refine ⟨steady, alike.pending.trans smooth.1, ?_⟩
  change (after (· == 1)).outlet.sent = _ at sent
  rw [sent, smooth.2]
  rfl

end SignalRules
