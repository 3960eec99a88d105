import SignalRules.Proofs.Engine.Dispatch
import SignalRules.Proofs.Engine.Script

set_option autoImplicit false

namespace SignalRules

structure Handover where
  time : Nat
  rule : Nat
  action : Action

structure Attempt where
  time : Nat
  signal : Signal
  timer : Option Timer
  accepted : Bool

inductive Event where
  | handed (h : Handover)
  | attempted (a : Attempt)

abbrev History := List Event

def Handover.timer? (h : Handover) : Option Timer :=
  h.action.delay.map fun delay => ⟨h.time + delay, h.rule, h.action.outbound⟩

def Attempt.delivery? (a : Attempt) : Option Delivery := if a.accepted then some ⟨a.time, a.signal⟩ else none

namespace Event

def attempt? : Event → Option Attempt
  | handed _ => none
  | attempted a => some a

def scheduled? : Event → Option Timer
  | handed h => h.timer?
  | attempted _ => none

def fired? (event : Event) : Option Timer := event.attempt?.bind Attempt.timer

end Event

namespace History

def attempts (h : History) : List Attempt := h.filterMap Event.attempt?
def scheduled (h : History) : List Timer := h.filterMap Event.scheduled?
def fired (h : History) : List Timer := h.filterMap Event.fired?

@[simp] theorem attempts_append (h h' : History) : History.attempts (h ++ h') = h.attempts ++ h'.attempts := List.filterMap_append

@[simp] theorem scheduled_append (h h' : History) : History.scheduled (h ++ h') = h.scheduled ++ h'.scheduled :=
  List.filterMap_append

@[simp] theorem fired_append (h h' : History) : History.fired (h ++ h') = h.fired ++ h'.fired := List.filterMap_append

@[simp] theorem attempts_nil : History.attempts [] = [] := rfl

@[simp] theorem scheduled_nil : History.scheduled [] = [] := rfl

@[simp] theorem fired_nil : History.fired [] = [] := rfl

@[simp] theorem attempts_handed (handover : Handover) (h : History) : History.attempts (.handed handover :: h) = h.attempts := rfl

@[simp] theorem attempts_attempted (a : Attempt) (h : History) :
    History.attempts (.attempted a :: h) = a :: h.attempts := rfl

@[simp] theorem scheduled_handed (handover : Handover) (h : History) :
    History.scheduled (.handed handover :: h) = handover.timer?.toList ++ h.scheduled := by
  cases timer : handover.timer? <;> simp [History.scheduled, Event.scheduled?, timer]

@[simp] theorem scheduled_attempted (a : Attempt) (h : History) : History.scheduled (.attempted a :: h) = h.scheduled := rfl

@[simp] theorem fired_handed (handover : Handover) (h : History) : History.fired (.handed handover :: h) = h.fired := rfl

@[simp] theorem fired_attempted (a : Attempt) (h : History) :
    History.fired (.attempted a :: h) = a.timer.toList ++ h.fired := by
  cases timer : a.timer <;> simp [History.fired, Event.fired?, Event.attempt?, timer]

theorem mem_fired (h : History) (t : Timer) : t ∈ h.fired ↔ ∃ a ∈ h.attempts, a.timer = some t := by
  have made : h.fired = h.attempts.filterMap Attempt.timer := List.filterMap_filterMap.symm
  rw [made, List.mem_filterMap]

end History

namespace Engine

def attempt (e : Engine) (timer : Option Timer) (signal : Signal) : Event :=
  .attempted ⟨e.clock, signal, timer, !e.outlet.refuses e.outlet.attempts⟩

def historyAlong {α : Type} (step : Engine → α → Engine) (history : Engine → α → History) (e : Engine) : List α → History
  | [] => []
  | a :: rest => history e a ++ historyAlong step history (step e a) rest

def executeHistory (e : Engine) (rule : Nat) (action : Action) : History :=
  .handed ⟨e.clock, rule, action⟩ ::
    match action.delay with
    | none => [e.attempt none action.outbound]
    | some _ => []

def considerHistory (e : Engine) (rule : Rule) : History :=
  if rule.Holds e.store then e.executeHistory rule.id rule.action else []

def dispatchHistory (e : Engine) (signal : String) (value : Value) : History :=
  historyAlong consider considerHistory (e.write signal value) (e.rules.dependents signal)

def handleHistory (e : Engine) : Inbound → History
  | .update name raw => e.dispatchHistory name (Value.ofText raw)
  | .query _ => []
  | .terminate => [e.attempt none .close]

def receiveHistory (e : Engine) (message : List Log.Entry × Inbound) : History :=
  (e.note message.1).handleHistory message.2

def resumeHistory {σ : Type} [Inlet σ] (e : Engine) (s : σ) : History :=
  historyAlong receive receiveHistory e (script s).messages

def fireHistory (e : Engine) (timer : Timer) : History :=
  [({ e with clock := timer.due }).attempt (some timer) timer.signal]

-- Exactly the events of a history happened between two engines.
structure Happened (before : Engine) (history : History) (after : Engine) : Prop where
  clock : before.clock ≤ after.clock
  attempts : after.outlet.attempts = before.outlet.attempts + history.attempts.length
  sent : after.outlet.sent = before.outlet.sent ++ history.attempts.filterMap Attempt.delivery?
  timers : (before.timers ++ history.scheduled).Perm (history.fired ++ after.timers)
  pending : after.pending + history.fired.length = before.pending + history.scheduled.length
  during : ∀ a ∈ history.attempts, before.clock ≤ a.time ∧ a.time ≤ after.clock
  ordered : history.attempts.Pairwise fun a b => a.time ≤ b.time
  punctual : ∀ a ∈ history.attempts, ∀ t, a.timer = some t → a.time = t.due ∧ a.signal = t.signal

structure Ready (e : Engine) : Prop where
  ahead : ∀ t ∈ e.timers, e.clock ≤ t.due
  counted : e.pending = e.timers.length

def Does (before : Engine) (history : History) (after : Engine) : Prop :=
  before.Ready → Happened before history after ∧ after.Ready

theorem happened_trans (a b c : Engine) (front back : History) (first : a.Happened front b) (second : b.Happened back c) :
    a.Happened (front ++ back) c := by
  constructor
  · exact Nat.le_trans first.clock second.clock
  · rw [second.attempts, first.attempts, History.attempts_append, List.length_append, Nat.add_assoc]
  · rw [second.sent, first.sent, History.attempts_append, List.filterMap_append, List.append_assoc]
  · rw [History.scheduled_append, History.fired_append]
    calc a.timers ++ (front.scheduled ++ back.scheduled)
        = (a.timers ++ front.scheduled) ++ back.scheduled := (List.append_assoc _ _ _).symm
      _ |>.Perm ((front.fired ++ b.timers) ++ back.scheduled) := first.timers.append_right _
      _ = front.fired ++ (b.timers ++ back.scheduled) := List.append_assoc _ _ _
      _ |>.Perm (front.fired ++ (back.fired ++ c.timers)) := second.timers.append_left _
      _ = (front.fired ++ back.fired) ++ c.timers := (List.append_assoc _ _ _).symm
  · have pending := first.pending
    have pending' := second.pending
    rw [History.scheduled_append, History.fired_append, List.length_append, List.length_append]
    omega
  · intro attempt member
    rw [History.attempts_append] at member
    rcases List.mem_append.mp member with member | member
    · exact ⟨(first.during attempt member).1, Nat.le_trans (first.during attempt member).2 second.clock⟩
    · exact ⟨Nat.le_trans first.clock (second.during attempt member).1, (second.during attempt member).2⟩
  · rw [History.attempts_append, List.pairwise_append]
    refine ⟨first.ordered, second.ordered, fun early member late member' => ?_⟩
    exact Nat.le_trans (first.during early member).2 (second.during late member').1
  · intro attempt member
    rw [History.attempts_append] at member
    rcases List.mem_append.mp member with member | member
    · exact first.punctual attempt member
    · exact second.punctual attempt member

theorem does_trans (a b c : Engine) (front back : History) (first : a.Does front b) (second : b.Does back c) :
    a.Does (front ++ back) c := by
  intro ready
  obtain ⟨happened, ready⟩ := first ready
  obtain ⟨happened', ready⟩ := second ready
  exact ⟨happened_trans a b c front back happened happened', ready⟩

theorem does_nothing (before after : Engine) (clock : after.clock = before.clock)
    (attempts : after.outlet.attempts = before.outlet.attempts) (sent : after.outlet.sent = before.outlet.sent)
    (timers : after.timers = before.timers) (pending : after.pending = before.pending) : before.Does [] after := by
  intro ready
  constructor
  · constructor
    · exact Nat.le_of_eq clock.symm
    · exact attempts
    · simpa using sent
    · simp [timers]
    · exact pending
    · simp
    · exact .nil
    · simp
  · constructor
    · rw [timers, clock]
      exact ready.ahead
    · rw [timers, pending]
      exact ready.counted

theorem note_does (e : Engine) (notes : List Log.Entry) : e.Does [] (e.note notes) :=
  does_nothing e _ rfl rfl rfl rfl rfl

theorem noted_does (before after : Engine) (history : History) (notes : List Log.Entry) (does : before.Does history after) :
    before.Does history (after.note notes) := by
  have noted := does_trans before after _ history [] does (note_does after notes)
  rwa [List.append_nil] at noted

theorem attempt_delivered (e : Engine) (timer : Option Timer) (signal : Signal) :
    (e.outlet.send e.clock signal).2.sent =
      e.outlet.sent ++ (History.attempts [e.attempt timer signal]).filterMap Attempt.delivery? := by
  unfold Outlet.send
  by_cases refused : e.outlet.refuses e.outlet.attempts = true
  · simp [refused, attempt, Attempt.delivery?]
  · simp [refused, attempt, Attempt.delivery?]

theorem attempt_does (before after : Engine) (signal : Signal) (clock : after.clock = before.clock)
    (outlet : after.outlet = (before.outlet.send before.clock signal).2) (timers : after.timers = before.timers)
    (pending : after.pending = before.pending) : before.Does [before.attempt none signal] after := by
  intro ready
  constructor
  · constructor
    · exact Nat.le_of_eq clock.symm
    · rw [outlet, Outlet.send_attempts]
      rfl
    · rw [outlet]
      exact attempt_delivered before none signal
    · simp [timers, attempt]
    · exact pending
    · simp [clock, attempt]
    · exact List.pairwise_singleton _ _
    · simp [attempt]
  · constructor
    · rw [timers, clock]
      exact ready.ahead
    · rw [timers, pending]
      exact ready.counted

theorem schedule_does (e : Engine) (rule : Nat) (action : Action) (delay : Nat) (delayed : action.delay = some delay) :
    e.Does [.handed ⟨e.clock, rule, action⟩] (e.execute rule action) := by
  intro ready
  have timer : Handover.timer? ⟨e.clock, rule, action⟩ = some ⟨e.clock + delay, rule, action.outbound⟩ := by
    simp [Handover.timer?, delayed]
  have executed : ∃ notes, e.execute rule action =
      { e with
        timers := e.timers ++ [⟨e.clock + delay, rule, action.outbound⟩], pending := e.pending + 1,
        log := e.log ++ notes } := by
    simp only [execute, delayed]
    exact ⟨_, rfl⟩
  obtain ⟨notes, executed⟩ := executed
  rw [executed]
  constructor
  · constructor
    · exact Nat.le_refl _
    · rfl
    · simp
    · simp [timer]
    · simp [timer]
    · simp
    · exact .nil
    · simp
  · constructor
    · intro t member
      rcases List.mem_append.mp member with member | member
      · exact ready.ahead t member
      · rw [List.mem_singleton.mp member]
        exact Nat.le_add_right _ _
    · simp [ready.counted]

theorem handed_does (before after : Engine) (history : History) (rule : Nat) (action : Action)
    (immediate : action.delay = none) (does : before.Does history after) :
    before.Does (.handed ⟨before.clock, rule, action⟩ :: history) after := by
  have silent : Handover.timer? ⟨before.clock, rule, action⟩ = none := by simp [Handover.timer?, immediate]
  intro ready
  obtain ⟨happened, ready⟩ := does ready
  refine ⟨⟨happened.clock, happened.attempts, happened.sent, ?_, ?_, happened.during, happened.ordered,
    happened.punctual⟩, ready⟩
  · simpa [silent] using happened.timers
  · simpa [silent] using happened.pending

theorem execute_does (e : Engine) (rule : Nat) (action : Action) :
    e.Does (e.executeHistory rule action) (e.execute rule action) := by
  cases delay : action.delay with
  | some wait =>
    simp only [executeHistory, delay]
    exact schedule_does e rule action wait delay
  | none =>
    simp only [executeHistory, execute, delay]
    obtain ⟨notes, emitted⟩ := emit_fields e rule action.outbound
    rw [emitted]
    exact handed_does e _ _ rule action delay (attempt_does e _ action.outbound rfl rfl rfl rfl)

theorem close_does (e : Engine) : e.Does [e.attempt none .close] e.close := by
  obtain ⟨notes, closed⟩ := close_fields e
  rw [closed]
  exact attempt_does e _ .close rfl rfl rfl rfl

theorem does_along {α : Type} (step : Engine → α → Engine) (history : Engine → α → History)
    (does : ∀ (e : Engine) (a : α), e.Does (history e a) (step e a)) (as : List α) (e : Engine) :
    e.Does (historyAlong step history e as) (as.foldl step e) := by
  induction as generalizing e with
  | nil => exact does_nothing e e rfl rfl rfl rfl rfl
  | cons a as ih => exact does_trans e _ _ _ _ (does e a) (ih (step e a))

theorem consider_does (e : Engine) (rule : Rule) : e.Does (e.considerHistory rule) (e.consider rule) := by
  unfold considerHistory consider
  cases verdict : rule.condition.evaluate e.store with
  | error cause =>
    rw [if_neg (by simp [Rule.Holds, verdict])]
    exact note_does e _
  | ok holds =>
    cases holds with
    | false =>
      rw [if_neg (by simp [Rule.Holds, verdict])]
      exact note_does e _
    | true =>
      rw [if_pos (show rule.Holds e.store from verdict)]
      exact does_trans e _ _ [] _ (note_does e _) (execute_does _ rule.id rule.action)

theorem dispatch_does (e : Engine) (signal : String) (value : Value) :
    e.Does (e.dispatchHistory signal value) (e.dispatch signal value).2 := by
  have written : e.Does [] (e.write signal value) := does_nothing e _ rfl rfl rfl rfl rfl
  have considered := does_along consider considerHistory consider_does (e.rules.dependents signal) (e.write signal value)
  exact does_trans e _ _ [] _ written (noted_does _ _ _ (e.dispatch signal value).1.notes considered)

theorem handle_does (e : Engine) (message : Inbound) : e.Does (e.handleHistory message) (e.handle message).2 := by
  cases message with
  | update name raw => exact dispatch_does e name (Value.ofText raw)
  | terminate => exact close_does e
  | query name =>
    have queried : ∃ notes, (e.handle (.query name)).2 = e.note notes := by
      simp only [handle, query]
      cases e.store.get? name with
      | none => exact ⟨_, rfl⟩
      | some value => exact ⟨_, rfl⟩
    obtain ⟨notes, queried⟩ := queried
    rw [queried]
    exact note_does e notes

theorem receive_does (e : Engine) (message : List Log.Entry × Inbound) :
    e.Does (e.receiveHistory message) (e.receive message) :=
  does_trans e _ _ [] _ (note_does e message.1) (handle_does (e.note message.1) message.2)

theorem resume_does {σ : Type} [Inlet σ] (e : Engine) (s : σ) : e.Does (e.resumeHistory s) (e.resume s).engine := by
  have received := does_along receive receiveHistory receive_does (script s).messages e
  have pumped := noted_does e _ _ (script s).notes received
  unfold resume
  rw [pump_script]
  cases (script s).ending with
  | waiting => exact pumped
  | failed cause => exact pumped
  | stopped => exact noted_does e _ _ _ pumped

end Engine
end SignalRules
