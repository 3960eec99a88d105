import SignalRules.Proofs.Engine.Delays

set_option autoImplicit false

namespace SignalRules

namespace Engine

-- The engine handles these messages and no others, each of them whole; in between it logs and the clock moves on. The
-- history is that of the messages and of the delayed actions that fall due.
inductive Attends : Engine → List Inbound → History → Engine → Prop where
  | nothing (e : Engine) : Attends e [] [] e
  | note (e e' : Engine) (messages : List Inbound) (history : History) (notes : List Log.Entry) :
      Attends (e.note notes) messages history e' → Attends e messages history e'
  | pause (e e' : Engine) (messages : List Inbound) (history : History) (ms : Nat) :
      Attends (e.advance ms) messages history e' → Attends e messages (e.advanceHistory ms ++ history) e'
  | message (e e' : Engine) (messages : List Inbound) (history : History) (message : Inbound) :
      Attends (e.handle message).2 messages history e' →
      Attends e (message :: messages) (e.handleHistory message ++ history) e'

theorem attends_trans (a b c : Engine) (messages messages' : List Inbound) (history history' : History)
    (first : a.Attends messages history b) (second : b.Attends messages' history' c) :
    a.Attends (messages ++ messages') (history ++ history') c := by
  induction first with
  | nothing e => exact second
  | note e e' messages history notes _ ih => exact .note _ _ _ _ notes (ih second)
  | pause e e' messages history ms _ ih =>
    rw [List.append_assoc]
    exact .pause _ _ _ _ ms (ih second)
  | message e e' messages history message _ ih =>
    rw [List.append_assoc]
    exact .message _ _ _ _ message (ih second)

theorem attends_noted (a b : Engine) (messages : List Inbound) (history : History) (notes : List Log.Entry)
    (attends : a.Attends messages history b) : a.Attends messages history (b.note notes) := by
  have noted := attends_trans a b _ messages [] history [] attends (.note _ _ _ _ notes (.nothing _))
  rwa [List.append_nil, List.append_nil] at noted

theorem note_note (e : Engine) (notes notes' : List Log.Entry) : (e.note notes).note notes' = e.note (notes ++ notes') := by
  rw [note, note, note, List.append_assoc]

theorem attends_does (e e' : Engine) (messages : List Inbound) (history : History)
    (attends : e.Attends messages history e') : e.Does history e' := by
  induction attends with
  | nothing e => exact does_nothing e e rfl rfl rfl rfl rfl
  | note e e' messages history notes _ ih => exact does_trans e _ _ [] history (note_does e notes) ih
  | pause e e' messages history ms _ ih => exact does_trans e _ _ _ history (advance_does e ms) ih
  | message e e' messages history message _ ih => exact does_trans e _ _ _ history (handle_does e message) ih

theorem receive_attends (messages : List (List Log.Entry × Inbound)) (e : Engine) :
    ∃ history, e.Attends (messages.map (·.2)) history (messages.foldl receive e) := by
  induction messages generalizing e with
  | nil => exact ⟨[], .nothing e⟩
  | cons message messages ih =>
    obtain ⟨history, attends⟩ := ih (e.receive message)
    exact ⟨_, .note _ _ _ _ message.1 (.message _ _ _ _ message.2 attends)⟩

end Engine

def History.Unclosed (h : History) : Prop := ∀ a ∈ h.attempts, a.signal ≠ .close
def History.UnclosedAtOnce (h : History) : Prop := ∀ a ∈ h.attempts, a.timer = none → a.signal ≠ .close

theorem outbound_not_close (action : Action) : action.outbound ≠ .close := by
  simp [Action.outbound, Signal.close]

theorem scheduled_not_close (h : History) (t : Timer) (scheduled : t ∈ h.scheduled) : t.signal ≠ .close := by
  obtain ⟨event, _, made⟩ := List.mem_filterMap.mp scheduled
  cases event with
  | attempted a => cases made
  | handed handover =>
    obtain ⟨delay, _, rfl⟩ := Option.map_eq_some_iff.mp made
    exact outbound_not_close handover.action

theorem unclosed_nil : History.UnclosedAtOnce [] := fun _ member => (List.not_mem_nil member).elim

theorem unclosed_append (h h' : History) (first : h.UnclosedAtOnce) (second : h'.UnclosedAtOnce) :
    History.UnclosedAtOnce (h ++ h') := by
  intro a member
  rw [History.attempts_append] at member
  rcases List.mem_append.mp member with member | member
  · exact first a member
  · exact second a member

namespace Engine

theorem unclosed_along {α : Type} (step : Engine → α → Engine) (history : Engine → α → History)
    (unclosed : ∀ e a, (history e a).UnclosedAtOnce) (as : List α) (e : Engine) :
    (historyAlong step history e as).UnclosedAtOnce := by
  induction as generalizing e with
  | nil => exact unclosed_nil
  | cons a as ih => exact unclosed_append _ _ (unclosed e a) (ih (step e a))

theorem advance_unclosed (e : Engine) (ms : Nat) : (e.advanceHistory ms).UnclosedAtOnce := by
  apply unclosed_along
  intro e timer a member untimed
  rw [fireHistory, attempt, History.attempts_attempted, History.attempts_nil, List.mem_singleton] at member
  rw [member] at untimed
  cases untimed

theorem execute_unclosed (e : Engine) (rule : Nat) (action : Action) : (e.executeHistory rule action).UnclosedAtOnce := by
  intro a member _
  rw [executeHistory, History.attempts_handed] at member
  cases delay : action.delay with
  | some wait => simp [delay] at member
  | none =>
    simp only [delay, attempt, History.attempts_attempted, History.attempts_nil, List.mem_singleton] at member
    rw [member]
    exact outbound_not_close action

theorem handle_unclosed (e : Engine) (message : Inbound) (goes : message ≠ .terminate) :
    (e.handleHistory message).UnclosedAtOnce := by
  cases message with
  | terminate => exact absurd rfl goes
  | query name => exact unclosed_nil
  | update name raw =>
    apply unclosed_along
    intro e rule
    rw [considerHistory]
    by_cases holds : rule.Holds e.store
    · rw [if_pos holds]
      exact execute_unclosed e rule.id rule.action
    · rw [if_neg holds]
      exact unclosed_nil

theorem attends_unclosed (e e' : Engine) (messages : List Inbound) (history : History)
    (attends : e.Attends messages history e') (goes : .terminate ∉ messages) : history.UnclosedAtOnce := by
  induction attends with
  | nothing e => exact unclosed_nil
  | note e e' messages history notes _ ih => exact ih goes
  | pause e e' messages history ms _ ih => exact unclosed_append _ _ (advance_unclosed e ms) (ih goes)
  | message e e' messages history message _ ih =>
    obtain ⟨here, later⟩ := List.ne_and_not_mem_of_not_mem_cons goes
    exact unclosed_append _ _ (handle_unclosed e message (Ne.symm here)) (ih later)

-- Since a start without delayed actions only such actions have been scheduled as have a value to send.
theorem fired_not_close (start e : Engine) (history : History) (fresh : start.timers = [])
    (happened : start.Happened history e) (a : Attempt) (made : a ∈ history.attempts) (t : Timer) (timed : a.timer = some t) : a.signal ≠ .close := by
  have fired : t ∈ history.fired := (History.mem_fired history t).mpr ⟨a, made, timed⟩
  have all := happened.timers
  rw [fresh, List.nil_append] at all
  rw [(happened.punctual a made t timed).2]
  exact scheduled_not_close history t (all.mem_iff.mpr (List.mem_append_left _ fired))

end Engine

end SignalRules
