import SignalRules.Proofs.Engine.Writes
import SignalRules.Transport.Queue

set_option autoImplicit false

namespace SignalRules

def Reception.messages : Reception → List Inbound
  | message m => [m]
  | waiting => []
  | failed _ => []

structure Tapped (σ : Type) where
  inlet : σ
  delivered : List Inbound
deriving DecidableEq

section
variable {σ : Type} [Inlet σ]

namespace Tapped

def receive (t : Tapped σ) : Received (Tapped σ) :=
  let r := Inlet.receive t.inlet
  ⟨r.reception, ⟨r.rest, t.delivered ++ r.reception.messages⟩, r.notes⟩

instance : Inlet (Tapped σ) where
  receive := receive
  size t := Inlet.size t.inlet
  size_lt t m := Inlet.size_lt t.inlet m

theorem receive_rest (t : Tapped σ) (reception : Reception) (received : (Inlet.receive t.inlet).reception = reception) :
    (Inlet.receive t).rest = ⟨(Inlet.receive t.inlet).rest, t.delivered ++ reception.messages⟩ := by
  rw [← received]
  rfl

theorem script_tapped (t : Tapped σ) : script t =
    { script t.inlet with rest := ⟨(script t.inlet).rest, t.delivered ++ (script t.inlet).inbound⟩ } := by
  fun_induction script t with
  | case1 t r waits =>
    rw [script_waiting t.inlet waits]
    exact congrArg (Script.mk _ _ _) (receive_rest t _ waits)
  | case2 t r cause fails =>
    rw [script_failed t.inlet cause fails]
    exact congrArg (Script.mk _ _ _) (receive_rest t _ fails)
  | case3 t r ends =>
    rw [script_terminated t.inlet ends]
    exact congrArg (Script.mk _ _ _) (receive_rest t _ ends)
  | case4 t r m arrives more later ih =>
    have first := receive_rest t _ arrives
    have delivered := List.append_assoc t.delivered [m] (script (Inlet.receive t.inlet).rest).inbound
    rw [script_message t.inlet m arrives more]
    dsimp only [later]
    rw [ih, first]
    exact congrArg (Script.mk _ _ _) (congrArg (Tapped.mk _) delivered)

end Tapped

theorem Engine.run_tapped (e : Engine) (t : Tapped σ) : e.run t =
    ⟨(e.run t.inlet).ending, (e.run t.inlet).engine, ⟨(e.run t.inlet).inlet, t.delivered ++ (script t.inlet).inbound⟩⟩ := by
  unfold run resume
  rw [pump_script, pump_script, Tapped.script_tapped]
  cases (script t.inlet).ending with
  | waiting => rfl
  | failed cause => rfl
  | stopped => rfl

end

namespace LineQueue

theorem receive_line (line : String) (lines : List String) (closed : Bool) : receive ⟨line :: lines, closed⟩ =
    let notes := (InboundLine.ofText line).notes
    let later : LineQueue := ⟨lines, closed⟩
    match Inbound.ofLine? line with
    | some m => ⟨.message m, later, notes⟩
    | none => { receive later with notes := notes ++ (receive later).notes } := rfl

-- What polls of a queue amount to. They have read the lines at its front and were handed their messages, and after these
-- the end of input, once for each poll of a closed queue without lines.
structure Yields (q : LineQueue) (read : List String) (ends : Nat) (messages : List Inbound) (rest : LineQueue) : Prop where
  lines : q.lines = read ++ rest.lines
  closed : rest.closed = q.closed
  messages : messages = read.filterMap Inbound.ofLine? ++ List.replicate ends .terminate
  ended : 0 < ends → q.closed = true ∧ rest.lines = []

theorem yields_nothing (q : LineQueue) : q.Yields [] 0 [] q := ⟨rfl, rfl, rfl, fun ended => absurd ended (Nat.lt_irrefl 0)⟩

theorem yields_line (line : String) (lines : List String) (closed : Bool) :
    Yields ⟨line :: lines, closed⟩ [line] 0 (Inbound.ofLine? line).toList ⟨lines, closed⟩ := by
  refine ⟨rfl, rfl, ?_, fun ended => absurd ended (Nat.lt_irrefl 0)⟩
  cases message : Inbound.ofLine? line <;> simp [message]

theorem yields_trans {a b c : LineQueue} {read read' : List String} {ends ends' : Nat} {messages messages' : List Inbound}
    (first : a.Yields read ends messages b) (second : b.Yields read' ends' messages' c) :
    a.Yields (read ++ read') (ends + ends') (messages ++ messages') c := by
  refine ⟨?_, second.closed.trans first.closed, ?_, ?_⟩
  · rw [first.lines, second.lines, List.append_assoc]
  · rw [first.messages, second.messages, List.filterMap_append, ← List.replicate_append_replicate]
    -- Nothing is read after an end of input.
    cases ends with
    | zero => simp
    | succ ends =>
      have nothing : read' = [] := by
        have left := second.lines
        rw [(first.ended (Nat.succ_pos ends)).2] at left
        exact (List.append_eq_nil_iff.mp left.symm).1
      rw [nothing]
      simp
  · intro ended
    cases ends' with
    | zero =>
      obtain ⟨closed, left⟩ := first.ended ended
      refine ⟨closed, ?_⟩
      rw [second.lines] at left
      exact (List.append_eq_nil_iff.mp left).2
    | succ ends' =>
      obtain ⟨closed, left⟩ := second.ended (Nat.succ_pos ends')
      exact ⟨first.closed.symm.trans closed, left⟩

theorem receive_yields (q : LineQueue) (reception : Reception) (received : (receive q).reception = reception) :
    ∃ read ends, q.Yields read ends reception.messages (receive q).rest := by
  obtain ⟨lines, closed⟩ := q
  rw [← received]
  clear received
  induction lines with
  | nil =>
    cases closed with
    | false => exact ⟨[], 0, yields_nothing _⟩
    | true => exact ⟨[], 1, rfl, rfl, rfl, fun _ => ⟨rfl, rfl⟩⟩
  | cons line lines ih =>
    have first := yields_line line lines closed
    rw [receive_line]
    cases message : Inbound.ofLine? line with
    | some m =>
      rw [message] at first
      exact ⟨_, _, first⟩
    | none =>
      rw [message] at first
      obtain ⟨read, ends, later⟩ := ih
      exact ⟨_, _, yields_trans first later⟩

theorem receive_answers (q : LineQueue) : (∃ m, (receive q).reception = .message m) ∨
    (receive q).reception = .waiting ∧ q.closed = false ∧ (receive q).rest.lines = [] := by
  obtain ⟨lines, closed⟩ := q
  induction lines with
  | nil =>
    cases closed with
    | false => exact .inr ⟨rfl, rfl, rfl⟩
    | true => exact .inl ⟨.terminate, rfl⟩
  | cons line lines ih =>
    rw [receive_line]
    cases Inbound.ofLine? line with
    | some m => exact .inl ⟨m, rfl⟩
    | none => exact ih

theorem script_yields (q : LineQueue) : ∃ read ends, q.Yields read ends (script q).inbound (script q).rest := by
  fun_induction script q with
  | case1 q r waits => exact receive_yields q _ waits
  | case2 q r cause fails => exact receive_yields q _ fails
  | case3 q r ends => exact receive_yields q _ ends
  | case4 q r m arrives more later ih =>
    obtain ⟨read, ends, first⟩ := receive_yields q _ arrives
    obtain ⟨read', ends', second⟩ := ih
    exact ⟨_, _, yields_trans first second⟩

theorem script_answers (q : LineQueue) : (script q).ending = .stopped ∨
    (script q).ending = .waiting ∧ q.closed = false ∧ (script q).rest.lines = [] := by
  fun_induction script q with
  | case1 q r waits =>
    rcases receive_answers q with ⟨m, answers⟩ | waiting
    · cases waits.symm.trans answers
    · exact .inr ⟨rfl, waiting.2⟩
  | case2 q r cause fails =>
    rcases receive_answers q with ⟨m, answers⟩ | waiting
    · cases fails.symm.trans answers
    · cases fails.symm.trans waiting.1
  | case3 q r ends => exact .inl rfl
  | case4 q r m arrives more later ih =>
    obtain ⟨read, ends, yields⟩ := receive_yields q _ arrives
    have closed : r.rest.closed = q.closed := yields.closed
    rwa [closed] at ih

theorem yields_push {q rest : LineQueue} {read : List String} {ends : Nat} {messages : List Inbound} (line : String)
    (opened : rest.closed = false) (yields : q.Yields read ends messages rest) :
    Yields ⟨q.lines ++ [line], q.closed⟩ read ends messages ⟨rest.lines ++ [line], rest.closed⟩ := by
  refine ⟨?_, yields.closed, yields.messages, fun ended => ?_⟩
  · rw [yields.lines, List.append_assoc]
  · cases opened.symm.trans (yields.closed.trans (yields.ended ended).1)

theorem yields_close {q rest : LineQueue} {read : List String} {ends : Nat} {messages : List Inbound}
    (yields : q.Yields read ends messages rest) : q.close.Yields read ends messages rest.close :=
  ⟨yields.lines, rfl, yields.messages, fun ended => ⟨rfl, (yields.ended ended).2⟩⟩

-- What can be done to a queue. An engine in any state may run over it; a poll that waits is given up.
inductive Deed where
  | push (line : String)
  | close
  | receive
  | run (e : Engine)

inductive Outcome where
  | pushed (accepted : Bool)
  | closed
  | received (reception : Reception)
  | ran (ending : RunEnd)
deriving DecidableEq, Repr

def Outcome.Answers (o : Outcome) : Prop := (∃ m, o = received (.message m)) ∨ o = ran .stopped

def Outcome.Waits (o : Outcome) : Prop := o = received .waiting ∨ o = ran .waiting

theorem Outcome.waits_unanswered (o : Outcome) (waits : o.Waits) : ¬ o.Answers := by
  rcases waits with rfl | rfl <;> simp [Answers]

structure Traffic where
  queue : Tapped LineQueue
  accepted : List String

namespace Traffic

def start : Traffic := ⟨⟨empty, []⟩, []⟩

def act (t : Traffic) : Deed → Outcome × Traffic
  | .push line =>
    let (accepted, queue) := t.queue.inlet.push line
    (.pushed accepted, ⟨{ t.queue with inlet := queue }, if accepted then t.accepted ++ [line] else t.accepted⟩)
  | .close => (.closed, { t with queue := { t.queue with inlet := t.queue.inlet.close } })
  | .receive =>
    let r := Inlet.receive t.queue
    (.received r.reception, { t with queue := r.rest })
  | .run e =>
    let r := e.run t.queue
    (.ran r.ending, { t with queue := r.inlet })

def after (t : Traffic) (deeds : List Deed) : Traffic := deeds.foldl (fun t deed => (t.act deed).2) t

theorem push_open (t : Traffic) (line : String) (opened : t.queue.inlet.closed = false) : t.act (.push line) =
    (.pushed true, ⟨⟨⟨t.queue.inlet.lines ++ [line], t.queue.inlet.closed⟩, t.queue.delivered⟩, t.accepted ++ [line]⟩) := by
  simp [act, push, opened]

theorem push_closed (t : Traffic) (line : String) (closed : t.queue.inlet.closed = true) :
    t.act (.push line) = (.pushed false, t) := by
  simp [act, push, closed]

structure Polled (t : Traffic) (outcome : Outcome) (t' : Traffic) : Prop where
  accepted : t'.accepted = t.accepted
  yields : ∃ read ends messages, t.queue.inlet.Yields read ends messages t'.queue.inlet ∧
    t'.queue.delivered = t.queue.delivered ++ messages
  answers : outcome.Answers ∨ outcome.Waits ∧ t.queue.inlet.closed = false ∧ t'.queue.inlet.lines = []

theorem receive_polled (t : Traffic) : t.Polled (t.act .receive).1 (t.act .receive).2 := by
  obtain ⟨read, ends, yields⟩ := receive_yields t.queue.inlet _ rfl
  refine ⟨rfl, ⟨read, ends, _, yields, rfl⟩, ?_⟩
  rcases receive_answers t.queue.inlet with ⟨m, message⟩ | ⟨waits, left⟩
  · exact .inl (.inl ⟨m, congrArg Outcome.received message⟩)
  · exact .inr ⟨.inl (congrArg Outcome.received waits), left⟩

theorem act_run (t : Traffic) (e : Engine) : t.act (.run e) = (.ran (script t.queue.inlet).ending,
    ⟨⟨(script t.queue.inlet).rest, t.queue.delivered ++ (script t.queue.inlet).inbound⟩, t.accepted⟩) := by
  obtain ⟨ending, rest, _⟩ := Engine.resume_script (e.note [e.startNote]) t.queue.inlet
  rw [act, Engine.run_tapped, Engine.run, ending, rest]

theorem run_polled (t : Traffic) (e : Engine) : t.Polled (t.act (.run e)).1 (t.act (.run e)).2 := by
  obtain ⟨read, ends, yields⟩ := script_yields t.queue.inlet
  rw [act_run]
  refine ⟨rfl, ⟨read, ends, _, yields, rfl⟩, ?_⟩
  rcases script_answers t.queue.inlet with stopped | ⟨waits, left⟩
  · exact .inl (.inr (congrArg Outcome.ran stopped))
  · exact .inr ⟨.inr (congrArg Outcome.ran waits), left⟩

def Accounted (t : Traffic) : Prop :=
  ∃ read ends, Yields ⟨t.accepted, t.queue.inlet.closed⟩ read ends t.queue.delivered t.queue.inlet

theorem polled_accounted (t t' : Traffic) (outcome : Outcome) (polled : t.Polled outcome t') (accounted : t.Accounted) :
    t'.Accounted := by
  obtain ⟨read, ends, before⟩ := accounted
  obtain ⟨read', ends', messages, yields, delivered⟩ := polled.yields
  refine ⟨read ++ read', ends + ends', ?_⟩
  rw [polled.accepted, delivered, yields.closed]
  exact yields_trans before yields

theorem act_accounted (t : Traffic) (deed : Deed) (accounted : t.Accounted) : (t.act deed).2.Accounted := by
  cases deed with
  | push line =>
    cases closed : t.queue.inlet.closed with
    | true =>
      rw [push_closed t line closed]
      exact accounted
    | false =>
      obtain ⟨read, ends, yields⟩ := accounted
      rw [push_open t line closed]
      exact ⟨read, ends, yields_push line closed yields⟩
  | close =>
    obtain ⟨read, ends, yields⟩ := accounted
    exact ⟨read, ends, yields_close yields⟩
  | receive => exact polled_accounted t _ _ (receive_polled t) accounted
  | run e => exact polled_accounted t _ _ (run_polled t e) accounted

theorem after_accounted (deeds : List Deed) (t : Traffic) (accounted : t.Accounted) : (t.after deeds).Accounted := by
  induction deeds generalizing t with
  | nil => exact accounted
  | cons deed deeds ih => exact ih _ (act_accounted t deed accounted)

theorem polled_closed (t t' : Traffic) (outcome : Outcome) (polled : t.Polled outcome t') :
    t'.queue.inlet.closed = t.queue.inlet.closed := by
  obtain ⟨_, _, _, yields, _⟩ := polled.yields
  exact yields.closed

theorem act_closed (t : Traffic) (deed : Deed) :
    (t.act deed).2.queue.inlet.closed = true ↔ t.queue.inlet.closed = true ∨ deed = .close := by
  cases deed with
  | push line =>
    cases closed : t.queue.inlet.closed with
    | true => simp [push_closed t line closed, closed]
    | false => simp [push_open t line closed, closed]
  | close => simp [act, close]
  | receive => simp [polled_closed t _ _ (receive_polled t)]
  | run e => simp [polled_closed t _ _ (run_polled t e)]

theorem after_closed (deeds : List Deed) (t : Traffic) :
    (t.after deeds).queue.inlet.closed = true ↔ t.queue.inlet.closed = true ∨ Deed.close ∈ deeds := by
  induction deeds generalizing t with
  | nil => simp [after]
  | cons deed deeds ih =>
    have later := ih (t.act deed).2
    rw [act_closed, or_assoc] at later
    rw [List.mem_cons, eq_comm (a := Deed.close)]
    exact later

def Drained (t : Traffic) : Prop := t.queue.inlet = ⟨[], true⟩

theorem drained_receive (t : Traffic) (drained : t.Drained) :
    t.act .receive = (.received (.message .terminate), ⟨⟨⟨[], true⟩, t.queue.delivered ++ [.terminate]⟩, t.accepted⟩) := by
  obtain ⟨⟨q, delivered⟩, accepted⟩ := t
  cases drained
  rfl

theorem drained_run (t : Traffic) (e : Engine) (drained : t.Drained) :
    t.act (.run e) = (.ran .stopped, ⟨⟨⟨[], true⟩, t.queue.delivered ++ [.terminate]⟩, t.accepted⟩) := by
  have queue : t.queue.inlet = ⟨[], true⟩ := drained
  rw [act_run, queue, script_terminated _ rfl]
  rfl

theorem act_drained (t : Traffic) (deed : Deed) (drained : t.Drained) : (t.act deed).2.Drained := by
  cases deed with
  | push line => rwa [push_closed t line (congrArg LineQueue.closed drained)]
  | close => exact congrArg LineQueue.close drained
  | receive => rw [drained_receive t drained, Drained]
  | run e => rw [drained_run t e drained, Drained]

theorem after_drained (deeds : List Deed) (t : Traffic) (drained : t.Drained) : (t.after deeds).Drained := by
  induction deeds generalizing t with
  | nil => exact drained
  | cons deed deeds ih => exact ih _ (act_drained t deed drained)

-- Every line that a queue accepts, and it accepts none after it was closed, is read once and in its turn. Polls wait for
-- nothing but lines that are still to be pushed, and when there will be none they are handed the end of input for good.
theorem nothing_lost (deeds : List Deed) :
    let t := start.after deeds
    let queue := t.queue.inlet
    (∀ line, ∃ accepted, (t.act (.push line)).1 = .pushed accepted ∧ (accepted = true ↔ Deed.close ∉ deeds)) ∧
    (∃ read ends, t.accepted = read ++ queue.lines ∧
      t.queue.delivered = read.filterMap Inbound.ofLine? ++ List.replicate ends .terminate ∧
      (0 < ends → Deed.close ∈ deeds ∧ queue.lines = [])) ∧
    (∀ e, ∀ poll ∈ [Deed.receive, .run e], let (outcome, t') := t.act poll
      (outcome.Answers ∨ outcome.Waits) ∧
      (outcome.Waits → Deed.close ∉ deeds ∧ t'.queue.inlet.lines = [] ∧ t'.accepted = t.accepted)) ∧
    (Deed.close ∈ deeds → queue.lines = [] → ∀ later, let t := start.after (deeds ++ later)
      (t.act .receive).1 = .received (.message .terminate) ∧ ∀ e, (t.act (.run e)).1 = .ran .stopped ∧
        (t.act (.run e)).2.queue.delivered = t.queue.delivered ++ [.terminate]) := by
  intro t queue
  have closed : queue.closed = true ↔ Deed.close ∈ deeds := by
    rw [after_closed]
    simp [start, empty]
  have opened : queue.closed = false ↔ Deed.close ∉ deeds := by rw [← closed, Bool.not_eq_true]
  refine ⟨fun line => ?_, ?_, fun e poll member => ?_, fun shut drained later => ?_⟩
  · cases state : queue.closed with
    | true => exact ⟨false, congrArg Prod.fst (push_closed t line state), by simpa using closed.mp state⟩
    | false => exact ⟨true, congrArg Prod.fst (push_open t line state), by simpa using opened.mp state⟩
  · obtain ⟨read, ends, yields⟩ := after_accounted deeds start ⟨[], 0, yields_nothing _⟩
    refine ⟨read, ends, yields.lines, yields.messages, fun ended => ?_⟩
    obtain ⟨state, left⟩ := yields.ended ended
    exact ⟨closed.mp state, left⟩
  · have polled : t.Polled (t.act poll).1 (t.act poll).2 := by
      simp only [List.mem_cons, List.not_mem_nil, or_false] at member
      rcases member with rfl | rfl
      · exact receive_polled t
      · exact run_polled t e
    refine ⟨polled.answers.imp_right And.left, fun waits => ?_⟩
    obtain ⟨_, state, left⟩ := polled.answers.resolve_left (Outcome.waits_unanswered _ waits)
    exact ⟨opened.mp state, left, polled.accepted⟩
  · have now : t.Drained := congrArg₂ LineQueue.mk drained (closed.mpr shut)
    have still := after_drained later t now
    have continued : start.after (deeds ++ later) = t.after later := List.foldl_append
    intro t
    rw [← continued] at still
    exact ⟨congrArg Prod.fst (drained_receive t still), fun e => ⟨congrArg Prod.fst (drained_run t e still),
      congrArg (fun r => r.2.queue.delivered) (drained_run t e still)⟩⟩

-- A run that waits has skipped the blank line, one that is told to quit leaves the rest to the next, and the last line
-- comes too late.
example :
    let e := Engine.start RuleSet.empty NameMap.empty outlet
    let t := start.after [.push " ", .run e, .push "a = 1", .push "quit", .push "b", .run e, .close, .push "c", .run e, .receive]
    t.accepted = [" ", "a = 1", "quit", "b"] ∧
      t.queue = ⟨⟨[], true⟩, [.update "a" "1", .terminate, .query "b", .terminate, .terminate]⟩ := by
  decide +kernel

end Traffic
end LineQueue

end SignalRules
