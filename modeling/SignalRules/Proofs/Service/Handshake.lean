import SignalRules.Proofs.Engine.Attendance
import SignalRules.Proofs.Engine.Writes
import SignalRules.Service.Serve
import SignalRules.Transport.Queue

set_option autoImplicit false

namespace SignalRules

namespace Service

def attended {σ : Type} : List (Turn σ) → List (σ → σ)
  | [] => []
  | turn :: rest =>
    match turn.shutdown with
    | some _ => if turn.shutdownFirst then [] else [turn.arrive]
    | none => turn.arrive :: attended rest

def shutdown? {σ : Type} (turns : List (Turn σ)) : Option Shutdown := turns.findSome? (·.shutdown)

def conclusion : RunEnd → Option Shutdown → ServeEnd
  | .stopped, _ => .finished
  | .failed cause, _ => .failed cause
  | .waiting, some signal => .shutDown signal
  | .waiting, none => .serving

def ServeEnd.isOk : ServeEnd → Bool
  | .finished => true
  | .shutDown _ => true
  | _ => false

def Concluded (before : Engine) (messages : List Inbound) (closes : Bool) (after : Engine) : Prop :=
  ∃ history e, before.Attends messages history e ∧ if closes then ∃ notes, after = e.close.note notes else after = e

theorem concluded_after (a b c : Engine) (messages messages' : List Inbound) (history : History) (closes : Bool)
    (attends : a.Attends messages history b) (concluded : Concluded b messages' closes c) :
    Concluded a (messages ++ messages') closes c := by
  obtain ⟨history', e, attends', ends⟩ := concluded
  exact ⟨_, e, Engine.attends_trans a b e _ _ _ _ attends attends', ends⟩

theorem stop_concluded {σ : Type} (e : Engine) (s : σ) (signal : Shutdown) :
    Concluded e [] true (stop e s signal).engine :=
  ⟨[], _, .note _ _ _ _ _ (.nothing _), [], (Engine.note_nil _).symm⟩

theorem pass_attends (e : Engine) (pause : Option Nat) : ∃ history, e.Attends [] history (pass e pause) := by
  cases pause with
  | none => exact ⟨[], .nothing e⟩
  | some ms => exact ⟨_, .pause _ _ _ _ ms (.nothing _)⟩

section
variable {σ : Type} [Inlet σ]

theorem advance_eq (started : Bool) (e : Engine) (s : σ) : ∃ notes, advance started e s = (e.note notes).resume s := by
  cases started with
  | false => exact ⟨_, rfl⟩
  | true => exact ⟨[], by rw [Engine.note_nil]; rfl⟩

theorem resume_concluded (e : Engine) (s : σ) (messages : List Inbound)
    (split : (script s).inbound = messages ++ if (script s).ending = .stopped then [.terminate] else []) :
    Concluded e messages ((script s).ending = .stopped) (e.resume s).engine := by
  rw [Engine.resume_engine]
  by_cases stopped : (script s).ending = .stopped
  · rw [if_pos stopped] at split ⊢
    obtain ⟨front, last, whole, before, terminates⟩ := List.map_eq_append_iff.mp split
    obtain ⟨⟨notes, message⟩, rfl, same⟩ := List.map_eq_singleton_iff.mp terminates
    obtain rfl : message = .terminate := same
    obtain ⟨history, attends⟩ := Engine.receive_attends front e
    rw [before] at attends
    refine ⟨history, _, Engine.attends_noted _ _ _ _ notes attends, ?_⟩
    rw [if_pos (decide_eq_true stopped), whole, List.foldl_append]
    exact ⟨_, Engine.note_note _ _ _⟩
  · rw [if_neg stopped] at split ⊢
    rw [List.append_nil] at split
    obtain ⟨history, attends⟩ := Engine.receive_attends (script s).messages e
    change e.Attends (script s).inbound history _ at attends
    rw [split] at attends
    refine ⟨history, _, Engine.attends_noted _ _ _ _ (script s).notes attends, ?_⟩
    rw [if_neg (by simpa using stopped)]

theorem advance_concluded (started : Bool) (e : Engine) (s : σ) :
    let r := advance started e s
    r.ending = (script s).ending ∧ r.inlet = (script s).rest ∧ ∃ messages, .terminate ∉ messages ∧
      (script s).inbound = messages ++ (if r.ending = .stopped then [.terminate] else []) ∧
      Concluded e messages (r.ending = .stopped) r.engine := by
  intro r
  obtain ⟨notes, advanced⟩ := advance_eq started e s
  obtain ⟨ending, rest, _⟩ := Engine.resume_script (e.note notes) s
  obtain ⟨messages, goes, split⟩ := script_up_to_termination s
  have concluded := resume_concluded (e.note notes) s messages split
  rw [← advanced] at ending rest concluded
  rw [← ending] at split concluded
  exact ⟨ending, rest, messages, goes, split,
    concluded_after e _ _ [] messages [] _ (.note _ _ _ _ notes (.nothing _)) concluded⟩

theorem serve_concluded (turns : List (Turn σ)) (started : Bool) (e : Engine) (s : σ) :
    let r := serveTurns started e s turns
    let heard := hear s (attended turns)
    r.ending = conclusion heard.ending (shutdown? turns) ∧ ∃ messages, .terminate ∉ messages ∧
      heard.messages = messages ++ (if heard.ending = .stopped then [.terminate] else []) ∧
      Concluded e messages r.ending.isOk r.engine := by
  induction turns generalizing started e s with
  | nil => exact ⟨rfl, [], by simp, rfl, [], e, .nothing e, rfl⟩
  | cons turn rest ih =>
    obtain ⟨history, passed⟩ := pass_attends e turn.pause
    obtain ⟨ending, left, messages, goes, split, concluded⟩ := advance_concluded started (pass e turn.pause) (turn.arrive s)
    rw [serveTurns, attended, shutdown?, List.findSome?_cons]
    generalize advance started (pass e turn.pause) (turn.arrive s) = r at ending left split concluded ⊢
    obtain ⟨ends, engine, inlet⟩ := r
    dsimp only at ending left split concluded
    subst left
    have after := concluded_after e _ engine [] messages history _ passed concluded
    cases turn.shutdown with
    | none =>
      simp only [hear, ← ending]
      cases ends with
      | stopped => exact ⟨rfl, messages, goes, split, after⟩
      | failed cause => exact ⟨rfl, messages, goes, split, after⟩
      | waiting =>
        obtain ⟨history', e', attends, same⟩ := after
        obtain rfl : engine = e' := same
        obtain ⟨ending', messages', goes', split', concluded'⟩ := ih true engine (script (turn.arrive s)).rest
        refine ⟨ending', messages ++ messages', ?_, ?_, ?_⟩
        · simp [goes, goes']
        · simp [split, split']
        · exact concluded_after e engine _ messages messages' history' _ attends concluded'
    | some signal =>
      cases turn.shutdownFirst with
      | true =>
        have closed := stop_concluded (pass e turn.pause) (turn.arrive s) signal
        exact ⟨rfl, [], by simp, rfl, concluded_after e _ _ [] [] history _ passed closed⟩
      | false =>
        simp only [Bool.false_eq_true, if_false, hear, ← ending]
        cases ends with
        | stopped => exact ⟨rfl, messages, goes, split, after⟩
        | failed cause => exact ⟨rfl, messages, goes, split, after⟩
        | waiting =>
          obtain ⟨history', e', attends, same⟩ := after
          obtain rfl : engine = e' := same
          have closed := stop_concluded engine (script (turn.arrive s)).rest signal
          have stopped := concluded_after e engine _ messages [] history' _ attends closed
          rw [List.append_nil] at stopped
          refine ⟨rfl, messages, goes, ?_, stopped⟩
          simp [split]

end

theorem close_handshake_once {σ : Type} [Inlet σ] (rules : RuleSet) (store : Store) (outlet : Outlet) (acts : List (Act σ))
    (s : σ) (turns : List (Turn σ)) :
    let e := acts.foldl Engine.act (Engine.start rules store outlet)
    let r := serveTurns false e s turns
    let heard := hear s (attended turns)
    r.ending = conclusion heard.ending (shutdown? turns) ∧
      ∃ messages history before, e.Attends messages history before ∧ .terminate ∉ messages ∧
        heard.messages = messages ++ (if heard.ending = .stopped then [.terminate] else []) ∧ history.Unclosed ∧
        if r.ending.isOk then
          e.Happened (history ++ [before.attempt none .close]) r.engine ∧ ∃ notes, r.engine = before.close.note notes
        else e.Happened history r.engine ∧ r.engine = before := by
  intro e r heard
  obtain ⟨ending, messages, goes, split, history, before, attends, ends⟩ := serve_concluded turns false e s
  have ready : (Engine.start rules store outlet).Ready := ⟨fun t member => (List.not_mem_nil member).elim, rfl⟩
  obtain ⟨session, ready⟩ := Engine.session_does (Engine.start rules store outlet) acts ready
  obtain ⟨served, ready⟩ := Engine.attends_does e before messages history attends ready
  refine ⟨ending, messages, history, before, attends, goes, split, ?_, ?_⟩
  · intro a made
    cases timed : a.timer with
    | none => exact Engine.attends_unclosed e before messages history attends goes a made timed
    | some t =>
      have whole := Engine.happened_trans _ e before _ history session served
      refine Engine.fired_not_close _ before _ rfl whole a ?_ t timed
      rw [History.attempts_append]
      exact List.mem_append_right _ made
  · by_cases ok : r.ending.isOk = true
    · rw [if_pos ok] at ends ⊢
      obtain ⟨notes, closed⟩ := ends
      have attempted := Engine.noted_does _ _ _ notes (Engine.close_does before)
      rw [closed]
      exact ⟨Engine.happened_trans e before _ history _ served (attempted ready).1, notes, rfl⟩
    · rw [if_neg ok] at ends ⊢
      obtain rfl : r.engine = before := ends
      exact ⟨served, rfl⟩

-- The signal comes while serving waits, along with an update that is no longer handled; the siren of the first update
-- would be due later.
example :
    let turns : List (Turn LineQueue) :=
      [⟨⟨fun q => ⟨q.lines ++ ["door=true", "alarm=true"], false⟩, none, false⟩, none⟩,
        ⟨⟨fun q => ⟨q.lines ++ ["door=true"], false⟩, some .interrupt, true⟩, some 3⟩]
    let served := serveTurns false (Engine.start doorRules NameMap.empty LineQueue.outlet) .empty turns
    served.ending = .shutDown .interrupt ∧ served.engine.updates = 2 ∧ served.engine.pending = 1 ∧
      served.engine.outlet.sent = [⟨0, ⟨"alarm", some (.bool true)⟩⟩, ⟨3, .close⟩] := by
  decide +kernel

end Service
end SignalRules
