import SignalRules.Proofs.Engine.Delays

set_option autoImplicit false

namespace SignalRules

def Inbound.isUpdate : Inbound → Bool
  | .update _ _ => true
  | _ => false

def Store.heed (store : Store) : Inbound → Store
  | .update name raw => store.insert name (Value.ofText raw)
  | _ => store

namespace Engine

structure Heeded (before : Engine) (messages : List Inbound) (after : Engine) : Prop where
  store : after.store = messages.foldl Store.heed before.store
  updates : after.updates = before.updates + messages.countP Inbound.isUpdate

structure SameState (e e' : Engine) : Prop where
  store : e.store = e'.store
  updates : e.updates = e'.updates
  answers : ∀ name, (e.handle (.query name)).1 = (e'.handle (.query name)).1

def meet (e : Engine) (pauses : Nat → Nat) : List Inbound → Engine
  | [] => e
  | message :: rest => meet ((e.advance (pauses 0)).handle message).2 (fun i => pauses (i + 1)) rest

-- A run that waits is taken up again after a pause, when more may have arrived at what the inlet still holds.
def takeUp {σ : Type} [Inlet σ] (e : Engine) (pauses : Nat → Nat) (s : σ) : List (σ → σ) → RunState σ
  | [] => ⟨.waiting, e, s⟩
  | arrive :: later =>
    let r := (e.advance (pauses 0)).resume (arrive s)
    match r.ending with
    | .waiting => takeUp r.engine (fun i => pauses (i + 1)) r.inlet later
    | _ => r

def runPaced {σ : Type} [Inlet σ] (e : Engine) (pauses : Nat → Nat) (s : σ) (arrivals : List (σ → σ)) : RunState σ :=
  takeUp (e.note [e.startNote]) pauses s arrivals

end Engine

def Script.inbound {σ : Type} (s : Script σ) : List Inbound := s.messages.map (·.2)

structure Hearing (σ : Type) where
  messages : List Inbound
  ending : RunEnd
  rest : σ

def hear {σ : Type} [Inlet σ] (s : σ) : List (σ → σ) → Hearing σ
  | [] => ⟨[], .waiting, s⟩
  | arrive :: later =>
    let now := script (arrive s)
    match now.ending with
    | .waiting =>
      let more := hear now.rest later
      { more with messages := now.inbound ++ more.messages }
    | ending => ⟨now.inbound, ending, now.rest⟩

def UpToTermination (messages : List Inbound) (ending : RunEnd) : Prop :=
  ∃ front, .terminate ∉ front ∧ messages = front ++ if ending = .stopped then [.terminate] else []

theorem script_up_to_termination {σ : Type} [Inlet σ] (s : σ) : UpToTermination (script s).inbound (script s).ending := by
  fun_induction script s with
  | case1 s r waits => exact ⟨[], by simp, rfl⟩
  | case2 s r cause fails => exact ⟨[], by simp, rfl⟩
  | case3 s r ends => exact ⟨[], by simp, rfl⟩
  | case4 s r m arrives more later ih =>
    obtain ⟨front, unstopped, messages⟩ := ih
    refine ⟨m :: front, by simp [unstopped, Ne.symm more], ?_⟩
    change m :: later.inbound = _
    rw [messages, List.cons_append]

theorem hear_up_to_termination {σ : Type} [Inlet σ] (arrivals : List (σ → σ)) (s : σ) :
    UpToTermination (hear s arrivals).messages (hear s arrivals).ending := by
  induction arrivals generalizing s with
  | nil => exact ⟨[], by simp, rfl⟩
  | cons arrive later ih =>
    have now := script_up_to_termination (arrive s)
    rw [hear]
    cases ending : (script (arrive s)).ending with
    | stopped => rwa [ending] at now
    | failed cause => rwa [ending] at now
    | waiting =>
      rw [ending] at now
      obtain ⟨front, unstopped, messages⟩ := now
      obtain ⟨front', unstopped', messages'⟩ := ih (script (arrive s)).rest
      refine ⟨front ++ front', by simp [unstopped, unstopped'], ?_⟩
      dsimp only
      rw [messages, messages']
      simp

namespace Engine

theorem heeded_nothing (before after : Engine) (store : after.store = before.store) (updates : after.updates = before.updates) :
    before.Heeded [] after :=
  ⟨store, updates⟩

theorem heeded_trans (a b c : Engine) (front back : List Inbound) (first : a.Heeded front b) (second : b.Heeded back c) :
    a.Heeded (front ++ back) c := by
  constructor
  · rw [second.store, first.store, List.foldl_append]
  · rw [second.updates, first.updates, List.countP_append, Nat.add_assoc]

theorem note_heeded (e : Engine) (notes : List Log.Entry) : e.Heeded [] (e.note notes) := heeded_nothing e _ rfl rfl

theorem noted_heeded (before after : Engine) (messages : List Inbound) (notes : List Log.Entry)
    (heeded : before.Heeded messages after) : before.Heeded messages (after.note notes) :=
  ⟨heeded.store, heeded.updates⟩

theorem advance_heeded (e : Engine) (ms : Nat) : e.Heeded [] (e.advance ms) :=
  heeded_nothing e _ (advance_unwritten e ms).1 (advance_unwritten e ms).2

-- Whatever the rules are and whether the index knows them or not: those that are considered leave the store alone.
theorem dispatch_written (e : Engine) (signal : String) (value : Value) :
    (e.dispatch signal value).2.store = e.store.insert signal value ∧ (e.dispatch signal value).2.updates = e.updates + 1 := by
  have considered := consider_all_executed (e.rules.dependents signal) (e.write signal value)
  exact ⟨considered.store, considered.updates⟩

theorem close_heeded (e : Engine) : e.Heeded [] e.close := by
  obtain ⟨notes, closed⟩ := close_fields e
  rw [closed]
  exact heeded_nothing e _ rfl rfl

theorem query_answer (e : Engine) (name : String) : (e.handle (.query name)).1 = .queried (e.store.get? name) := by
  simp only [handle, query]
  cases e.store.get? name with
  | none => rfl
  | some value => rfl

theorem query_heeded (e : Engine) (name : String) : e.Heeded [] (e.query name).2 := by
  unfold query
  cases e.store.get? name with
  | none => exact note_heeded e _
  | some value => exact note_heeded e _

theorem handle_heeded (e : Engine) (message : Inbound) : e.Heeded [message] (e.handle message).2 := by
  cases message with
  | update name raw => exact ⟨(dispatch_written e name (Value.ofText raw)).1, (dispatch_written e name (Value.ofText raw)).2⟩
  | query name => exact ⟨(query_heeded e name).store, (query_heeded e name).updates⟩
  | terminate => exact ⟨(close_heeded e).store, (close_heeded e).updates⟩

theorem receive_heeded (messages : List (List Log.Entry × Inbound)) (e : Engine) :
    e.Heeded (messages.map (·.2)) (messages.foldl receive e) := by
  induction messages generalizing e with
  | nil => exact heeded_nothing e e rfl rfl
  | cons message messages ih =>
    have noted := heeded_trans e _ _ [] [message.2] (note_heeded e message.1) (handle_heeded _ message.2)
    exact heeded_trans e _ _ [message.2] _ noted (ih (e.receive message))

theorem resume_script {σ : Type} [Inlet σ] (e : Engine) (s : σ) :
    (e.resume s).ending = (script s).ending ∧ (e.resume s).inlet = (script s).rest ∧
      e.Heeded (script s).inbound (e.resume s).engine := by
  have pumped := noted_heeded e _ _ (script s).notes (receive_heeded (script s).messages e)
  unfold resume
  rw [pump_script]
  cases ending : (script s).ending with
  | waiting => exact ⟨rfl, rfl, pumped⟩
  | failed cause => exact ⟨rfl, rfl, pumped⟩
  | stopped => exact ⟨rfl, rfl, noted_heeded e _ _ _ pumped⟩

theorem meet_heeded (messages : List Inbound) (pauses : Nat → Nat) (e : Engine) :
    e.Heeded messages (e.meet pauses messages) := by
  induction messages generalizing pauses e with
  | nil => exact heeded_nothing e e rfl rfl
  | cons message messages ih =>
    have handled := heeded_trans e _ _ [] [message] (advance_heeded e (pauses 0)) (handle_heeded _ message)
    exact heeded_trans e _ _ [message] _ handled (ih _ _)

theorem take_up_hearing {σ : Type} [Inlet σ] (arrivals : List (σ → σ)) (pauses : Nat → Nat) (e : Engine) (s : σ) :
    (e.takeUp pauses s arrivals).ending = (hear s arrivals).ending ∧
      (e.takeUp pauses s arrivals).inlet = (hear s arrivals).rest ∧
      e.Heeded (hear s arrivals).messages (e.takeUp pauses s arrivals).engine := by
  induction arrivals generalizing pauses e s with
  | nil => exact ⟨rfl, rfl, heeded_nothing e e rfl rfl⟩
  | cons arrive later ih =>
    obtain ⟨ending, rest, resumed⟩ := resume_script (e.advance (pauses 0)) (arrive s)
    have heeded := heeded_trans e _ _ [] _ (advance_heeded e (pauses 0)) resumed
    rw [takeUp, hear]
    dsimp only
    rw [ending]
    cases ends : (script (arrive s)).ending with
    | stopped => exact ⟨ending.trans ends, rest, heeded⟩
    | failed cause => exact ⟨ending.trans ends, rest, heeded⟩
    | waiting =>
      rw [rest]
      obtain ⟨ending', rest', heeded'⟩ := ih (fun i => pauses (i + 1)) ((e.advance (pauses 0)).resume (arrive s)).engine
        (script (arrive s)).rest
      exact ⟨ending', rest', heeded_trans e _ _ _ _ heeded heeded'⟩

theorem run_paced_hearing {σ : Type} [Inlet σ] (arrivals : List (σ → σ)) (pauses : Nat → Nat) (e : Engine) (s : σ) :
    (e.runPaced pauses s arrivals).ending = (hear s arrivals).ending ∧
      (e.runPaced pauses s arrivals).inlet = (hear s arrivals).rest ∧
      e.Heeded (hear s arrivals).messages (e.runPaced pauses s arrivals).engine := by
  obtain ⟨ending, rest, heeded⟩ := take_up_hearing arrivals pauses (e.note [e.startNote]) s
  exact ⟨ending, rest, heeded_trans e _ _ [] _ (note_heeded e _) heeded⟩

theorem heeded_same (e e' after after' : Engine) (messages : List Inbound) (store : e.store = e'.store)
    (updates : e.updates = e'.updates) (heeded : e.Heeded messages after) (heeded' : e'.Heeded messages after') :
    SameState after after' := by
  have same : after.store = after'.store := by rw [heeded.store, heeded'.store, store]
  refine ⟨same, ?_, ?_⟩
  · rw [heeded.updates, heeded'.updates, updates]
  · intro name
    rw [query_answer, query_answer, same]

end Engine

theorem rules_never_influence_store {σ : Type} [Inlet σ] (rules rules' : RuleSet) (store : Store) (outlet outlet' : Outlet)
    (pauses pauses' : Nat → Nat) :
    let e := Engine.start rules store outlet
    let e' := Engine.start rules' store outlet'
    (∀ messages : List Inbound,
      Engine.SameState (e.meet pauses messages) (e'.meet pauses' messages) ∧ e.Heeded messages (e.meet pauses messages)) ∧
    ∀ (s : σ) (arrivals : List (σ → σ)),
      let r := e.runPaced pauses s arrivals
      let r' := e'.runPaced pauses' s arrivals
      let messages := (hear s arrivals).messages
      r.ending = r'.ending ∧ r.inlet = r'.inlet ∧ Engine.SameState r.engine r'.engine ∧
        UpToTermination messages r.ending ∧ e.Heeded messages r.engine := by
  intro e e'
  constructor
  · intro messages
    have heeded := Engine.meet_heeded messages pauses e
    exact ⟨Engine.heeded_same e e' _ _ messages rfl rfl heeded (Engine.meet_heeded messages pauses' e'), heeded⟩
  · intro s arrivals r r' messages
    obtain ⟨ending, rest, heeded⟩ := Engine.run_paced_hearing arrivals pauses e s
    obtain ⟨ending', rest', heeded'⟩ := Engine.run_paced_hearing arrivals pauses' e' s
    have same := Engine.heeded_same e e' _ _ messages rfl rfl heeded heeded'
    have stops : UpToTermination messages r.ending := by
      rw [ending]
      exact hear_up_to_termination arrivals s
    exact ⟨ending.trans ending'.symm, rest.trans rest'.symm, same, stops, heeded⟩

end SignalRules
