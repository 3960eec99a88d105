import SignalRules.Engine.Run

set_option autoImplicit false

namespace SignalRules

structure Script (σ : Type) where
  messages : List (List Log.Entry × Inbound)
  ending : RunEnd
  notes : List Log.Entry
  rest : σ

def script {σ : Type} [Inlet σ] (s : σ) : Script σ :=
  let r := Inlet.receive s
  match _h : r.reception with
  | .waiting => ⟨[], .waiting, r.notes, r.rest⟩
  | .failed cause => ⟨[], .failed cause, r.notes, r.rest⟩
  | .message m =>
    if _hm : m = .terminate then ⟨[(r.notes, m)], .stopped, [], r.rest⟩
    else
      let later := script r.rest
      { later with messages := (r.notes, m) :: later.messages }
termination_by Inlet.size s
decreasing_by exact Inlet.size_lt s m _h _hm

section
variable {σ : Type} [Inlet σ] (s : σ)

theorem script_waiting (waits : (Inlet.receive s).reception = .waiting) :
    script s = ⟨[], .waiting, (Inlet.receive s).notes, (Inlet.receive s).rest⟩ := by
  rw [script]
  split <;> simp_all

theorem script_failed (cause : TransportError) (fails : (Inlet.receive s).reception = .failed cause) :
    script s = ⟨[], .failed cause, (Inlet.receive s).notes, (Inlet.receive s).rest⟩ := by
  rw [script]
  split <;> simp_all

theorem script_terminated (ends : (Inlet.receive s).reception = .message .terminate) :
    script s = ⟨[((Inlet.receive s).notes, .terminate)], .stopped, [], (Inlet.receive s).rest⟩ := by
  rw [script]
  split <;> simp_all

theorem script_message (m : Inbound) (arrives : (Inlet.receive s).reception = .message m) (more : m ≠ .terminate) :
    script s = { script (Inlet.receive s).rest with
      messages := ((Inlet.receive s).notes, m) :: (script (Inlet.receive s).rest).messages } := by
  rw [script]
  split <;> simp_all

end

namespace Engine

def receive (e : Engine) (message : List Log.Entry × Inbound) : Engine := ((e.note message.1).handle message.2).2

theorem note_nil (e : Engine) : e.note [] = e := by
  rw [note, List.append_nil]

theorem pump_script {σ : Type} [Inlet σ] (e : Engine) (s : σ) : e.pump s =
    ⟨(script s).ending, ((script s).messages.foldl receive e).note (script s).notes, (script s).rest⟩ := by
  fun_induction pump e s with
  | case1 e s r e' waits => rw [script_waiting s waits]; rfl
  | case2 e s r e' cause fails => rw [script_failed s cause fails]; rfl
  | case3 e s r e' ends e'' =>
    rw [script_terminated s ends, note_nil]
    rfl
  | case4 e s r e' m arrives e'' more ih =>
    rw [script_message s m arrives more, ih]
    rfl

theorem resume_engine {σ : Type} [Inlet σ] (e : Engine) (s : σ) :
    let pumped := ((script s).messages.foldl receive e).note (script s).notes
    (e.resume s).engine = if (script s).ending = .stopped then pumped.note [pumped.stopNote] else pumped := by
  intro pumped
  rw [resume, pump_script]
  cases (script s).ending with
  | waiting => rfl
  | failed cause => rfl
  | stopped => rfl

end Engine
end SignalRules
