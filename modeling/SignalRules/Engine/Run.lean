import SignalRules.Engine.Basic

set_option autoImplicit false

namespace SignalRules

inductive RunEnd where
  | stopped
  | waiting
  | failed (e : TransportError)
deriving DecidableEq, Repr

structure RunState (σ : Type) where
  ending : RunEnd
  engine : Engine
  inlet : σ

namespace Engine

def pump {σ : Type} [Inlet σ] (e : Engine) (s : σ) : RunState σ :=
  let r := Inlet.receive s
  let e := e.note r.notes
  match _h : r.reception with
  | .waiting => ⟨.waiting, e, r.rest⟩
  | .failed cause => ⟨.failed cause, e, r.rest⟩
  | .message m =>
    let e := (e.handle m).2
    if _hm : m = .terminate then ⟨.stopped, e, r.rest⟩ else pump e r.rest
termination_by Inlet.size s
decreasing_by exact Inlet.size_lt s m _h _hm

def startNote (e : Engine) : Log.Entry :=
  Log.info ("Dispatcher running on " ++ e.outlet.name ++ " transport: " ++ Decimal.text e.rules.size ++ " rules, " ++
    Decimal.text e.store.size ++ " signals in state")

def stopNote (e : Engine) : Log.Entry :=
  Log.info ("Dispatcher stopped after " ++ Decimal.text e.updates ++ " updates (" ++ Decimal.text e.pending ++
    " delayed actions pending)")

def resume {σ : Type} [Inlet σ] (e : Engine) (s : σ) : RunState σ :=
  let r := e.pump s
  match r.ending with
  | .stopped => { r with engine := r.engine.note [r.engine.stopNote] }
  | _ => r

def run {σ : Type} [Inlet σ] (e : Engine) (s : σ) : RunState σ := (e.note [e.startNote]).resume s

end Engine
end SignalRules
