import SignalRules.Engine.Run
/-!
Serving until the transport ends or a shutdown signal arrives. Serving is polled: a poll looks at the run and at the
shutdown signal in either order, and goes on with the run as far as there are messages.
-/

set_option autoImplicit false

namespace SignalRules.Service

inductive Shutdown where
  | interrupt
  | terminate
deriving DecidableEq, Repr

def Shutdown.name : Shutdown → String
  | interrupt => "SIGINT"
  | terminate => "SIGTERM"

structure Poll (σ : Type) where
  arrive : σ → σ
  shutdown : Option Shutdown
  shutdownFirst : Bool

inductive ServeEnd where
  | finished
  | shutDown (s : Shutdown)
  | failed (e : TransportError)
  | serving
deriving DecidableEq, Repr

structure ServeState (σ : Type) where
  ending : ServeEnd
  engine : Engine
  inlet : σ

def stop {σ : Type} (e : Engine) (s : σ) (signal : Shutdown) : ServeState σ :=
  ⟨.shutDown signal, (e.note [(Log.info (signal.name ++ " received, stopping")).by .service]).close, s⟩

def advance {σ : Type} [Inlet σ] (started : Bool) (e : Engine) (s : σ) : RunState σ := if started then e.resume s else e.run s

-- A poll, and by how much the clock has moved on since the last one, if it has: delayed actions fall due while serving
-- waits.
structure Turn (σ : Type) extends Poll σ where
  pause : Option Nat

def pass (e : Engine) (pause : Option Nat) : Engine := pause.elim e e.advance

def serveTurns {σ : Type} [Inlet σ] (started : Bool) (e : Engine) (s : σ) : List (Turn σ) → ServeState σ
  | [] => ⟨.serving, e, s⟩
  | turn :: rest =>
    let e := pass e turn.pause
    let s := turn.arrive s
    match turn.shutdown, turn.shutdownFirst with
    | some signal, true => stop e s signal
    | shutdown, _ =>
      let r := advance started e s
      match r.ending, shutdown with
      | .stopped, _ => ⟨.finished, r.engine, r.inlet⟩
      | .failed cause, _ => ⟨.failed cause, r.engine, r.inlet⟩
      | .waiting, some signal => stop r.engine r.inlet signal
      | .waiting, none => serveTurns true r.engine r.inlet rest

def serve {σ : Type} [Inlet σ] (started : Bool) (e : Engine) (s : σ) (polls : List (Poll σ)) : ServeState σ :=
  serveTurns started e s (polls.map fun poll => ⟨poll, none⟩)

def failureChain (e : TransportError) : String := "Signal transport failed: " ++ e.message

end SignalRules.Service
