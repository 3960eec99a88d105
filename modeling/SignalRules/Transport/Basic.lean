import SignalRules.Signal.Basic

set_option autoImplicit false

namespace SignalRules

inductive TransportError where
  | loadFailed (reason : String)
  | sendFailed (reason : String)
  | receiveFailed (reason : String)
deriving DecidableEq, Repr

def TransportError.message : TransportError → String
  | loadFailed reason => "Transport load failed: " ++ reason
  | sendFailed reason => "Send failed: " ++ reason
  | receiveFailed reason => "Receive failed: " ++ reason

inductive Reception where
  | message (m : Inbound)
  | waiting
  | failed (e : TransportError)
deriving DecidableEq, Repr

structure Received (σ : Type) where
  reception : Reception
  rest : σ
  notes : List Log.Entry

class Inlet (σ : Type) where
  receive : σ → Received σ
  size : σ → Nat
  size_lt (s : σ) (m : Inbound) : (receive s).reception = .message m → m ≠ .terminate → size (receive s).rest < size s

structure Delivery where
  time : Nat
  signal : Signal
deriving DecidableEq

-- Where signals go. `refuses` tells which attempts fail, counted from zero, and `reason` what such a failure says.
structure Outlet where
  name : String
  refuses : Nat → Bool
  reason : Signal → String
  attempts : Nat
  sent : List Delivery

namespace Outlet

def send (o : Outlet) (time : Nat) (signal : Signal) : Except TransportError Unit × Outlet :=
  if o.refuses o.attempts then (.error (.sendFailed (o.reason signal)), { o with attempts := o.attempts + 1 })
  else (.ok (), { o with attempts := o.attempts + 1, sent := o.sent ++ [⟨time, signal⟩] })

def lines (o : Outlet) : List String := o.sent.map (·.signal.wire)

end Outlet
end SignalRules
