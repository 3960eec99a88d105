import SignalRules.Transport.Relay
/-!
The two sides of a relay, each at its own pace. A courier reads the source, which may block it, and posts what it read
into the queue of the relay, which holds so many parcels and no more. A poll that finds nothing there waits for the
courier, and the input has ended once the courier is gone.
-/

set_option autoImplicit false

namespace SignalRules

-- What the courier does next. After the last read it leaves, and only then is the queue known to stay empty.
inductive Courier where
  | reading
  | posting (parcel : Parcel)
  | leaving
  | gone

namespace Courier

def afterRead : Option SourceRead → Courier
  | none => leaving
  | some (.data bytes) => if bytes.isEmpty then leaving else posting (.ok bytes)
  | some .interrupted => reading
  | some (.failed reason) => posting (.error reason)

def afterPost : Parcel → Courier
  | .ok _ => reading
  | .error _ => leaving

def isGone : Courier → Bool
  | gone => true
  | _ => false

end Courier

structure Handoff where
  source : List SourceRead
  courier : Courier
  relay : Relay

namespace Handoff

def slots : Nat := 16

def start (reads : List SourceRead) : Handoff := ⟨reads, .reading, ⟨[], [], 0⟩⟩

def advance (h : Handoff) : Handoff :=
  match h.courier with
  | .reading => { h with source := h.source.tail, courier := .afterRead h.source.head? }
  | .posting parcel =>
    if h.relay.parcels.length < slots then
      { h with courier := .afterPost parcel, relay := { h.relay with parcels := h.relay.parcels ++ [parcel] } }
    else h
  | .leaving | .gone => { h with courier := .gone }

-- Nothing is there to be handed over, and something may still come. No empty parcel is ever posted.
def waits (h : Handoff) : Bool := h.relay.size = 0 && !h.courier.isGone

def poll (capacity : Nat) (h : Handoff) : Option Parcel × Handoff :=
  if h.waits then (none, h)
  else
    let (answer, relay) := h.relay.poll capacity
    (some answer, { h with relay })

end Handoff
end SignalRules
