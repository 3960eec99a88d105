import SignalRules.Transport.Lines

set_option autoImplicit false

namespace SignalRules

-- The outcome of one read of a source. A source without further outcomes is at its end, and so is one that reads
-- no bytes.
inductive SourceRead where
  | data (bytes : List UInt8)
  | interrupted
  | failed (reason : String)
deriving DecidableEq, Repr

abbrev Parcel := Except String (List UInt8)

structure Relay where
  parcels : List Parcel
  pending : List UInt8
  offset : Nat

namespace Relay

def forward : List SourceRead → List Parcel
  | [] => []
  | .data bytes :: rest => if bytes.isEmpty then [] else .ok bytes :: forward rest
  | .interrupted :: rest => forward rest
  | .failed reason :: _ => [.error reason]

def start (reads : List SourceRead) : Relay := ⟨forward reads, [], 0⟩

def serve (capacity : Nat) (r : Relay) : Parcel × Relay :=
  (.ok ((r.pending.drop r.offset).take capacity), { r with offset := r.offset + min (r.pending.length - r.offset) capacity })

def openNext (capacity : Nat) : List Parcel → Parcel × Relay
  | [] => (.ok [], ⟨[], [], 0⟩)
  | .error reason :: rest => (.error reason, ⟨rest, [], 0⟩)
  | .ok bytes :: rest => if bytes.isEmpty then openNext capacity rest else serve capacity ⟨rest, bytes, 0⟩

def poll (capacity : Nat) (r : Relay) : Parcel × Relay :=
  if r.offset < r.pending.length then r.serve capacity else openNext capacity r.parcels

def size (r : Relay) : Nat :=
  r.parcels.foldr (fun p n => p.toOption.elim 1 List.length + n) (r.pending.length - r.offset)

def drain (capacity : Nat) (fuel : Nat) (r : Relay) : List UInt8 × FeedEnd :=
  match fuel, r.poll capacity with
  | 0, _ => ([], .closed)
  | _, (.error reason, _) => ([], .failsOnce reason)
  | fuel + 1, (.ok bytes, rest) =>
    if bytes.isEmpty then ([], .closed)
    else
      let (more, tail) := drain capacity fuel rest
      (bytes ++ more, tail)

def bufferSize : Nat := 8192

def feed (name : String) (reads : List SourceRead) : ByteFeed :=
  let r := start reads
  let (bytes, tail) := r.drain bufferSize (r.size + 1)
  ⟨name, bytes, tail⟩

end Relay
end SignalRules
