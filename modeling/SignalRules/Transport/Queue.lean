import SignalRules.Transport.Basic

set_option autoImplicit false

namespace SignalRules

structure LineQueue where
  lines : List String
  closed : Bool
deriving DecidableEq, Repr

namespace LineQueue

def empty : LineQueue := ⟨[], false⟩

def push (q : LineQueue) (line : String) : Bool × LineQueue :=
  if q.closed then (false, q) else (true, { q with lines := q.lines ++ [line] })

def close (q : LineQueue) : LineQueue := { q with closed := true }

def take (closed : Bool) : List String → Received LineQueue
  | [] =>
    if closed then ⟨.message .terminate, ⟨[], true⟩, [Log.debug "memory: input closed"]⟩
    else ⟨.waiting, ⟨[], false⟩, []⟩
  | line :: rest =>
    let read := InboundLine.ofText line
    match read.message? with
    | some m => ⟨.message m, ⟨rest, closed⟩, read.notes⟩
    | none =>
      let later := take closed rest
      { later with notes := read.notes ++ later.notes }

def receive (q : LineQueue) : Received LineQueue := take q.closed q.lines

theorem length_take_lt (closed : Bool) (lines : List String) (m : Inbound)
    (h : (take closed lines).reception = .message m) (hm : m ≠ .terminate) :
    (take closed lines).rest.lines.length < lines.length := by
  induction lines with
  | nil =>
    cases closed
    · simp [take] at h
    · simp only [take, if_true, Reception.message.injEq] at h
      exact absurd h.symm hm
  | cons line rest ih =>
    cases hr : (InboundLine.ofText line).message? with
    | some m' => simp [take, hr]
    | none =>
      simp only [take, hr] at h ⊢
      exact Nat.lt_succ_of_lt (ih h)

instance : Inlet LineQueue where
  receive := receive
  size q := q.lines.length
  size_lt q m h hm := length_take_lt q.closed q.lines m h hm

def outlet : Outlet := ⟨"memory", fun _ => false, fun signal => "memory: rejected '" ++ signal.wire ++ "'", 0, []⟩

end LineQueue
end SignalRules
