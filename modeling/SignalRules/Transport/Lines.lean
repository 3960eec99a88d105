import SignalRules.Decimal.Natural
import SignalRules.Text.Utf8
import SignalRules.Transport.Basic

set_option autoImplicit false

namespace SignalRules

-- What comes after the bytes of a feed: the end of input, a failure and then the end, failures without end, or
-- bytes that are not there yet.
inductive FeedEnd where
  | closed
  | failsOnce (reason : String)
  | fails (reason : String)
  | unfinished
deriving DecidableEq, Repr

structure ByteFeed where
  name : String
  bytes : List UInt8
  tail : FeedEnd
deriving DecidableEq, Repr

def Text.Utf8.Fault.message (f : Text.Utf8.Fault) : String :=
  match f.length with
  | some n => "invalid utf-8 sequence of " ++ Decimal.text n ++ " bytes from index " ++ Decimal.text f.index
  | none => "incomplete utf-8 byte sequence from index " ++ Decimal.text f.index

namespace ByteFeed

def newline : UInt8 := 10

def cutLine : List UInt8 → Option (List UInt8 × List UInt8)
  | [] => none
  | b :: rest => if b = newline then some ([b], rest) else (cutLine rest).map fun (line, rest) => (b :: line, rest)

theorem length_cutLine {bytes line rest : List UInt8} (h : cutLine bytes = some (line, rest)) : rest.length < bytes.length := by
  induction bytes generalizing line rest with
  | nil => simp [cutLine] at h
  | cons b tail ih =>
    by_cases hb : b = newline
    · simp only [cutLine, hb, if_true, Option.some.injEq, Prod.mk.injEq] at h
      simp [← h.2]
    · simp only [cutLine, hb, if_false, Option.map_eq_some_iff, Prod.exists, Prod.mk.injEq] at h
      obtain ⟨l, r, hc, hl, hr⟩ := h
      exact hr ▸ Nat.lt_succ_of_lt (ih hc)

def readLine (name : String) (line : List UInt8) : Option Inbound × List Log.Entry :=
  match Text.Utf8.decode line with
  | .error fault => (none, [Log.warn ("Malformed inbound line on " ++ name ++ ": " ++ fault.message)])
  | .ok text =>
    let read := InboundLine.ofTrimmed (Text.trim text)
    (read.message?, read.notes)

def atEnd (name : String) (bytes : List UInt8) : FeedEnd → Received ByteFeed
  | .closed => ⟨.message .terminate, ⟨name, [], .closed⟩, [Log.debug (name ++ ": end of input")]⟩
  | .failsOnce reason => ⟨.failed (.receiveFailed (name ++ ": " ++ reason)), ⟨name, [], .closed⟩, []⟩
  | .fails reason => ⟨.failed (.receiveFailed (name ++ ": " ++ reason)), ⟨name, [], .fails reason⟩, []⟩
  | .unfinished => ⟨.waiting, ⟨name, bytes, .unfinished⟩, []⟩

theorem eq_terminate_of_atEnd {name : String} {bytes : List UInt8} {tail : FeedEnd} {m : Inbound}
    (h : (atEnd name bytes tail).reception = .message m) : m = .terminate := by
  cases tail <;> simp [atEnd] at h
  exact h.symm

def take (name : String) (tail : FeedEnd) (bytes : List UInt8) : Received ByteFeed :=
  match _h : cutLine bytes with
  | some (line, rest) =>
    let (m, notes) := readLine name line
    match m with
    | some m => ⟨.message m, ⟨name, rest, tail⟩, notes⟩
    | none =>
      let later := take name tail rest
      { later with notes := notes ++ later.notes }
  | none =>
    -- Only at a proper end of input do the bytes after the last newline count as a line.
    if bytes.isEmpty || tail != .closed then atEnd name bytes tail
    else
      let (m, notes) := readLine name bytes
      match m with
      | some m => ⟨.message m, ⟨name, [], tail⟩, notes⟩
      | none =>
        let later := atEnd name [] tail
        { later with notes := notes ++ later.notes }
termination_by bytes.length
decreasing_by exact length_cutLine _h

def receive (f : ByteFeed) : Received ByteFeed := take f.name f.tail f.bytes

theorem length_take_lt (name : String) (tail : FeedEnd) (bytes : List UInt8) (m : Inbound)
    (h : (take name tail bytes).reception = .message m) (hm : m ≠ .terminate) :
    (take name tail bytes).rest.bytes.length < bytes.length := by
  fun_induction take name tail bytes with
  | case1 bytes line rest hcut m' notes hread => exact length_cutLine hcut
  | case2 bytes line rest hcut notes hread later ih => exact Nat.lt_trans (ih h) (length_cutLine hcut)
  | case3 bytes hcut hend => exact absurd (eq_terminate_of_atEnd h) hm
  | case4 bytes hcut hend m' notes hread =>
    cases bytes
    · simp at hend
    · simp
  | case5 bytes hcut hend notes hread later => exact absurd (eq_terminate_of_atEnd h) hm

instance : Inlet ByteFeed where
  receive := receive
  size f := f.bytes.length
  size_lt f m h hm := length_take_lt f.name f.tail f.bytes m h hm

def outlet (name : String) (refuses : Nat → Bool) (reason : String) : Outlet :=
  ⟨name, refuses, fun _ => name ++ ": " ++ reason, 0, []⟩

def written (o : Outlet) : String := String.join (o.lines.map (· ++ "\n"))

end ByteFeed
end SignalRules
