set_option autoImplicit false

namespace SignalRules.Text.Utf8

-- Bytes that are no character: `length` of them rule it out, or the text ends in the middle of one.
structure Fault where
  index : Nat
  length : Option Nat
deriving DecidableEq, Repr

def following? (first : Nat) : Option (List (Nat × Nat)) :=
  let tail := (0x80, 0xBF)
  if first ≤ 0x7F then some []
  else if 0xC2 ≤ first && first ≤ 0xDF then some [tail]
  else if first == 0xE0 then some [(0xA0, 0xBF), tail]
  else if first == 0xED then some [(0x80, 0x9F), tail]
  else if 0xE1 ≤ first && first ≤ 0xEF then some [tail, tail]
  else if first == 0xF0 then some [(0x90, 0xBF), tail, tail]
  else if 0xF1 ≤ first && first ≤ 0xF3 then some [tail, tail, tail]
  else if first == 0xF4 then some [(0x80, 0x8F), tail, tail]
  else none

def leadBits (first : Nat) : Nat :=
  if first ≤ 0x7F then first else if first ≤ 0xDF then first % 32 else if first ≤ 0xEF then first % 16 else first % 8

def follow (seen code : Nat) : List (Nat × Nat) → List UInt8 → Except (Option Nat) Nat
  | [], _ => .ok code
  | _ :: _, [] => .error none
  | (low, high) :: ranges, b :: rest =>
    if low ≤ b.toNat && b.toNat ≤ high then follow (seen + 1) (code * 64 + b.toNat % 64) ranges rest else .error (some seen)

def decodeFrom (index : Nat) : List UInt8 → Except Fault (List Char)
  | [] => .ok []
  | b :: rest =>
    match following? b.toNat with
    | none => .error ⟨index, some 1⟩
    | some ranges =>
      match follow 1 (leadBits b.toNat) ranges rest with
      | .error length => .error ⟨index, length⟩
      | .ok code =>
        match decodeFrom (index + 1 + ranges.length) (rest.drop ranges.length) with
        | .error fault => .error fault
        | .ok cs => .ok (Char.ofNat code :: cs)
termination_by bytes => bytes.length
decreasing_by simp only [List.length_cons, List.length_drop]; omega

def decode (bytes : List UInt8) : Except Fault (List Char) := decodeFrom 0 bytes

def encode (s : String) : List UInt8 := s.toUTF8.toList

end SignalRules.Text.Utf8
