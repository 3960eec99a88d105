set_option autoImplicit false

namespace SignalRules.Decimal

def isDigit (c : Char) : Bool := '0' ≤ c && c ≤ '9'
def digit (d : Nat) : Char := Char.ofNat (48 + d)

def digits (n : Nat) : List Char := if n < 10 then [digit n] else digits (n / 10) ++ [digit (n % 10)]
termination_by n
decreasing_by omega

def number (s : List Char) : Nat := s.foldl (fun n c => 10 * n + (c.toNat - 48)) 0

def text (n : Nat) : String := String.ofList (digits n)
def signedText (i : Int) : String := if i < 0 then "-" ++ text i.natAbs else text i.natAbs

def numberInBase? (base : Nat) (s : List Char) : Option Nat :=
  if s.isEmpty then none else s.foldlM (fun n c => (digitValue? c).bind fun d => if d < base then some (base * n + d) else none) 0
where
  digitValue? (c : Char) : Option Nat :=
    if isDigit c then some (c.toNat - 48)
    else if 'a' ≤ c && c ≤ 'f' then some (c.toNat - 87)
    else if 'A' ≤ c && c ≤ 'F' then some (c.toNat - 55)
    else none

theorem digit_toNat {d : Nat} (h : d < 10) : (digit d).toNat = 48 + d := by
  have valid : (48 + d).isValidChar := by left; omega
  unfold digit Char.ofNat
  rw [dif_pos valid]
  rfl

theorem number_append (s : List Char) (c : Char) : number (s ++ [c]) = 10 * number s + (c.toNat - 48) := by
  simp [number]

theorem number_digits (n : Nat) : number (digits n) = n := by
  induction n using Nat.strongRecOn with
  | _ n ih =>
    unfold digits
    split
    · rename_i h
      simp [number, digit_toNat h]
    · rename_i h
      rw [number_append, ih (n / 10) (by omega), digit_toNat (by omega)]
      omega

theorem isDigit_digit {d : Nat} (h : d < 10) : isDigit (digit d) = true := by
  have e := digit_toNat h
  simp only [isDigit, Bool.and_eq_true, decide_eq_true_eq]
  constructor
  · change (48 : Nat) ≤ (digit d).toNat
    omega
  · change (digit d).toNat ≤ 57
    omega

theorem isDigit_of_mem_digits {n : Nat} {c : Char} (h : c ∈ digits n) : isDigit c = true := by
  induction n using Nat.strongRecOn with
  | _ n ih =>
    unfold digits at h
    split at h
    · rename_i hn
      rw [List.mem_singleton.mp h]
      exact isDigit_digit hn
    · rcases List.mem_append.mp h with h | h
      · exact ih (n / 10) (by omega) h
      · rw [List.mem_singleton.mp h]
        exact isDigit_digit (by omega)

theorem digits_ne_nil (n : Nat) : digits n ≠ [] := by
  unfold digits
  split <;> simp

end SignalRules.Decimal
