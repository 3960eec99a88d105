import SignalRules.Proofs.Binary64.PointedText

set_option autoImplicit false

namespace SignalRules.Decimal

theorem digits_bounds (n : Nat) (positive : 0 < n) : 10 ^ ((digits n).length - 1) ≤ n ∧ n < 10 ^ (digits n).length := by
  induction n using Nat.strongRecOn with
  | _ n ih =>
    rw [digits]
    by_cases single : n < 10
    · rw [if_pos single]
      exact ⟨positive, single⟩
    · rw [if_neg single, List.length_append, List.length_singleton, Nat.add_sub_cancel]
      obtain ⟨low, high⟩ := ih (n / 10) (by omega) (by omega)
      obtain ⟨length, counted⟩ : ∃ length, (digits (n / 10)).length = length + 1 :=
        Nat.exists_eq_add_one.mpr (List.length_pos_iff.mpr (digits_ne_nil _))
      rw [counted] at low high ⊢
      rw [Nat.add_sub_cancel] at low
      rw [Nat.pow_succ] at high ⊢
      rw [Nat.pow_succ _ (length + 1), Nat.pow_succ]
      omega

theorem power_le_iff (m shift power : Nat) (positive : 0 < m) :
    10 ^ power ≤ m * 10 ^ shift ↔ power < shift + (digits m).length := by
  obtain ⟨low, high⟩ := digits_bounds m positive
  have scaled : 0 < 10 ^ shift := Nat.pow_pos (by decide)
  constructor
  · intro reached
    refine Nat.lt_of_not_le fun short => ?_
    have below := Nat.mul_lt_mul_of_pos_right high scaled
    have above : 10 ^ ((digits m).length + shift) ≤ 10 ^ power := Nat.pow_le_pow_right (by decide) (by omega)
    rw [Nat.pow_add] at above
    omega
  · intro long
    calc 10 ^ power ≤ 10 ^ ((digits m).length - 1 + shift) := Nat.pow_le_pow_right (by decide) (by omega)
      _ = 10 ^ ((digits m).length - 1) * 10 ^ shift := Nat.pow_add 10 _ shift
      _ ≤ m * 10 ^ shift := Nat.mul_le_mul_right _ low

end SignalRules.Decimal

namespace SignalRules.Binary64
open SignalRules.Decimal (digits number isDigit)

def Plain : Binary64 → Prop
  | finite _ rank => rank.val = 0 ∨ 2 ^ 1074 ≤ units rank.val * 10 ^ 5 ∧ units rank.val < 10 ^ 16 * 2 ^ 1074
  | _ => False

instance (x : Binary64) : Decidable x.Plain :=
  match x with
  | finite _ rank =>
    inferInstanceAs (Decidable (rank.val = 0 ∨ 2 ^ 1074 ≤ units rank.val * 10 ^ 5 ∧ units rank.val < 10 ^ 16 * 2 ^ 1074))
  | nan | infinity _ => isFalse id

theorem around_lt (bias a b p q : Nat) (less : a < b) (first : Around bias a p) (second : Around bias b q) : p < q := by
  obtain ⟨_, high, tieA⟩ := within_bounds _ _ _ _ first
  obtain ⟨low, _, tieB⟩ := within_bounds _ _ _ _ second
  have five : 0 < Nat.pow 5 bias := Nat.pow_pos (by decide)
  have middle := Nat.mul_le_mul_right (Nat.pow 5 bias) (twice_high_le_low a b less)
  refine Nat.lt_of_le_of_ne (by omega) fun same => ?_
  -- Both decimals would be the midpoint between the ranks, which belongs to the even one alone.
  have evenA : a % 2 = 0 := by simpa using tieA (.inr (by omega))
  have evenB : b % 2 = 0 := by simpa using tieB (.inl (by omega))
  have apart := Nat.mul_lt_mul_of_pos_right (twice_high_lt_low a b (by omega)) five
  omega

theorem shortest_filled (bias : Nat) (tie : Tie) (rank : Nat) (positive : 0 < rank) : 0 < (shortestMultiple bias tie rank).1 := by
  obtain ⟨low, _, _⟩ := within_bounds _ _ _ _ (shortest_multiple_around bias tie rank positive)
  have less := units_lt (rank - 1) rank (by omega)
  have twice : 0 < twiceLow rank * Nat.pow 5 bias := Nat.mul_pos (by rw [twiceLow]; omega) (Nat.pow_pos (by decide))
  refine Nat.pos_of_ne_zero fun zero => ?_
  rw [zero, Nat.zero_mul] at low
  omega

theorem power_rank_iff (mark power rank : Nat) (marked : 0 < mark) (found : shortestMultiple 1074 .even mark = (1, power))
    (positive : 0 < rank) : 10 ^ power ≤ (shortestMultiple 1074 .even rank).1 * 10 ^ (shortestMultiple 1074 .even rank).2 ↔
      mark ≤ rank := by
  have markAround := shortest_multiple_around 1074 .even mark marked
  have rankAround := shortest_multiple_around 1074 .even rank positive
  rw [found] at markAround
  dsimp only at markAround
  rcases Nat.lt_trichotomy rank mark with less | rfl | more
  · have apart := around_lt 1074 rank mark _ _ less rankAround markAround
    omega
  · rw [found]
    dsimp only
    omega
  · have apart := around_lt 1074 mark rank _ _ more markAround rankAround
    omega

-- The ranks of 10 ^ -5 and of 10 ^ 16.
def leastPlain : Nat := 4532020583610935537
def pastPlain : Nat := 4846369599423283200

theorem least_plain_power : shortestMultiple 1074 .even leastPlain = (1, 1074 - 5) := by decide +kernel
theorem past_plain_power : shortestMultiple 1074 .even pastPlain = (1, 1074 + 16) := by decide +kernel

theorem least_plain_units : 2 ^ 1074 ≤ units leastPlain * 10 ^ 5 ∧ units (leastPlain - 1) * 10 ^ 5 < 2 ^ 1074 := by
  decide +kernel

theorem past_plain_units : units pastPlain = 10 ^ 16 * 2 ^ 1074 := by decide +kernel

theorem plain_iff (negative : Bool) (rank : Fin limit) :
    (finite negative rank).Plain ↔ rank.val = 0 ∨ leastPlain ≤ rank.val ∧ rank.val < pastPlain := by
  have low : 2 ^ 1074 ≤ units rank.val * 10 ^ 5 ↔ leastPlain ≤ rank.val := by
    constructor
    · intro reached
      refine Nat.le_of_not_lt fun less => ?_
      have below := units_le rank.val (leastPlain - 1) (by omega)
      have bound := least_plain_units.2
      omega
    · exact fun le => Nat.le_trans least_plain_units.1 (Nat.mul_le_mul_right _ (units_le leastPlain rank.val le))
  have high : units rank.val < 10 ^ 16 * 2 ^ 1074 ↔ rank.val < pastPlain := by
    rw [← past_plain_units]
    constructor
    · intro less
      refine Nat.lt_of_not_le fun le => ?_
      have above := units_le pastPlain rank.val le
      omega
    · exact units_lt rank.val pastPlain
  rw [Plain, low, high]

structure Marked (text : List Char) : Prop where
  shape : ∃ c rest, text = c :: rest ∧ (isDigit c = true ∨ c = '-') ∧ 'e' ∈ rest ∧
    ∀ d ∈ rest, isDigit d = true ∨ d ∈ ['.', '-', 'e']

theorem marked_sign (negative : Bool) (text : List Char) (marked : Marked text) : Marked (sign negative ++ text) := by
  cases negative with
  | false => exact marked
  | true =>
    obtain ⟨c, rest, rfl, start, mark, parts⟩ := marked.shape
    have first : isDigit c = true ∨ c ∈ ['.', '-', 'e'] := start.imp_right fun minus => by simp [minus]
    exact ⟨'-', c :: rest, rfl, .inr rfl, List.mem_cons_of_mem c mark, List.forall_mem_cons.mpr ⟨first, parts⟩⟩

theorem compact_pointed (ds : List Char) (exponent : Int) (all_digits : ∀ c ∈ ds, isDigit c = true) (nonempty : ds ≠ [])
    (inside : -5 < exponent + ds.length ∧ exponent + ds.length ≤ 16) :
    compact ds exponent = pointed (positional ds exponent) := by
  have length := List.length_pos_iff.mpr nonempty
  rw [compact]
  dsimp only
  by_cases whole : 0 ≤ exponent
  · have padded : ∀ c ∈ positional ds exponent, isDigit c = true := by
      rw [positional, if_pos whole]
      intro c member
      rcases List.mem_append.mp member with left | right
      · exact all_digits c left
      · exact zeros_digit _ c right
    rw [if_pos ⟨whole, inside.2⟩, pointed_whole _ padded]
  · have broken : (positional ds exponent).contains '.' = true := by
      rw [positional, if_neg whole]
      dsimp only
      split <;> simp
    rw [if_neg (fun both => whole both.1), if_pos inside, pointed, if_pos broken]

theorem exponent_text_parts (e : Int) (c : Char) (member : c ∈ exponentText e) : isDigit c = true ∨ c ∈ ['.', '-', 'e'] := by
  rw [exponentText] at member
  rcases List.mem_append.mp member with minus | digit
  · unfold sign at minus
    split at minus
    · rw [List.mem_singleton.mp minus]
      exact .inr (by decide)
    · cases minus
  · exact .inl (SignalRules.Decimal.isDigit_of_mem_digits digit)

theorem compact_marked (ds : List Char) (exponent : Int) (all_digits : ∀ c ∈ ds, isDigit c = true) (nonempty : ds ≠ [])
    (outside : ¬(-5 < exponent + ds.length ∧ exponent + ds.length ≤ 16)) : Marked (compact ds exponent) := by
  obtain ⟨c, tail, rfl⟩ := List.exists_cons_of_ne_nil nonempty
  have unwhole : ¬(0 ≤ exponent ∧ exponent + (c :: tail).length ≤ 16) := fun both => outside ⟨by omega, both.2⟩
  obtain ⟨first, later⟩ := List.forall_mem_cons.mp all_digits
  rw [compact]
  dsimp only
  rw [if_neg unwhole, if_neg outside]
  have fraction : ∀ d ∈ (if tail.isEmpty then [] else '.' :: tail), isDigit d = true ∨ d ∈ ['.', '-', 'e'] := by
    intro d member
    split at member
    · cases member
    · rcases List.mem_cons.mp member with rfl | inside
      · exact .inr (by decide)
      · exact .inl (later d inside)
  refine ⟨c, (if tail.isEmpty then [] else '.' :: tail) ++ 'e' :: exponentText _, rfl, .inl first, by simp, fun d member => ?_⟩
  rcases List.mem_append.mp member with before | mark
  · exact fraction d before
  · rcases List.mem_cons.mp mark with rfl | after
    · exact .inr (by decide)
    · exact exponent_text_parts _ d after

section
variable (negative : Bool) (rank : Fin limit)

theorem plain_digits (positive : 0 < rank.val) : (finite negative rank).Plain ↔
    -5 < (shortest .even rank.val).exponent + (digits (shortest .even rank.val).digits).length ∧
      (shortest .even rank.val).exponent + (digits (shortest .even rank.val).digits).length ≤ 16 := by
  have least := power_rank_iff leastPlain (1074 - 5) rank.val (by decide) least_plain_power positive
  have past := power_rank_iff pastPlain (1074 + 16) rank.val (by decide) past_plain_power positive
  have filled := shortest_filled 1074 .even rank.val positive
  obtain ⟨multiple, exponent⟩ := decimal_parts _ _ (shortest_eq .even rank.val)
  rw [SignalRules.Decimal.power_le_iff _ _ _ filled] at least past
  rw [plain_iff, multiple, exponent]
  omega

theorem document_text_plain (plain : (finite negative rank).Plain) :
    ∃ text, documentText (finite negative rank) = sign negative ++ text ∧ Named negative text (finite negative rank) := by
  rw [documentText]
  by_cases zero : rank.val = 0
  · rw [if_pos zero]
    exact ⟨_, rfl, zero_named negative rank zero⟩
  · rw [if_neg zero]
    have inside := (plain_digits negative rank (by omega)).mp plain
    refine ⟨_, rfl, ?_⟩
    rw [compact_pointed _ _ (fun _ => SignalRules.Decimal.isDigit_of_mem_digits) (SignalRules.Decimal.digits_ne_nil _) inside]
    exact shortest_named .even negative rank (by omega)

theorem document_text_marked (scaled : ¬(finite negative rank).Plain) : Marked (documentText (finite negative rank)) := by
  have nonzero : rank.val ≠ 0 := fun zero => scaled (.inl zero)
  have outside := mt (plain_digits negative rank (by omega)).mpr scaled
  rw [documentText, if_neg nonzero]
  exact marked_sign negative _ (compact_marked _ _ (fun _ => SignalRules.Decimal.isDigit_of_mem_digits)
    (SignalRules.Decimal.digits_ne_nil _) outside)

end

end SignalRules.Binary64
