import SignalRules.Binary64.Text
import SignalRules.Decimal.Numeral
import SignalRules.Proofs.Binary64.Nearest

set_option autoImplicit false

namespace SignalRules.Binary64
open SignalRules.Decimal (digits number isDigit)

theorem nearest_multiple_within (tie : Tie) (closed : Bool) (low high value step multiple : Nat)
    (found : nearestMultiple? tie closed low high value step = some multiple) :
    within closed low high (2 * (multiple * step)) = true := by
  unfold nearestMultiple? at found
  dsimp only at found
  by_cases below : within closed low high (2 * (value / step * step)) = true
  · by_cases above : within closed low high (2 * ((value / step + 1) * step)) = true
    · rw [below, above] at found
      have either : multiple = value / step ∨ multiple = value / step + 1 := by
        cases tie with
        | up =>
          simp only [Bool.and_self, if_true] at found
          split at found
          · exact .inl (Option.some.inj found).symm
          · split at found <;> exact .inr (Option.some.inj found).symm
        | even =>
          simp only [Bool.and_self, if_true] at found
          split at found
          · exact .inl (Option.some.inj found).symm
          · split at found
            · exact .inr (Option.some.inj found).symm
            · have parity := Option.some.inj found
              omega
      rcases either with rfl | rfl
      · exact below
      · exact above
    · simp only [below, above, Bool.and_false, Bool.false_eq_true, if_false, if_true, Option.some.injEq] at found
      exact found ▸ below
  · by_cases above : within closed low high (2 * ((value / step + 1) * step)) = true
    · simp only [below, above, Bool.false_and, Bool.false_eq_true, if_false, if_true, Option.some.injEq] at found
      exact found ▸ above
    · simp [below, above] at found

theorem coarsest_within (tie : Tie) (closed : Bool) (low high value power : Nat)
    (inside : within closed low high (2 * value) = true) :
    within closed low high
      (2 * ((coarsest tie closed low high value power).1 * 10 ^ (coarsest tie closed low high value power).2)) = true := by
  induction power with
  | zero =>
    rw [coarsest, Nat.pow_zero, Nat.mul_one]
    exact inside
  | succ power ih =>
    rw [coarsest]
    cases found : nearestMultiple? tie closed low high value (Nat.pow 10 (power + 1)) with
    | none => exact ih
    | some multiple => exact nearest_multiple_within tie closed low high value _ multiple found

-- Half the point, in units of 10 ^ -bias, lies between the midpoints around the rank.
def Around (bias rank point : Nat) : Prop :=
  within (rank % 2 == 0) (twiceLow rank * Nat.pow 5 bias) (twiceHigh rank * Nat.pow 5 bias) point = true

theorem value_around (bias rank : Nat) (positive : 0 < rank) : Around bias rank (2 * (units rank * Nat.pow 5 bias)) := by
  have scaled : 0 < Nat.pow 5 bias := Nat.pow_pos (by decide)
  have below := Nat.mul_lt_mul_of_pos_right (units_lt (rank - 1) rank (by omega)) scaled
  have above := Nat.mul_lt_mul_of_pos_right (units_lt_succ rank) scaled
  unfold Around within twiceLow twiceHigh
  rw [Nat.add_mul, Nat.add_mul]
  split
  · simp only [Bool.and_eq_true, decide_eq_true_eq]
    omega
  · simp only [Bool.and_eq_true, decide_eq_true_eq]
    omega

theorem shortest_multiple_around (bias : Nat) (tie : Tie) (rank : Nat) (positive : 0 < rank) :
    Around bias rank (2 * ((shortestMultiple bias tie rank).1 * 10 ^ (shortestMultiple bias tie rank).2)) :=
  coarsest_within tie _ _ _ _ _ (value_around bias rank positive)

theorem within_bounds (closed : Bool) (low high point : Nat) (inside : within closed low high point = true) :
    low ≤ point ∧ point ≤ high ∧ (low = point ∨ point = high → closed = true) := by
  cases closed with
  | true =>
    simp only [within, if_true, Bool.and_eq_true, decide_eq_true_eq] at inside
    exact ⟨inside.1, inside.2, fun _ => rfl⟩
  | false =>
    simp only [within, Bool.false_eq_true, if_false, Bool.and_eq_true, decide_eq_true_eq] at inside
    exact ⟨Nat.le_of_lt inside.1, Nat.le_of_lt inside.2, fun tie => by omega⟩

theorem decimal_nearest (bias digits power places shift rank : Nat) (balance : power + places = bias + shift)
    (inside : Around bias rank (2 * (digits * 10 ^ power))) :
    Nearest (inUnits bias (digits * 10 ^ shift)) (10 ^ places) rank := by
  simp only [Around, inUnits, Nat.pow_eq] at inside ⊢
  obtain ⟨low, high, tie⟩ := within_bounds _ _ _ _ inside
  have five : 0 < 5 ^ bias := Nat.pow_pos (by decide)
  have ten : 0 < 10 ^ places := Nat.pow_pos (by decide)
  have expand : 2 * (digits * 10 ^ power) * 10 ^ places = 2 * (digits * 10 ^ shift * 2 ^ bias) * 5 ^ bias := by
    have powers : 10 ^ power * 10 ^ places = 10 ^ shift * 2 ^ bias * 5 ^ bias := by
      rw [← Nat.pow_add, balance, Nat.pow_add, Nat.mul_assoc, ← Nat.mul_pow, Nat.mul_comm]
    calc 2 * (digits * 10 ^ power) * 10 ^ places
        = 2 * (digits * (10 ^ power * 10 ^ places)) := by simp only [Nat.mul_assoc]
      _ = 2 * (digits * 10 ^ shift * 2 ^ bias) * 5 ^ bias := by rw [powers]; simp only [Nat.mul_assoc]
  have swap (x : Nat) : x * 5 ^ bias * 10 ^ places = x * 10 ^ places * 5 ^ bias := Nat.mul_right_comm _ _ _
  refine ⟨?_, ?_, ?_⟩
  · apply Nat.le_of_mul_le_mul_right _ five
    rw [← expand, ← swap]
    exact Nat.mul_le_mul_right _ low
  · apply Nat.le_of_mul_le_mul_right _ five
    rw [← expand, ← swap]
    exact Nat.mul_le_mul_right _ high
  · intro equal
    have scaled : twiceLow rank * 5 ^ bias = 2 * (digits * 10 ^ power) ∨ 2 * (digits * 10 ^ power) = twiceHigh rank * 5 ^ bias := by
      rcases equal with equal | equal
      · left
        apply Nat.eq_of_mul_eq_mul_right ten
        rw [swap, expand, equal]
      · right
        apply Nat.eq_of_mul_eq_mul_right ten
        rw [swap, expand, equal]
    simpa using tie scaled

theorem places_near (bias mantissa places : Nat) (bounded : bias < 1075) (reaches : 10 ^ places ≤ 2 * inUnits bias mantissa) :
    places ≤ 400 + Nat.log2 mantissa := by
  rw [inUnits, Nat.pow_eq] at reaches
  refine Nat.le_of_not_lt fun far => ?_
  have log := Nat.lt_log2_self (n := mantissa)
  have exponents : 2 ^ (Nat.log2 mantissa + 1 + (bias + 1)) ≤ 2 ^ (3 * places) :=
    Nat.pow_le_pow_right (by decide) (by omega)
  have eight : 2 ^ (3 * places) ≤ 10 ^ places := by
    rw [Nat.pow_mul]
    exact Nat.pow_le_pow_left (by decide) places
  have product : 2 * (mantissa * 2 ^ bias) < 2 ^ (Nat.log2 mantissa + 1 + (bias + 1)) := by
    rw [Nat.pow_add 2 (Nat.log2 mantissa + 1), Nat.pow_succ 2 bias, Nat.mul_comm 2, Nat.mul_assoc]
    exact Nat.mul_lt_mul_of_pos_right log (Nat.mul_pos (Nat.two_pow_pos bias) (by decide))
  omega

theorem of_scientific_ratio (negative : Bool) (mantissa places : Nat) (nonzero : mantissa ≠ 0) (positive : 0 < places)
    (near : places ≤ 400 + Nat.log2 mantissa) :
    ofScientific negative mantissa (-(places : Int)) = ofRatio negative mantissa (10 ^ places) := by
  unfold ofScientific
  rw [if_neg nonzero, if_neg (by omega), if_neg (by omega), if_neg (by omega), Int.neg_neg, Int.toNat_natCast, Nat.pow_eq]

theorem of_scientific_zero (negative : Bool) (exponent : Int) :
    ofScientific negative 0 exponent = finite negative ⟨0, by decide⟩ := by
  rw [ofScientific, if_pos rfl]

theorem in_units_zero (bias : Nat) : inUnits bias 0 = 0 := Nat.zero_mul _

theorem nearest_zero (num den : Nat) (small : 2 * num ≤ den) : Nearest num den 0 := by
  have low : twiceLow 0 = 0 := by decide
  have high : twiceHigh 0 = 1 := by decide
  refine ⟨?_, ?_, fun _ => rfl⟩
  · rw [low, Nat.zero_mul]
    exact Nat.zero_le _
  · rw [high, Nat.one_mul]
    exact small

theorem of_scientific_nearest (negative : Bool) (mantissa places : Nat) : ∃ rank,
    Nearest (inUnits 1074 mantissa) (10 ^ places) rank ∧
      ofScientific negative mantissa (-(places : Int)) = ofRank negative rank := by
  have ten : 0 < 10 ^ places := Nat.pow_pos (by decide)
  have least : finite negative ⟨0, by decide⟩ = ofRank negative 0 := rfl
  by_cases zero : mantissa = 0
  · refine ⟨0, nearest_zero _ _ ?_, ?_⟩
    · rw [zero, in_units_zero]
      exact Nat.zero_le _
    · rw [zero, of_scientific_zero, least]
  by_cases near : places ≤ 400 + Nat.log2 mantissa
  · refine ⟨scaledRank (inUnits 1074 mantissa) (10 ^ places), scaled_rank_nearest _ _ ten, ?_⟩
    rw [← nearest_rank_scaled, ← ofRatio]
    by_cases whole : places = 0
    · rw [whole, ofScientific, if_neg zero, if_neg (by decide), if_pos (by decide)]
      exact congrArg (ofRatio negative · 1) (Nat.mul_one mantissa)
    · exact of_scientific_ratio negative mantissa places zero (Nat.pos_of_ne_zero whole) near
  · refine ⟨0, nearest_zero _ _ ?_, ?_⟩
    · exact Nat.le_of_not_le fun reaches => near (places_near 1074 mantissa places (by decide) reaches)
    · rw [← least, ofScientific, if_neg zero, if_neg (by omega), if_neg (by omega), if_pos (by omega)]

theorem of_scientific_of_nearest (negative : Bool) (mantissa places : Nat) (rank : Fin limit)
    (nearest : Nearest (inUnits 1074 mantissa) (10 ^ places) rank.val) :
    ofScientific negative mantissa (-(places : Int)) = finite negative rank := by
  have ten : 0 < 10 ^ places := Nat.pow_pos (by decide)
  obtain ⟨found, around, read⟩ := of_scientific_nearest negative mantissa places
  rw [read, nearest_unique _ _ _ _ ten around nearest, ofRank, dif_pos rank.isLt]

theorem shortest_eq (tie : Tie) (rank : Nat) :
    shortest tie rank = ⟨(shortestMultiple 1074 tie rank).1, ((shortestMultiple 1074 tie rank).2 : Int) - 1074⟩ := rfl

theorem decimal_parts (d : Decimal) (found : Nat × Nat) (same : d = ⟨found.1, (found.2 : Int) - 1074⟩) :
    d.digits = found.1 ∧ d.exponent = (found.2 : Int) - 1074 := by
  subst same
  exact ⟨rfl, rfl⟩

theorem of_scientific_multiple (tie : Tie) (negative : Bool) (rank : Fin limit) (above : 0 < rank.val) (shift places : Nat)
    (balance : (shortestMultiple 1074 tie rank.val).2 + places = 1074 + shift) :
    ofScientific negative ((shortestMultiple 1074 tie rank.val).1 * 10 ^ shift) (-(places : Int)) = finite negative rank :=
  of_scientific_of_nearest negative _ places rank
    (decimal_nearest 1074 _ _ places shift rank.val balance (shortest_multiple_around 1074 tie rank.val above))

theorem number_zeros (s : List Char) (n : Nat) : number (s ++ zeros n) = number s * 10 ^ n := by
  induction n with
  | zero => simp [zeros]
  | succ n ih =>
    have snoc : s ++ zeros (n + 1) = (s ++ zeros n) ++ ['0'] := by simp [zeros, List.replicate_succ']
    rw [snoc, SignalRules.Decimal.number_append, ih, Nat.pow_succ]
    change 10 * (number s * 10 ^ n) + 0 = _
    rw [Nat.add_zero, Nat.mul_comm 10, Nat.mul_assoc]

theorem number_zeros_append (n : Nat) (s : List Char) : number (zeros n ++ s) = number s := by
  induction n with
  | zero => rfl
  | succ n ih => exact ih

theorem zeros_digit (n : Nat) (c : Char) (member : c ∈ zeros n) : isDigit c = true := by
  rw [List.eq_of_mem_replicate member]
  rfl

theorem digit_ne_point (c : Char) (digit : isDigit c = true) : c ≠ '.' := by
  rintro rfl
  exact absurd digit (by decide)

structure PointedDigits (text whole fraction : List Char) : Prop where
  split : text = whole ++ '.' :: fraction
  whole_digits : ∀ c ∈ whole, isDigit c = true
  fraction_digits : ∀ c ∈ fraction, isDigit c = true
  whole_ne_nil : whole ≠ []

def pointed (s : List Char) : List Char := if s.contains '.' then s else s ++ ['.', '0']

theorem pointed_whole (s : List Char) (all_digits : ∀ c ∈ s, isDigit c = true) : pointed s = s ++ '.' :: ['0'] := by
  have absent : s.contains '.' = false := by
    rw [List.contains_eq_mem, decide_eq_false_iff_not]
    exact fun member => digit_ne_point '.' (all_digits '.' member) rfl
  rw [pointed, absent]
  rfl

theorem pointed_split (whole fraction : List Char) : pointed (whole ++ '.' :: fraction) = whole ++ '.' :: fraction := by
  have present : (whole ++ '.' :: fraction).contains '.' = true := by simp
  rw [pointed, if_pos present]

theorem positional_pointed (ds : List Char) (exponent : Int) (all_digits : ∀ c ∈ ds, isDigit c = true) (nonempty : ds ≠ []) :
    ∃ (whole fraction : List Char) (shift : Nat), PointedDigits (pointed (positional ds exponent)) whole fraction ∧
      number (whole ++ fraction) = number ds * 10 ^ shift ∧ (fraction.length : Int) = (shift : Int) - exponent := by
  by_cases whole_number : 0 ≤ exponent
  · have padded : ∀ c ∈ ds ++ zeros exponent.toNat, isDigit c = true := by
      intro c member
      rcases List.mem_append.mp member with left | right
      · exact all_digits c left
      · exact zeros_digit _ c right
    refine ⟨ds ++ zeros exponent.toNat, ['0'], exponent.toNat + 1, ⟨?_, padded, ?_, ?_⟩, ?_, ?_⟩
    · rw [positional, if_pos whole_number, pointed_whole _ padded]
    · exact fun c member => zeros_digit 1 c member
    · simp [nonempty]
    · have joined : ds ++ zeros exponent.toNat ++ ['0'] = ds ++ zeros (exponent.toNat + 1) := by
        simp [zeros, List.replicate_succ']
      rw [joined, number_zeros]
    · simp only [List.length_singleton]
      omega
  · rw [positional, if_neg whole_number]
    dsimp only
    by_cases inside : (-exponent).toNat < ds.length
    · rw [if_pos inside]
      refine ⟨ds.take (ds.length - (-exponent).toNat), ds.drop (ds.length - (-exponent).toNat), 0, ⟨?_, ?_, ?_, ?_⟩, ?_, ?_⟩
      · rw [pointed_split]
      · exact fun c member => all_digits c (List.mem_of_mem_take member)
      · exact fun c member => all_digits c (List.mem_of_mem_drop member)
      · intro empty
        have length := congrArg List.length empty
        simp only [List.length_take, List.length_nil] at length
        omega
      · rw [List.take_append_drop, Nat.pow_zero, Nat.mul_one]
      · rw [List.length_drop]
        omega
    · rw [if_neg inside]
      have filled : ∀ c ∈ zeros ((-exponent).toNat - ds.length) ++ ds, isDigit c = true := by
        intro c member
        rcases List.mem_append.mp member with left | right
        · exact zeros_digit _ c left
        · exact all_digits c right
      have length : (zeros ((-exponent).toNat - ds.length) ++ ds).length = (-exponent).toNat := by
        rw [List.length_append, zeros, List.length_replicate]
        omega
      refine ⟨['0'], zeros ((-exponent).toNat - ds.length) ++ ds, 0, ⟨?_, ?_, filled, by simp⟩, ?_, ?_⟩
      · exact pointed_split ['0'] _
      · exact fun c member => zeros_digit 1 c member
      · rw [Nat.pow_zero, Nat.mul_one]
        exact (number_zeros_append 1 _).trans (number_zeros_append _ ds)
      · rw [length]
        omega

theorem pointed_sign (negative : Bool) (s : List Char) : pointed (sign negative ++ s) = sign negative ++ pointed s := by
  have contains : (sign negative ++ s).contains '.' = s.contains '.' := by cases negative <;> simp [sign]
  rw [pointed, pointed, contains]
  split
  · rfl
  · rw [List.append_assoc]

theorem pointed_text_pointed (negative : Bool) (rank : Fin limit) :
    pointedText (finite negative rank) = pointed (positionalText (finite negative rank)) := by
  rw [pointedText, isFinite, Bool.not_true, Bool.or_false]
  rfl

def Named (negative : Bool) (text : List Char) (x : Binary64) : Prop :=
  ∃ whole fraction, PointedDigits text whole fraction ∧
    ofScientific negative (number (whole ++ fraction)) (-(fraction.length : Int)) = x

theorem shortest_named (tie : Tie) (negative : Bool) (rank : Fin limit) (above : 0 < rank.val) :
    Named negative (pointed (positional (digits (shortest tie rank.val).digits) (shortest tie rank.val).exponent))
      (finite negative rank) := by
  obtain ⟨whole, fraction, shift, split, value, places⟩ :=
    positional_pointed (digits (shortest tie rank.val).digits) (shortest tie rank.val).exponent
      (fun _ => SignalRules.Decimal.isDigit_of_mem_digits) (SignalRules.Decimal.digits_ne_nil _)
  refine ⟨whole, fraction, split, ?_⟩
  rw [value, SignalRules.Decimal.number_digits]
  obtain ⟨multiple, exponent⟩ := decimal_parts _ _ (shortest_eq tie rank.val)
  rw [multiple]
  exact of_scientific_multiple tie negative rank above shift fraction.length (by omega)

theorem zero_named (negative : Bool) (rank : Fin limit) (zero : rank.val = 0) :
    Named negative ['0', '.', '0'] (finite negative rank) := by
  have same : rank = ⟨0, by decide⟩ := Fin.ext zero
  rw [same]
  exact ⟨['0'], ['0'], ⟨rfl, zeros_digit 1, zeros_digit 1, by simp⟩, of_scientific_zero negative _⟩

theorem pointed_text_finite (negative : Bool) (rank : Fin limit) :
    ∃ text, pointedText (finite negative rank) = sign negative ++ text ∧ Named negative text (finite negative rank) := by
  rw [pointed_text_pointed, positionalText, pointed_sign]
  by_cases zero : rank.val = 0
  · rw [if_pos zero]
    exact ⟨_, rfl, zero_named negative rank zero⟩
  · rw [if_neg zero]
    exact ⟨_, rfl, shortest_named .up negative rank (by omega)⟩

end SignalRules.Binary64
