import SignalRules.Text.Utf8

set_option autoImplicit false

namespace SignalRules.Text.Utf8

theorem bytes_from (bytes : ByteArray) (i : Nat) (seen : List UInt8) :
    ByteArray.toList.loop bytes i seen = seen.reverse ++ bytes.data.toList.drop i := by
  fun_induction ByteArray.toList.loop bytes i seen with
  | case1 i seen inside ih =>
    have bound : i < bytes.data.toList.length := by simpa using inside
    rw [ih, List.drop_eq_getElem_cons bound]
    simp [ByteArray.get!, inside]
  | case2 i seen outside =>
    rw [List.drop_eq_nil_of_le (by simpa using Nat.le_of_not_lt outside), List.append_nil]

theorem encode_eq (s : String) : encode s = s.toList.flatMap String.utf8EncodeChar := by
  have bytes : s.toByteArray = s.toList.utf8Encode := by
    rw [← String.toByteArray_ofList, String.ofList_toList]
  rw [encode, String.toUTF8, ByteArray.toList, bytes_from, bytes, List.utf8Encode, List.toList_data_toByteArray]
  rfl

theorem byte_value (n : Nat) (small : n < 256) : (UInt8.ofNat n).toNat = n := by
  rw [UInt8.toNat_ofNat', Nat.mod_eq_of_lt small]

theorem follow_byte (seen code low high n : Nat) (ranges : List (Nat × Nat)) (rest : List UInt8) (small : n < 256)
    (inside : low ≤ n ∧ n ≤ high) :
    follow seen code ((low, high) :: ranges) (UInt8.ofNat n :: rest) = follow (seen + 1) (code * 64 + n % 64) ranges rest := by
  rw [follow, byte_value n small]
  simp [inside]

theorem lead_two : ∀ b < 32, 2 ≤ b → following? (b + 192) = some [(0x80, 0xBF)] ∧ leadBits (b + 192) = b := by decide

-- The first byte that follows is limited further where a character would fit fewer bytes or be a surrogate.
theorem lead_three : ∀ b < 16,
    following? (b + 224) = some [(if b = 0 then 0xA0 else 0x80, if b = 13 then 0x9F else 0xBF), (0x80, 0xBF)] ∧
      leadBits (b + 224) = b := by decide

theorem lead_four : ∀ b < 5,
    following? (b + 240) =
      some [(if b = 0 then 0x90 else 0x80, if b = 4 then 0x8F else 0xBF), (0x80, 0xBF), (0x80, 0xBF)] ∧
      leadBits (b + 240) = b := by decide

-- The lead byte announces how many bytes follow and in which ranges, and together they carry the code point.
def Announces (lead : UInt8) (tail : List UInt8) (point : Nat) : Prop :=
  ∃ ranges, following? lead.toNat = some ranges ∧ ranges.length = tail.length ∧
    ∀ rest, follow 1 (leadBits lead.toNat) ranges (tail ++ rest) = .ok point

theorem announces_one (n : Nat) (range : n ≤ 127) : Announces (UInt8.ofNat n) [] n := by
  rw [Announces, byte_value n (by omega)]
  refine ⟨[], by rw [following?, if_pos range], rfl, fun rest => ?_⟩
  rw [leadBits, if_pos range, follow]

theorem announces_two (n : Nat) (range : 127 < n ∧ n ≤ 2047) :
    Announces (UInt8.ofNat (n / 64 % 32 + 192)) [UInt8.ofNat (n % 64 + 128)] n := by
  obtain ⟨announced, bits⟩ := lead_two (n / 64 % 32) (by omega) (by omega)
  rw [Announces, byte_value _ (by omega)]
  refine ⟨_, announced, rfl, fun rest => ?_⟩
  rw [bits, List.singleton_append, follow_byte _ _ _ _ _ _ _ (by omega) (by omega), follow]
  congr 1
  omega

theorem announces_three (n : Nat) (range : 2047 < n ∧ n ≤ 65535) (scalar : n < 0xD800 ∨ 0xDFFF < n) :
    Announces (UInt8.ofNat (n / 4096 % 16 + 224)) [UInt8.ofNat (n / 64 % 64 + 128), UInt8.ofNat (n % 64 + 128)] n := by
  obtain ⟨announced, bits⟩ := lead_three (n / 4096 % 16) (by omega)
  rw [Announces, byte_value _ (by omega)]
  refine ⟨_, announced, rfl, fun rest => ?_⟩
  have first : (if n / 4096 % 16 = 0 then 0xA0 else 0x80) ≤ n / 64 % 64 + 128 ∧
      n / 64 % 64 + 128 ≤ if n / 4096 % 16 = 13 then 0x9F else 0xBF := by
    constructor
    · split <;> omega
    · split <;> omega
  rw [bits, List.cons_append, List.singleton_append, follow_byte _ _ _ _ _ _ _ (by omega) first,
    follow_byte _ _ _ _ _ _ _ (by omega) (by omega), follow]
  congr 1
  omega

theorem announces_four (n : Nat) (range : 65535 < n ∧ n < 0x110000) :
    Announces (UInt8.ofNat (n / 262144 % 8 + 240))
      [UInt8.ofNat (n / 4096 % 64 + 128), UInt8.ofNat (n / 64 % 64 + 128), UInt8.ofNat (n % 64 + 128)] n := by
  obtain ⟨announced, bits⟩ := lead_four (n / 262144 % 8) (by omega)
  rw [Announces, byte_value _ (by omega)]
  refine ⟨_, announced, rfl, fun rest => ?_⟩
  have first : (if n / 262144 % 8 = 0 then 0x90 else 0x80) ≤ n / 4096 % 64 + 128 ∧
      n / 4096 % 64 + 128 ≤ if n / 262144 % 8 = 4 then 0x8F else 0xBF := by
    constructor
    · split <;> omega
    · split <;> omega
  rw [bits, List.cons_append, List.cons_append, List.singleton_append, follow_byte _ _ _ _ _ _ _ (by omega) first,
    follow_byte _ _ _ _ _ _ _ (by omega) (by omega), follow_byte _ _ _ _ _ _ _ (by omega) (by omega), follow]
  congr 1
  omega

theorem encoded_cases (c : Char) :
    (c.toNat ≤ 127 ∧ String.utf8EncodeChar c = [UInt8.ofNat c.toNat]) ∨
    ((127 < c.toNat ∧ c.toNat ≤ 2047) ∧
      String.utf8EncodeChar c = [UInt8.ofNat (c.toNat / 64 % 32 + 192), UInt8.ofNat (c.toNat % 64 + 128)]) ∨
    ((2047 < c.toNat ∧ c.toNat ≤ 65535) ∧
      String.utf8EncodeChar c = [UInt8.ofNat (c.toNat / 4096 % 16 + 224), UInt8.ofNat (c.toNat / 64 % 64 + 128),
        UInt8.ofNat (c.toNat % 64 + 128)]) ∨
    (65535 < c.toNat ∧
      String.utf8EncodeChar c = [UInt8.ofNat (c.toNat / 262144 % 8 + 240), UInt8.ofNat (c.toNat / 4096 % 64 + 128),
        UInt8.ofNat (c.toNat / 64 % 64 + 128), UInt8.ofNat (c.toNat % 64 + 128)]) := by
  have point : c.val.toNat = c.toNat := rfl
  unfold String.utf8EncodeChar
  simp only [point]
  by_cases one : c.toNat ≤ 127
  · exact .inl ⟨one, if_pos one⟩
  · rw [if_neg one]
    by_cases two : c.toNat ≤ 2047
    · exact .inr (.inl ⟨⟨by omega, two⟩, if_pos two⟩)
    · rw [if_neg two]
      by_cases three : c.toNat ≤ 65535
      · exact .inr (.inr (.inl ⟨⟨by omega, three⟩, if_pos three⟩))
      · exact .inr (.inr (.inr ⟨by omega, if_neg three⟩))

theorem encoded_announces (c : Char) : ∃ lead tail, String.utf8EncodeChar c = lead :: tail ∧ Announces lead tail c.toNat := by
  have valid : c.toNat < 0xD800 ∨ 0xDFFF < c.toNat ∧ c.toNat < 0x110000 := c.valid
  rcases encoded_cases c with ⟨range, encoded⟩ | ⟨range, encoded⟩ | ⟨range, encoded⟩ | ⟨range, encoded⟩
  · exact ⟨_, _, encoded, announces_one c.toNat range⟩
  · exact ⟨_, _, encoded, announces_two c.toNat range⟩
  · exact ⟨_, _, encoded, announces_three c.toNat range (by omega)⟩
  · exact ⟨_, _, encoded, announces_four c.toNat ⟨range, by omega⟩⟩

theorem low_byte (c : Char) (b : UInt8) (member : b ∈ String.utf8EncodeChar c) (low : b.toNat < 128) : b.toNat = c.toNat := by
  rcases encoded_cases c with ⟨range, encoded⟩ | ⟨range, encoded⟩ | ⟨range, encoded⟩ | ⟨range, encoded⟩
  · rw [encoded, List.mem_singleton] at member
    rw [member, byte_value c.toNat (by omega)]
  all_goals
    rw [encoded] at member
    simp only [List.mem_cons, List.not_mem_nil, or_false] at member
    exfalso
    rcases member with rfl | rfl | rfl | rfl
    all_goals
      rw [byte_value _ (by omega)] at low
      omega

theorem low_byte_alone (c : Char) (b : UInt8) (member : b ∈ String.utf8EncodeChar c) (low : b.toNat < 128) :
    String.utf8EncodeChar c = [b] ∧ c = Char.ofNat b.toNat := by
  have point := low_byte c b member low
  refine ⟨?_, by rw [point, Char.ofNat_toNat]⟩
  rcases encoded_cases c with ⟨_, encoded⟩ | ⟨range, _⟩ | ⟨range, _⟩ | ⟨range, _⟩
  · rw [encoded, ← point, UInt8.ofNat_toNat]
  all_goals omega

theorem encoded_first (s : List Char) (b : UInt8) (bytes : List UInt8) (low : b.toNat < 128)
    (encoded : s.flatMap String.utf8EncodeChar = b :: bytes) :
    ∃ rest, s = Char.ofNat b.toNat :: rest ∧ rest.flatMap String.utf8EncodeChar = bytes := by
  cases s with
  | nil => cases encoded
  | cons c rest =>
    rw [List.flatMap_cons] at encoded
    obtain ⟨lead, tail, split, _⟩ := encoded_announces c
    have member : b ∈ String.utf8EncodeChar c := by
      rw [split, List.cons_append, List.cons.injEq] at encoded
      rw [split, encoded.1]
      exact List.mem_cons_self
    obtain ⟨alone, rfl⟩ := low_byte_alone c b member low
    rw [alone, List.singleton_append, List.cons.injEq] at encoded
    exact ⟨rest, rfl, encoded.2⟩

theorem encoded_last (s : List Char) (b : UInt8) (bytes : List UInt8) (low : b.toNat < 128)
    (encoded : s.flatMap String.utf8EncodeChar = bytes ++ [b]) :
    ∃ front, s = front ++ [Char.ofNat b.toNat] ∧ front.flatMap String.utf8EncodeChar = bytes := by
  rcases List.eq_nil_or_concat s with rfl | ⟨front, c, rfl⟩
  · simp at encoded
  · rw [List.concat_eq_append, List.flatMap_append, List.flatMap_singleton] at encoded
    obtain ⟨lead, tail, split, _⟩ := encoded_announces c
    have member : b ∈ String.utf8EncodeChar c := by
      have ends := congrArg List.getLast? encoded
      rw [split, List.getLast?_append, List.getLast?_concat] at ends
      rw [split]
      exact List.mem_of_getLast? ends
    obtain ⟨alone, rfl⟩ := low_byte_alone c b member low
    rw [alone] at encoded
    exact ⟨front, List.concat_eq_append, List.append_cancel_right encoded⟩

theorem decode_from_encoded (s : List Char) (index : Nat) : decodeFrom index (s.flatMap String.utf8EncodeChar) = .ok s := by
  induction s generalizing index with
  | nil => rw [List.flatMap_nil, decodeFrom]
  | cons c s ih =>
    obtain ⟨lead, tail, encoded, ranges, announced, length, carried⟩ := encoded_announces c
    rw [List.flatMap_cons, encoded, List.cons_append, decodeFrom, announced]
    simp only [carried, length, List.drop_left, ih, Char.ofNat_toNat]

theorem decode_encode (s : String) : decode (encode s) = .ok s.toList := by
  rw [encode_eq, decode, decode_from_encoded]

theorem lead_cases : ∀ first < 256, (following? first).isSome →
    first ≤ 127 ∨ (194 ≤ first ∧ first < 224) ∨ (224 ≤ first ∧ first < 240) ∨ (240 ≤ first ∧ first < 245) := by
  decide +kernel

theorem follow_ok (seen code low high point : Nat) (ranges : List (Nat × Nat)) (rest : List UInt8)
    (followed : follow seen code ((low, high) :: ranges) rest = .ok point) : ∃ b later, rest = b :: later ∧
      (low ≤ b.toNat ∧ b.toNat ≤ high) ∧ follow (seen + 1) (code * 64 + b.toNat % 64) ranges later = .ok point := by
  cases rest with
  | nil => cases followed
  | cons b later =>
    rw [follow] at followed
    by_cases inside : low ≤ b.toNat ∧ b.toNat ≤ high
    · rw [if_pos (by simp [inside])] at followed
      exact ⟨b, later, rfl, inside, followed⟩
    · rw [if_neg (by simpa using inside)] at followed
      cases followed

theorem point_valid (n : Nat) (range : n < 0xD800 ∨ 0xDFFF < n ∧ n < 0x110000) : (Char.ofNat n).toNat = n := by
  have valid : n.isValidChar := range
  rw [Char.ofNat, dif_pos valid]
  rfl

theorem byte_eq (b : UInt8) (n : Nat) (same : n = b.toNat) : UInt8.ofNat n = b := by
  rw [same, UInt8.ofNat_toNat]

def Encodes (lead : UInt8) (ranges : List (Nat × Nat)) (rest : List UInt8) (point : Nat) : Prop :=
  ∃ tail later, rest = tail ++ later ∧ tail.length = ranges.length ∧ String.utf8EncodeChar (Char.ofNat point) = lead :: tail

section
variable (lead : UInt8) (ranges : List (Nat × Nat)) (rest : List UInt8) (point : Nat)

theorem encodes_one (range : lead.toNat ≤ 127) (announced : following? lead.toNat = some ranges)
    (carried : follow 1 (leadBits lead.toNat) ranges rest = .ok point) : Encodes lead ranges rest point := by
  rw [following?, if_pos range] at announced
  cases announced
  rw [follow, leadBits, if_pos range] at carried
  cases carried
  have valid := point_valid lead.toNat (by omega)
  refine ⟨[], rest, rfl, rfl, ?_⟩
  rcases encoded_cases (Char.ofNat lead.toNat) with ⟨_, encoded⟩ | ⟨range', _⟩ | ⟨range', _⟩ | ⟨range', _⟩
  · rw [encoded, byte_eq lead _ valid]
  all_goals omega

theorem encodes_two (range : 194 ≤ lead.toNat ∧ lead.toNat < 224) (announced : following? lead.toNat = some ranges)
    (carried : follow 1 (leadBits lead.toNat) ranges rest = .ok point) : Encodes lead ranges rest point := by
  obtain ⟨known, bits⟩ := lead_two (lead.toNat - 192) (by omega) (by omega)
  rw [Nat.sub_add_cancel (by omega)] at known bits
  rw [known] at announced
  cases announced
  rw [bits] at carried
  obtain ⟨b, later, rfl, inside, carried⟩ := follow_ok _ _ _ _ _ _ _ carried
  cases carried
  have valid := point_valid ((lead.toNat - 192) * 64 + b.toNat % 64) (by omega)
  refine ⟨[b], later, rfl, rfl, ?_⟩
  rcases encoded_cases (Char.ofNat ((lead.toNat - 192) * 64 + b.toNat % 64)) with
    ⟨range', _⟩ | ⟨_, encoded⟩ | ⟨range', _⟩ | ⟨range', _⟩
  · omega
  · rw [encoded, byte_eq lead _ (by omega), byte_eq b _ (by omega)]
  all_goals omega

theorem encodes_three (range : 224 ≤ lead.toNat ∧ lead.toNat < 240) (announced : following? lead.toNat = some ranges)
    (carried : follow 1 (leadBits lead.toNat) ranges rest = .ok point) : Encodes lead ranges rest point := by
  obtain ⟨known, bits⟩ := lead_three (lead.toNat - 224) (by omega)
  rw [Nat.sub_add_cancel (by omega)] at known bits
  rw [known] at announced
  cases announced
  rw [bits] at carried
  obtain ⟨b, later, rfl, ⟨low, high⟩, carried⟩ := follow_ok _ _ _ _ _ _ _ carried
  obtain ⟨b', later, rfl, inside, carried⟩ := follow_ok _ _ _ _ _ _ _ carried
  cases carried
  have wide : lead.toNat - 224 = 0 → 0xA0 ≤ b.toNat := fun zero => by rwa [if_pos zero] at low
  have scalar : lead.toNat - 224 = 13 → b.toNat ≤ 0x9F := fun edge => by rwa [if_pos edge] at high
  have tail : 0x80 ≤ b.toNat ∧ b.toNat ≤ 0xBF := ⟨by split at low <;> omega, by split at high <;> omega⟩
  have valid := point_valid (((lead.toNat - 224) * 64 + b.toNat % 64) * 64 + b'.toNat % 64) (by omega)
  refine ⟨[b, b'], later, rfl, rfl, ?_⟩
  rcases encoded_cases (Char.ofNat (((lead.toNat - 224) * 64 + b.toNat % 64) * 64 + b'.toNat % 64)) with
    ⟨range', _⟩ | ⟨range', _⟩ | ⟨_, encoded⟩ | ⟨range', _⟩
  · omega
  · omega
  · rw [encoded, byte_eq lead _ (by omega), byte_eq b _ (by omega), byte_eq b' _ (by omega)]
  · omega

theorem encodes_four (range : 240 ≤ lead.toNat ∧ lead.toNat < 245) (announced : following? lead.toNat = some ranges)
    (carried : follow 1 (leadBits lead.toNat) ranges rest = .ok point) : Encodes lead ranges rest point := by
  obtain ⟨known, bits⟩ := lead_four (lead.toNat - 240) (by omega)
  rw [Nat.sub_add_cancel (by omega)] at known bits
  rw [known] at announced
  cases announced
  rw [bits] at carried
  obtain ⟨b, later, rfl, ⟨low, high⟩, carried⟩ := follow_ok _ _ _ _ _ _ _ carried
  obtain ⟨b', later, rfl, inside, carried⟩ := follow_ok _ _ _ _ _ _ _ carried
  obtain ⟨b'', later, rfl, inside', carried⟩ := follow_ok _ _ _ _ _ _ _ carried
  cases carried
  have wide : lead.toNat - 240 = 0 → 0x90 ≤ b.toNat := fun zero => by rwa [if_pos zero] at low
  have bounded : lead.toNat - 240 = 4 → b.toNat ≤ 0x8F := fun edge => by rwa [if_pos edge] at high
  have tail : 0x80 ≤ b.toNat ∧ b.toNat ≤ 0xBF := ⟨by split at low <;> omega, by split at high <;> omega⟩
  have valid := point_valid
    ((((lead.toNat - 240) * 64 + b.toNat % 64) * 64 + b'.toNat % 64) * 64 + b''.toNat % 64) (by omega)
  refine ⟨[b, b', b''], later, rfl, rfl, ?_⟩
  rcases encoded_cases (Char.ofNat
      ((((lead.toNat - 240) * 64 + b.toNat % 64) * 64 + b'.toNat % 64) * 64 + b''.toNat % 64)) with
    ⟨range', _⟩ | ⟨range', _⟩ | ⟨range', _⟩ | ⟨_, encoded⟩
  · omega
  · omega
  · omega
  · rw [encoded, byte_eq lead _ (by omega), byte_eq b _ (by omega), byte_eq b' _ (by omega), byte_eq b'' _ (by omega)]

theorem encodes_followed (announced : following? lead.toNat = some ranges)
    (carried : follow 1 (leadBits lead.toNat) ranges rest = .ok point) : Encodes lead ranges rest point := by
  rcases lead_cases lead.toNat lead.toNat_lt (by rw [announced, Option.isSome_some]) with range | range | range | range
  · exact encodes_one lead ranges rest point range announced carried
  · exact encodes_two lead ranges rest point range announced carried
  · exact encodes_three lead ranges rest point range announced carried
  · exact encodes_four lead ranges rest point range announced carried

end

theorem decode_from_sound (index : Nat) (bytes : List UInt8) (s : List Char) (decoded : decodeFrom index bytes = .ok s) :
    s.flatMap String.utf8EncodeChar = bytes := by
  fun_induction decodeFrom index bytes generalizing s with
  | case1 index =>
    cases decoded
    rfl
  | case2 => cases decoded
  | case3 => cases decoded
  | case4 => cases decoded
  | case5 index lead rest ranges announced point carried cs later ih =>
    cases decoded
    obtain ⟨tail, after, rfl, length, encoded⟩ := encodes_followed lead ranges rest point announced carried
    rw [List.flatMap_cons, encoded, List.cons_append, ih cs later, ← length, List.drop_left]

theorem decode_iff (bytes : List UInt8) (s : List Char) : decode bytes = .ok s ↔ s.flatMap String.utf8EncodeChar = bytes := by
  constructor
  · exact decode_from_sound 0 bytes s
  · rintro rfl
    exact decode_from_encoded s 0

theorem newline_absent (s : List Char) (unbroken : '\n' ∉ s) : 10 ∉ s.flatMap String.utf8EncodeChar := by
  intro member
  obtain ⟨c, inside, byte⟩ := List.mem_flatMap.mp member
  have point : c.toNat = '\n'.toNat := (low_byte c 10 byte (by decide)).symm
  exact unbroken (Char.toNat_inj.mp point ▸ inside)

theorem decode_terminated (bytes : List UInt8) (s : List Char) :
    decode (bytes ++ [10]) = .ok s ↔ ∃ front, s = front ++ ['\n'] ∧ decode bytes = .ok front := by
  simp only [decode_iff]
  refine ⟨encoded_last s 10 bytes (by decide), ?_⟩
  rintro ⟨front, rfl, rfl⟩
  rw [List.flatMap_append]
  rfl

end SignalRules.Text.Utf8
