/-
Bytes as pairs of nibbles and byte strings as big-endian numbers.

The value of a byte string is the base-256 number its digits spell, most
significant byte first.  A 32-bit shift-and-or accumulator computes that value
without losing bits as long as at most four bytes are shifted in.
-/

import Mathlib.Data.Nat.Digits.Lemmas

namespace ByteNumerals

/-! ### Nibbles -/

def packNibbles (high low : UInt8) : UInt8 := (high <<< 4) ||| (low &&& 0x0F)

def highNibble (byte : UInt8) : UInt8 := (byte >>> 4) &&& 0x0F

def lowNibble (byte : UInt8) : UInt8 := byte &&& 0x0F

theorem lowNibble_toNat (byte : UInt8) : (lowNibble byte).toNat = byte.toNat % 16 := by
  unfold lowNibble
  rw [UInt8.toNat_and]
  exact Nat.and_two_pow_sub_one_eq_mod byte.toNat 4

theorem highNibble_toNat (byte : UInt8) : (highNibble byte).toNat = byte.toNat / 16 := by
  have bounded := byte.toNat_lt
  unfold highNibble
  rw [UInt8.toNat_and, UInt8.toNat_shiftRight]
  have masked := Nat.and_two_pow_sub_one_eq_mod (byte.toNat >>> 4) 4
  have shifted := Nat.shiftRight_eq_div_pow byte.toNat 4
  change byte.toNat >>> 4 &&& 2 ^ 4 - 1 = byte.toNat / 16
  rw [masked, shifted]
  omega

theorem packNibbles_toNat (high low : UInt8) :
    (packNibbles high low).toNat = 16 * (high.toNat % 16) + low.toNat % 16 := by
  have lowBound : low.toNat % 16 < 2 ^ 4 := Nat.mod_lt _ (by decide)
  have shifted : (high.toNat <<< 4) % 2 ^ 8 = (high.toNat % 16) <<< 4 := by
    rw [Nat.shiftLeft_eq, Nat.shiftLeft_eq]
    omega
  have lowPart := lowNibble_toNat low
  unfold lowNibble at lowPart
  unfold packNibbles
  rw [UInt8.toNat_or, UInt8.toNat_shiftLeft, lowPart]
  change (high.toNat <<< 4) % 2 ^ 8 ||| low.toNat % 16 = _
  rw [shifted, ← Nat.shiftLeft_add_eq_or_of_lt lowBound, Nat.shiftLeft_eq]
  omega

theorem lowNibble_lt (byte : UInt8) : (lowNibble byte).toNat < 16 := by
  rw [lowNibble_toNat]
  exact Nat.mod_lt _ (by decide)

theorem nibble_cases {nibble : UInt8} (inRange : nibble.toNat < 16) :
    nibble = 0 ∨ nibble = 1 ∨ nibble = 2 ∨ nibble = 3 ∨ nibble = 4 ∨ nibble = 5 ∨ nibble = 6 ∨
      nibble = 7 ∨ nibble = 8 ∨ nibble = 9 ∨ nibble = 10 ∨ nibble = 11 ∨ nibble = 12 ∨
      nibble = 13 ∨ nibble = 14 ∨ nibble = 15 := by
  simp only [← UInt8.toNat_inj, UInt8.reduceToNat]
  omega

theorem lowNibble_packNibbles (high low : UInt8) :
    lowNibble (packNibbles high low) = lowNibble low := by
  apply UInt8.toNat_inj.mp
  rw [lowNibble_toNat, packNibbles_toNat, lowNibble_toNat]
  omega

theorem highNibble_packNibbles (high low : UInt8) (inRange : high < 16) :
    highNibble (packNibbles high low) = high := by
  have bounded : high.toNat < 16 := inRange
  apply UInt8.toNat_inj.mp
  rw [highNibble_toNat, packNibbles_toNat]
  omega

/-- A high nibble that does not fit loses its upper bits. -/
theorem highNibble_packNibbles_lowNibble (high low : UInt8) :
    highNibble (packNibbles high low) = lowNibble high := by
  apply UInt8.toNat_inj.mp
  rw [highNibble_toNat, packNibbles_toNat, lowNibble_toNat]
  omega

theorem lowNibble_eq_self {byte : UInt8} : lowNibble byte = byte ↔ byte < 16 := by
  constructor
  · intro same
    rw [← same]
    exact lowNibble_lt byte
  · intro inRange
    have bounded : byte.toNat < 16 := inRange
    apply UInt8.toNat_inj.mp
    rw [lowNibble_toNat]
    exact Nat.mod_eq_of_lt bounded

/-! ### Big-endian values -/

def bigEndian (bytes : List UInt8) : Nat :=
  Nat.ofDigits 256 (bytes.reverse.map UInt8.toNat)

theorem bigEndian_nil : bigEndian [] = 0 := rfl

theorem bigEndian_concat (bytes : List UInt8) (byte : UInt8) :
    bigEndian (bytes ++ [byte]) = 256 * bigEndian bytes + byte.toNat := by
  unfold bigEndian
  rw [List.reverse_concat, List.map_cons, Nat.ofDigits_cons, Nat.add_comm]

theorem bigEndian_singleton (byte : UInt8) : bigEndian [byte] = byte.toNat := by
  have spelled := bigEndian_concat [] byte
  rw [bigEndian_nil] at spelled
  simpa only [List.nil_append, Nat.mul_zero, Nat.zero_add] using spelled

private theorem digit_lt (bytes : List UInt8) :
    ∀ digit ∈ bytes.reverse.map UInt8.toNat, digit < 256 := by
  intro digit member
  obtain ⟨byte, _, rfl⟩ := List.mem_map.mp member
  exact byte.toNat_lt

theorem bigEndian_lt (bytes : List UInt8) : bigEndian bytes < 256 ^ bytes.length := by
  have bounded := Nat.ofDigits_lt_base_pow_length (by decide : 1 < 256) (digit_lt bytes)
  simpa only [bigEndian, List.length_map, List.length_reverse] using bounded

theorem bigEndian_injective {first second : List UInt8} (sized : first.length = second.length)
    (same : bigEndian first = bigEndian second) : first = second := by
  have lengths : (first.reverse.map UInt8.toNat).length =
      (second.reverse.map UInt8.toNat).length := by
    rw [List.length_map, List.length_map, List.length_reverse, List.length_reverse, sized]
  have digits := Nat.ofDigits_inj_of_len_eq (by decide : 1 < 256) lengths (digit_lt first)
    (digit_lt second) same
  have reversed := List.map_injective_iff.mpr (fun _ _ => UInt8.toNat_inj.mp) digits
  exact List.reverse_injective reversed

/-! ### Shift-and-or accumulation -/

def shiftIn (value : UInt32) (byte : UInt8) : UInt32 := (value <<< 8) ||| byte.toUInt32

theorem shiftIn_toNat (value : UInt32) (byte : UInt8) (room : value.toNat < 2 ^ 24) :
    (shiftIn value byte).toNat = 256 * value.toNat + byte.toNat := by
  have byteBound : byte.toNat < 2 ^ 8 := byte.toNat_lt
  have kept : (value.toNat <<< 8) % 2 ^ 32 = value.toNat <<< 8 := by
    rw [Nat.shiftLeft_eq]
    omega
  unfold shiftIn
  rw [UInt32.toNat_or, UInt32.toNat_shiftLeft, UInt8.toNat_toUInt32]
  change (value.toNat <<< 8) % 2 ^ 32 ||| byte.toNat = _
  rw [kept, ← Nat.shiftLeft_add_eq_or_of_lt byteBound, Nat.shiftLeft_eq, Nat.mul_comm]

theorem foldl_shiftIn_toNat (bytes : List UInt8) (short : bytes.length ≤ 4) :
    (bytes.foldl shiftIn 0).toNat = bigEndian bytes := by
  induction bytes using List.reverseRecOn with
  | nil => rfl
  | append_singleton earlier byte ih =>
      rw [List.length_append, List.length_singleton] at short
      have value := ih (by omega)
      have bounded : bigEndian earlier < 256 ^ 3 :=
        Nat.lt_of_lt_of_le (bigEndian_lt earlier)
          (Nat.pow_le_pow_right (by decide) (by omega))
      have room : (earlier.foldl shiftIn 0).toNat < 2 ^ 24 := by
        rw [value]
        exact bounded
      rw [List.foldl_append, List.foldl_cons, List.foldl_nil,
        shiftIn_toNat _ byte room, value, bigEndian_concat]

theorem foldl_shiftIn (bytes : List UInt8) (short : bytes.length ≤ 4) :
    bytes.foldl shiftIn 0 = UInt32.ofNat (bigEndian bytes) := by
  rw [← foldl_shiftIn_toNat bytes short, UInt32.ofNat_toNat]

/-! ### Splitting words into bytes -/

private theorem maskByte_toNat (word : UInt32) :
    ((word &&& 0xFF).toUInt8).toNat = word.toNat % 256 := by
  rw [UInt32.toNat_toUInt8, UInt32.toNat_and]
  have masked := Nat.and_two_pow_sub_one_eq_mod word.toNat 8
  change (word.toNat &&& 2 ^ 8 - 1) % 2 ^ 8 = _
  rw [masked]
  omega

private theorem splitByte_toNat (word amount : UInt32) (small : amount.toNat < 32) :
    (((word >>> amount) &&& 0xFF).toUInt8).toNat = word.toNat / 2 ^ amount.toNat % 256 := by
  rw [maskByte_toNat, UInt32.toNat_shiftRight, Nat.mod_eq_of_lt small,
    Nat.shiftRight_eq_div_pow]

def wordBytes (word : UInt32) : List UInt8 :=
  [((word >>> 24) &&& 0xFF).toUInt8, ((word >>> 16) &&& 0xFF).toUInt8,
    ((word >>> 8) &&& 0xFF).toUInt8, (word &&& 0xFF).toUInt8]

theorem bigEndian_wordBytes (word : UInt32) : bigEndian (wordBytes word) = word.toNat := by
  have bounded := word.toNat_lt
  have first : (((word >>> 24) &&& 0xFF).toUInt8).toNat = word.toNat / 2 ^ 24 % 256 :=
    splitByte_toNat word 24 (by decide)
  have second : (((word >>> 16) &&& 0xFF).toUInt8).toNat = word.toNat / 2 ^ 16 % 256 :=
    splitByte_toNat word 16 (by decide)
  have third : (((word >>> 8) &&& 0xFF).toUInt8).toNat = word.toNat / 2 ^ 8 % 256 :=
    splitByte_toNat word 8 (by decide)
  have last := maskByte_toNat word
  change bigEndian ((([] ++ [_]) ++ [_] ++ [_]) ++ [_]) = _
  rw [bigEndian_concat, bigEndian_concat, bigEndian_concat, bigEndian_concat, bigEndian_nil,
    first, second, third, last]
  omega

/-- Four bytes are spelled again by the word they stand for. -/
theorem wordBytes_bigEndian {bytes : List UInt8} (sized : bytes.length = 4) :
    wordBytes (UInt32.ofNat (bigEndian bytes)) = bytes := by
  have bounded := bigEndian_lt bytes
  rw [sized] at bounded
  apply bigEndian_injective
  · rw [sized]
    rfl
  · rw [bigEndian_wordBytes, UInt32.toNat_ofNat_of_lt' bounded]

def shortBytes (word : UInt16) : List UInt8 :=
  [((word >>> 8) &&& 0xFF).toUInt8, (word &&& 0xFF).toUInt8]

private theorem maskShort_toNat (word : UInt16) :
    ((word &&& 0xFF).toUInt8).toNat = word.toNat % 256 := by
  rw [UInt16.toNat_toUInt8, UInt16.toNat_and]
  have masked := Nat.and_two_pow_sub_one_eq_mod word.toNat 8
  change (word.toNat &&& 2 ^ 8 - 1) % 2 ^ 8 = _
  rw [masked]
  omega

theorem bigEndian_shortBytes (word : UInt16) : bigEndian (shortBytes word) = word.toNat := by
  have bounded := word.toNat_lt
  have first : (((word >>> 8) &&& 0xFF).toUInt8).toNat = word.toNat / 2 ^ 8 % 256 := by
    rw [maskShort_toNat, UInt16.toNat_shiftRight, Nat.shiftRight_eq_div_pow]
    rfl
  have last := maskShort_toNat word
  change bigEndian (([] ++ [_]) ++ [_]) = _
  rw [bigEndian_concat, bigEndian_concat, bigEndian_nil, first, last]
  omega

end ByteNumerals
