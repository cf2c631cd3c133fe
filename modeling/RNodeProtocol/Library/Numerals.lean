/-
Printed numbers, read back.

Decimal and hexadecimal numerals determine the number they were printed from,
padded or not, and are made of letters that separate nothing.  Any digits are a
padded decimal numeral.
-/

import Mathlib.Data.List.Induction
import RNodeProtocol.Library.TextLines

namespace Numerals

open TextLines

/-! ### Decimal -/

theorem toString_nat_injective {first second : Nat} (same : toString first = toString second) :
    first = second := by
  have digits := congrArg String.toList same
  rw [Nat.toString_eq_ofList_toDigits, Nat.toString_eq_ofList_toDigits, String.toList_ofList,
    String.toList_ofList] at digits
  calc first = Nat.ofDigitChars 10 (Nat.toDigits 10 first) 0 :=
        Nat.ofDigitChars_ten_toDigits.symm
    _ = Nat.ofDigitChars 10 (Nat.toDigits 10 second) 0 := by rw [digits]
    _ = second := Nat.ofDigitChars_ten_toDigits

theorem isDigit_of_mem_toString {value : Nat} {letter : Char}
    (member : letter ∈ (toString value).toList) : letter.isDigit = true := by
  rw [Nat.toString_eq_ofList_toDigits, String.toList_ofList] at member
  exact Nat.isDigit_of_mem_toDigits (by decide) (by decide) member

theorem plain_toString_nat (value : Nat) : Plain (toString value) :=
  ⟨fun member => absurd (isDigit_of_mem_toString member) (by decide),
    fun member => absurd (isDigit_of_mem_toString member) (by decide)⟩

/-- A sign is no digit. -/
theorem toString_nat_ne_minus (value other : Nat) :
    toString value ≠ "-" ++ toString other := by
  intro same
  have member : '-' ∈ (toString value).toList := by
    rw [same, String.toList_append]
    exact List.mem_append_left _ List.mem_cons_self
  exact absurd (isDigit_of_mem_toString member) (by decide)

theorem toString_int_injective {first second : Int} (same : toString first = toString second) :
    first = second := by
  cases first with
  | ofNat value =>
      cases second with
      | ofNat other => exact congrArg Int.ofNat (toString_nat_injective same)
      | negSucc other => exact absurd same (toString_nat_ne_minus value (other + 1))
  | negSucc value =>
      cases second with
      | ofNat other => exact absurd same.symm (toString_nat_ne_minus other (value + 1))
      | negSucc other =>
          have digits : "-" ++ toString (value + 1) = "-" ++ toString (other + 1) := same
          have values := toString_nat_injective ((String.append_right_inj _).mp digits)
          rw [Nat.succ.inj values]

theorem plain_toString_int (value : Int) : Plain (toString value) := by
  cases value with
  | ofNat value => exact plain_toString_nat value
  | negSucc value =>
      change Plain ("-" ++ toString (value + 1))
      exact plain_append.mpr ⟨by decide, plain_toString_nat _⟩

/-! ### Decimal, with zeros before it -/

def padded (zeros number : Nat) : List Char :=
  List.replicate zeros '0' ++ Nat.toDigits 10 number

theorem ofDigitChars_padded (zeros number : Nat) :
    Nat.ofDigitChars 10 (padded zeros number) 0 = number := by
  unfold padded
  rw [Nat.ofDigitChars_append, Nat.ofDigitChars_replicate_zero, Nat.mul_zero,
    Nat.ofDigitChars_ten_toDigits]

theorem isDigit_padded {zeros number : Nat} {letter : Char}
    (member : letter ∈ padded zeros number) : letter.isDigit = true := by
  rcases List.mem_append.mp member with zero | digit
  · rw [List.eq_of_mem_replicate zero]
    decide
  · exact Nat.isDigit_of_mem_toDigits (by decide) (by decide) digit

theorem padded_ne_nil (zeros number : Nat) : padded zeros number ≠ [] := by
  intro empty
  exact Nat.toDigits_ne_nil (List.append_eq_nil_iff.mp empty).2

theorem digitChar_of_isDigit {letter : Char} (digit : letter.isDigit = true) :
    ∃ value, value < 10 ∧ letter = Nat.digitChar value := by
  have spelled : ∀ value, value < 10 → Nat.digitChar value = Char.ofNat ('0'.toNat + value) := by
    decide
  obtain ⟨least, greatest⟩ := Char.isDigit_iff_toNat.mp digit
  have small : letter.toNat - '0'.toNat < 10 := by
    have nine : '9'.toNat = '0'.toNat + 9 := rfl
    omega
  refine ⟨letter.toNat - '0'.toNat, small, ?_⟩
  rw [spelled _ small, Nat.add_sub_cancel' least, Char.ofNat_toNat]

/-- Digits are the numeral of a number, with zeros before it. -/
theorem padded_digits {letters : List Char} (filled : letters ≠ [])
    (digits : ∀ letter ∈ letters, letter.isDigit = true) :
    ∃ zeros number, letters = padded zeros number := by
  induction letters using List.reverseRecOn with
  | nil => exact absurd rfl filled
  | append_singleton before last ih =>
      obtain ⟨value, small, rfl⟩ := digitChar_of_isDigit
        (digits last (List.mem_append_right _ List.mem_cons_self))
      by_cases first : before = []
      · refine ⟨0, value, ?_⟩
        rw [first, padded, Nat.toDigits_of_lt_base small]
        rfl
      · obtain ⟨zeros, number, rfl⟩ := ih first fun letter member =>
          digits letter (List.mem_append_left _ member)
        by_cases nothing : number = 0
        · refine ⟨zeros + 1, value, ?_⟩
          rw [nothing, padded, padded, Nat.toDigits_of_lt_base small, List.replicate_succ']
          rfl
        · refine ⟨zeros, 10 * number + value, ?_⟩
          rw [padded, padded, List.append_assoc, ← Nat.toDigits_of_lt_base small,
            Nat.toDigits_append_toDigits (by decide) (Nat.pos_of_ne_zero nothing) small]

/-! ### Hexadecimal -/

/-- Capital digits, with zeros before them up to the width. -/
def hexDigits (width value : Nat) : List Char :=
  let digits := (Nat.toDigits 16 value).map Char.toUpper
  List.replicate (width - digits.length) '0' ++ digits

def digitValue (digit : Char) : Nat :=
  if digit.isDigit then digit.toNat - '0'.toNat else digit.toNat - 'A'.toNat + 10

def readHex (digits : List Char) : Nat :=
  digits.foldl (fun value digit => value * 16 + digitValue digit) 0

theorem digitValue_upper :
    ∀ digit, digit < 16 → digitValue (Nat.digitChar digit).toUpper = digit := by
  decide

theorem readHex_append_digit (digits : List Char) (digit : Char) :
    readHex (digits ++ [digit]) = readHex digits * 16 + digitValue digit := by
  unfold readHex
  rw [List.foldl_append]
  rfl

theorem readHex_toDigits (value : Nat) :
    readHex ((Nat.toDigits 16 value).map Char.toUpper) = value := by
  induction value using Nat.strongRecOn with
  | ind value ih =>
      by_cases small : value < 16
      · rw [Nat.toDigits_of_lt_base small, List.map_singleton]
        change 0 * 16 + digitValue (Nat.digitChar value).toUpper = value
        rw [digitValue_upper value small, Nat.zero_mul, Nat.zero_add]
      · have last := digitValue_upper (value % 16) (Nat.mod_lt value (by decide))
        rw [Nat.toDigits_of_base_le (by decide) (Nat.not_lt.mp small), List.map_append,
          List.map_singleton, readHex_append_digit, ih (value / 16) (by omega), last]
        omega

theorem readHex_zeros (count : Nat) (digits : List Char) :
    readHex (List.replicate count '0' ++ digits) = readHex digits := by
  induction count with
  | zero => rfl
  | succ count ih =>
      rw [List.replicate_succ, List.cons_append]
      exact ih

theorem readHex_hexDigits (width value : Nat) : readHex (hexDigits width value) = value := by
  unfold hexDigits
  rw [readHex_zeros, readHex_toDigits]

theorem hexDigits_injective {width first second : Nat}
    (same : hexDigits width first = hexDigits width second) : first = second := by
  calc first = readHex (hexDigits width first) := (readHex_hexDigits width first).symm
    _ = readHex (hexDigits width second) := by rw [same]
    _ = second := readHex_hexDigits width second

theorem mem_toDigits {value : Nat} {letter : Char} (member : letter ∈ Nat.toDigits 16 value) :
    ∃ digit, digit < 16 ∧ letter = Nat.digitChar digit := by
  induction value using Nat.strongRecOn with
  | ind value ih =>
      by_cases small : value < 16
      · rw [Nat.toDigits_of_lt_base small] at member
        exact ⟨value, small, List.mem_singleton.mp member⟩
      · rw [Nat.toDigits_of_base_le (by decide) (Nat.not_lt.mp small)] at member
        rcases List.mem_append.mp member with earlier | last
        · exact ih (value / 16) (by omega) earlier
        · exact ⟨value % 16, Nat.mod_lt value (by decide), List.mem_singleton.mp last⟩

theorem upper_plain : ∀ digit, digit < 16 →
    (Nat.digitChar digit).toUpper ≠ ' ' ∧ (Nat.digitChar digit).toUpper ≠ '\n' := by
  decide

theorem plain_hexDigits (width value : Nat) : Plain (String.ofList (hexDigits width value)) := by
  have letters : ∀ letter ∈ hexDigits width value, letter ≠ ' ' ∧ letter ≠ '\n' := by
    intro letter member
    rcases List.mem_append.mp member with zero | upper
    · rw [List.eq_of_mem_replicate zero]
      decide
    · obtain ⟨source, printed, rfl⟩ := List.mem_map.mp upper
      obtain ⟨digit, small, rfl⟩ := mem_toDigits printed
      exact upper_plain digit small
  unfold Plain
  rw [String.toList_ofList]
  exact ⟨fun member => (letters _ member).1 rfl, fun member => (letters _ member).2 rfl⟩

end Numerals
