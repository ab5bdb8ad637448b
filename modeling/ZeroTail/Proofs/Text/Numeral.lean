import Mathlib.Data.List.Induction
import ZeroTail.Proofs.Text.Grammar

/-!
# Spellings of numbers

A plus sign and zeros at the front do not change what is read, so the texts that are read are the
spellings of the numbers that fit in 64 bits: all decimal digits of the number, after any number of
zeros, with or without a plus sign.
-/

namespace ZeroTail
namespace Text
namespace Numeral

/-- A spelling of a number: its decimal digits after any number of zeros, with or without a plus
sign. -/
def spell (plus : Bool) (zeros number : Nat) : List Char :=
  (if plus then ['+'] else []) ++ (List.replicate zeros '0' ++ Nat.toDigits 10 number)

theorem spells_spell (plus : Bool) (zeros number : Nat) :
    Spells (spell plus zeros number) (List.replicate zeros '0' ++ Nat.toDigits 10 number) where
  nonempty := List.append_ne_nil_of_right_ne_nil _ Nat.toDigits_ne_nil
  all_digits := by
    intro digit digit_mem
    rcases List.mem_append.mp digit_mem with zero_mem | number_mem
    · rw [List.eq_of_mem_replicate zero_mem]
      rfl
    · exact Nat.isDigit_of_mem_toDigits (by decide) (by decide) number_mem
  text_eq := by
    cases plus with
    | false => exact Or.inl rfl
    | true => exact Or.inr rfl

theorem placeValue_zeros (zeros number : Nat) :
    placeValue (List.replicate zeros '0' ++ Nat.toDigits 10 number) = number := by
  rw [← ofDigitChars_eq_placeValue, Nat.ofDigitChars_append, Nat.ofDigitChars_replicate_zero,
    Nat.mul_zero, Nat.ofDigitChars_ten_toDigits]

theorem parse_spell {number : Nat} (fits : number < bound) (plus : Bool) (zeros : Nat) :
    parse (spell plus zeros number) = .ok number := by
  have value_eq := placeValue_zeros zeros number
  have value_lt := Nat.lt_of_le_of_lt (Nat.le_of_eq value_eq) fits
  rw [parse_of_spells (spells_spell plus zeros number) value_lt, value_eq]

theorem parse_toString {number : Nat} (fits : number < bound) :
    parse (toString number).toList = .ok number := by
  rw [Nat.toString_eq_ofList_toDigits, String.toList_ofList]
  exact parse_spell fits false 0

/-! ## The texts that are read -/

theorem toDigits_digitValue {digit : Char} (is_digit : digit.isDigit = true) :
    digitValue digit < 10 ∧ Nat.toDigits 10 (digitValue digit) = [digit] := by
  obtain ⟨zero_le, le_nine⟩ := Char.isDigit_iff_toNat.mp is_digit
  have zero_eq : '0'.toNat = 48 := rfl
  have nine_eq : '9'.toNat = 57 := rfl
  have value_lt : digitValue digit < 10 := by
    rw [digitValue]
    omega
  have same_code : (digitValue digit).digitChar.toNat = digit.toNat := by
    rw [Nat.toNat_digitChar_of_lt_ten value_lt, digitValue]
    omega
  exact ⟨value_lt, by rw [Nat.toDigits_of_lt_base value_lt, Char.toNat_inj.mp same_code]⟩

/-- Any digits spell the number they stand for, after some zeros. -/
theorem exists_zeros {digits : List Char} (nonempty : digits ≠ [])
    (all_digits : ∀ digit ∈ digits, digit.isDigit = true) :
    ∃ zeros, digits =
      List.replicate zeros '0' ++ Nat.toDigits 10 (Nat.ofDigitChars 10 digits 0) := by
  induction digits using List.reverseRecOn with
  | nil => contradiction
  | append_singleton earlier last ih =>
      obtain ⟨last_lt, last_eq⟩ :=
        toDigits_digitValue (all_digits last (List.mem_append_right earlier List.mem_cons_self))
      have value_eq : Nat.ofDigitChars 10 (earlier ++ [last]) 0 =
          10 * Nat.ofDigitChars 10 earlier 0 + digitValue last := by
        rw [Nat.ofDigitChars_append, Nat.ofDigitChars_cons, Nat.ofDigitChars_nil, digitValue]
      rw [value_eq]
      by_cases none_earlier : earlier = []
      · subst none_earlier
        refine ⟨0, ?_⟩
        rw [Nat.ofDigitChars_nil, Nat.mul_zero, Nat.zero_add, last_eq]
        rfl
      · obtain ⟨zeros, earlier_eq⟩ := ih none_earlier fun digit digit_mem =>
          all_digits digit (List.mem_append_left [last] digit_mem)
        generalize Nat.ofDigitChars 10 earlier 0 = number at earlier_eq ⊢
        subst earlier_eq
        rcases Nat.eq_zero_or_pos number with rfl | number_pos
        · -- The zero that `number` is spelled by is one more zero before the last digit.
          refine ⟨zeros + 1, ?_⟩
          rw [Nat.mul_zero, Nat.zero_add, last_eq, Nat.toDigits_zero, List.replicate_succ']
        · refine ⟨zeros, ?_⟩
          rw [← Nat.toDigits_append_toDigits (by decide) number_pos last_lt, last_eq,
            List.append_assoc]

theorem parse_lt {text : List Char} {number : Nat} (read : parse text = .ok number) :
    number < bound :=
  (((readByGrammar text).ok_iff number).mp read).2

/-- The texts read as a number are its spellings, if it fits in 64 bits. -/
theorem parse_eq_ok_iff {text : List Char} {number : Nat} :
    parse text = .ok number ↔ number < bound ∧ ∃ plus zeros, text = spell plus zeros number := by
  constructor
  · intro read
    obtain ⟨⟨digits, ⟨nonempty, all_digits, text_eq⟩, value_eq⟩, fits⟩ :=
      ((readByGrammar text).ok_iff number).mp read
    obtain ⟨zeros, digits_eq⟩ := exists_zeros nonempty all_digits
    rw [ofDigitChars_eq_placeValue, value_eq] at digits_eq
    subst digits_eq
    rcases text_eq with rfl | rfl
    · exact ⟨fits, false, zeros, rfl⟩
    · exact ⟨fits, true, zeros, rfl⟩
  · rintro ⟨fits, plus, zeros, rfl⟩
    exact parse_spell fits plus zeros

end Numeral
end Text
end ZeroTail
