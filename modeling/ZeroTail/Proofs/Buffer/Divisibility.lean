import Mathlib.Algebra.Group.Nat.Defs
import Mathlib.Algebra.BigOperators.Group.Finset.Piecewise
import Mathlib.Order.Interval.Finset.Nat
import ZeroTail.Proofs.Buffer.Bits

/-!
# The bit total counted by powers of two

A number has as many trailing zero bits as there are powers of two, from the first power on, that
divide it.  So the bits of a buffer can be counted in the other order: for each power the elements
that it divides.  Zero is divided by all sixteen powers that a width of sixteen bits has.
-/

namespace ZeroTail

/-- A power of two within the width divides a number exactly if its exponent is at most the number
of trailing zero bits. -/
theorem two_pow_dvd_iff_le_trailingZeros {width exponent : Nat} (exponent_le : exponent ≤ width)
    (number : Nat) : 2 ^ exponent ∣ number ↔ exponent ≤ trailingZeros width number := by
  induction width generalizing exponent number with
  | zero =>
      obtain rfl := Nat.le_zero.mp exponent_le
      exact iff_of_true (Nat.one_dvd _) (Nat.zero_le _)
  | succ width ih =>
      cases exponent with
      | zero => exact iff_of_true (Nat.one_dvd _) (Nat.zero_le _)
      | succ exponent =>
          rw [trailingZeros]
          by_cases odd : number % 2 = 1
          · have not_even : ¬ 2 ∣ number := by omega
            have even_of_dvd : 2 ^ (exponent + 1) ∣ number → 2 ∣ number :=
              Nat.dvd_trans (dvd_pow_self 2 exponent.succ_ne_zero)
            rw [if_pos odd]
            exact iff_of_false (mt even_of_dvd not_even) (Nat.not_succ_le_zero exponent)
          · obtain ⟨half, rfl⟩ : 2 ∣ number := by omega
            rw [if_neg odd, Nat.mul_div_cancel_left half (by decide), Nat.pow_succ',
              Nat.mul_dvd_mul_iff_left (by decide), ih (Nat.le_of_succ_le_succ exponent_le) half,
              Nat.succ_le_succ_iff]

namespace Buffer

open Finset

/-- The trailing zero bits of an element are the powers of two that divide it. -/
theorem zeroBits_eq_card (element : UInt16) :
    zeroBits element = #{exponent ∈ Icc 1 16 | 2 ^ exponent ∣ element.toNat} := by
  have powers_eq : {exponent ∈ Icc 1 16 | 2 ^ exponent ∣ element.toNat} =
      Icc 1 (zeroBits element) := by
    ext exponent
    rw [mem_filter, mem_Icc, mem_Icc]
    have bits_le := zeroBits_le element
    constructor
    · rintro ⟨⟨one_le, le_width⟩, divides⟩
      exact ⟨one_le, (two_pow_dvd_iff_le_trailingZeros le_width _).mp divides⟩
    · rintro ⟨one_le, le_bits⟩
      have le_width : exponent ≤ 16 := Nat.le_trans le_bits bits_le
      exact ⟨⟨one_le, le_width⟩, (two_pow_dvd_iff_le_trailingZeros le_width _).mpr le_bits⟩
  rw [powers_eq, Nat.card_Icc, Nat.add_sub_cancel]

theorem exactBits_eq_sum_countP (buffer : Buffer) :
    buffer.exactBits =
      ∑ exponent ∈ Icc 1 16, buffer.countP fun element => 2 ^ exponent ∣ element.toNat := by
  induction buffer with
  | nil => simp
  | cons element buffer ih =>
      rw [exactBits_cons, ih, zeroBits_eq_card, card_filter, ← sum_add_distrib]
      apply sum_congr rfl
      intro exponent _
      rw [List.countP_cons, Nat.add_comm]
      simp only [decide_eq_true_eq]

/-- The bit total of fewer than `2^60` elements is the number of elements that are even, of those
that four divides, and so on up to the sixteenth power of two. -/
theorem toNat_bitTotal_eq_sum_countP {buffer : Buffer} (short : buffer.length < 2 ^ 60) :
    buffer.bitTotal.toNat =
      ∑ exponent ∈ Icc 1 16, buffer.countP fun element => 2 ^ exponent ∣ element.toNat := by
  rw [toNat_bitTotal_of_length_lt short, exactBits_eq_sum_countP]

/-- Zero is counted with all sixteen powers, `0x8000` with fifteen, six with one and seven with
none. -/
theorem toNat_bitTotal_eq_sum_countP_mixed :
    ([0, 0x8000, 6, 7] : Buffer).length < 2 ^ 60 ∧
      bitTotal [0, 0x8000, 6, 7] = 32 ∧
      (bitTotal [0, 0x8000, 6, 7]).toNat =
        ∑ exponent ∈ Icc 1 16,
          ([0, 0x8000, 6, 7] : Buffer).countP fun element => 2 ^ exponent ∣ element.toNat :=
  ⟨by decide, by decide, toNat_bitTotal_eq_sum_countP (by decide)⟩

end Buffer
end ZeroTail
