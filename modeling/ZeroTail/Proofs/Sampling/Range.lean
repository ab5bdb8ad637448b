import Mathlib.Algebra.Group.Nat.Defs
import ZeroTail.Sampling.Range

/-!
# Samples stay within their range

A word scaled by a range has its whole part below the range.  A carry would lead out of the range
only from the greatest whole part, but there the fraction left over is too small to carry: the
greatest word falls short of `2^32` by one, and so its scaled value falls short by the range.  For
ranges of elements the rule can be computed in words of 64 bits (`sampleWord`), which never wrap.
-/

namespace ZeroTail
namespace Sampling

theorem wholePart_lt {range : Nat} (range_pos : 0 < range) (word : UInt32) :
    wholePart range word < range := by
  have word_lt : word.toNat < UInt32.size := word.toNat_lt
  have scaled_lt : word.toNat * range < UInt32.size * range :=
    Nat.mul_lt_mul_of_pos_right word_lt range_pos
  exact Nat.div_lt_of_lt_mul scaled_lt

theorem wholePart_succ_lt {range : Nat} {word : UInt32} (may_carry : MayCarry range word) :
    wholePart range word + 1 < range := by
  have word_le : word.toNat ≤ UInt32.size - 1 := Nat.le_pred_of_lt word.toNat_lt
  have scaled_le : word.toNat * range ≤ (UInt32.size - 1) * range :=
    Nat.mul_le_mul_right range word_le
  have short_of : (UInt32.size - 1) * range = UInt32.size * range - range := Nat.sub_one_mul _ _
  simp only [MayCarry, fraction, wholePart, UInt32.size] at *
  omega

theorem sample_lt {range : Nat} (range_pos : 0 < range) (first second : UInt32) :
    sample range first second < range := by
  unfold sample
  split
  · rename_i carries
    exact wholePart_succ_lt carries.1
  · exact wholePart_lt range_pos first

theorem least_add_sample_le {least greatest : Nat} (least_le : least ≤ greatest)
    (first second : UInt32) : least + sample (greatest - least + 1) first second ≤ greatest := by
  have below : sample (greatest - least + 1) first second < greatest - least + 1 :=
    sample_lt (Nat.succ_pos _) first second
  omega

/-- An element drawn from `least` to `greatest` is the sample of the next two words above `least`,
and the sum does not wrap. -/
theorem Source.toNat_between {least greatest : Nat} (least_le : least ≤ greatest)
    (greatest_lt : greatest < UInt16.size) (source : Source) :
    (source.between least greatest).1.toNat =
      least + sample (greatest - least + 1) (source.key.word source.position)
        (source.key.word (source.position + 1)) := by
  have value_eq := between_value least greatest source.key source.position
  rw [← source.eq_atPosition] at value_eq
  rw [value_eq]
  exact UInt16.toNat_ofNat_of_lt'
    (Nat.lt_of_le_of_lt (least_add_sample_le least_le _ _) greatest_lt)

theorem Source.between_mem {least greatest : Nat} (least_le : least ≤ greatest)
    (greatest_lt : greatest < UInt16.size) (source : Source) :
    least ≤ (source.between least greatest).1.toNat ∧
      (source.between least greatest).1.toNat ≤ greatest := by
  rw [source.toNat_between least_le greatest_lt]
  exact ⟨Nat.le_add_right _ _, least_add_sample_le least_le _ _⟩

/-! ## The sample in machine words -/

/-- The upper half of a word scaled by a range, in 64 bits. -/
def upperHalf (range : UInt64) (word : UInt32) : UInt64 :=
  (word.toUInt64 * range) >>> 32

/-- The lower half of a word scaled by a range, in 64 bits. -/
def lowerHalf (range : UInt64) (word : UInt32) : UInt64 :=
  (word.toUInt64 * range) &&& 0xffffffff

/-- The sample of two words, computed in words of 64 bits. -/
def sampleWord (range : UInt64) (first second : UInt32) : UInt64 :=
  if 0x100000000 - range < lowerHalf range first ∧
      0x100000000 ≤ lowerHalf range first + upperHalf range second then
    upperHalf range first + 1
  else
    upperHalf range first

section Words

variable {range : UInt64}

theorem toNat_product (range_le : range ≤ 65536) (word : UInt32) :
    (word.toUInt64 * range).toNat = word.toNat * range.toNat := by
  have word_lt : word.toNat < 2 ^ 32 := word.toNat_lt
  have range_small : range.toNat ≤ 65536 := range_le
  rw [UInt64.toNat_mul, UInt32.toNat_toUInt64]
  apply Nat.mod_eq_of_lt
  calc
    word.toNat * range.toNat ≤ word.toNat * 65536 := Nat.mul_le_mul_left _ range_small
    _ < 2 ^ 64 := by omega

theorem toNat_upperHalf (range_le : range ≤ 65536) (word : UInt32) :
    (upperHalf range word).toNat = wholePart range.toNat word := by
  rw [upperHalf, UInt64.toNat_shiftRight, toNat_product range_le, Nat.shiftRight_eq_div_pow]
  rfl

theorem toNat_lowerHalf (range_le : range ≤ 65536) (word : UInt32) :
    (lowerHalf range word).toNat = fraction range.toNat word := by
  rw [lowerHalf, UInt64.toNat_and, toNat_product range_le]
  exact Nat.and_two_pow_sub_one_eq_mod _ 32

/-- Words of 64 bits are wide enough for every sample of an element. -/
theorem toNat_sampleWord (range_pos : 1 ≤ range) (range_le : range ≤ 65536)
    (first second : UInt32) :
    (sampleWord range first second).toNat = sample range.toNat first second := by
  have range_small : range.toNat ≤ 65536 := range_le
  have whole_lt : wholePart range.toNat first < range.toNat := wholePart_lt range_pos first
  have next_lt : wholePart range.toNat second < range.toNat := wholePart_lt range_pos second
  have low_lt : fraction range.toNat first < 2 ^ 32 := Nat.mod_lt _ (by decide)
  have limit_eq : (0x100000000 - range).toNat = UInt32.size - range.toNat :=
    UInt64.toNat_sub_of_le _ _ (UInt64.le_trans range_le (by decide))
  have sum_eq : (lowerHalf range first + upperHalf range second).toNat =
      fraction range.toNat first + wholePart range.toNat second := by
    rw [UInt64.toNat_add, toNat_lowerHalf range_le, toNat_upperHalf range_le]
    exact Nat.mod_eq_of_lt (by omega)
  have carries_iff : (0x100000000 - range < lowerHalf range first ∧
        0x100000000 ≤ lowerHalf range first + upperHalf range second) ↔
      MayCarry range.toNat first ∧
        UInt32.size ≤ fraction range.toNat first + wholePart range.toNat second := by
    rw [UInt64.lt_iff_toNat_lt, UInt64.le_iff_toNat_le, limit_eq, sum_eq, toNat_lowerHalf range_le]
    rfl
  rw [sampleWord, sample]
  by_cases carries : MayCarry range.toNat first ∧
      UInt32.size ≤ fraction range.toNat first + wholePart range.toNat second
  · rw [if_pos (carries_iff.mpr carries), if_pos carries, UInt64.toNat_add,
      toNat_upperHalf range_le]
    exact Nat.mod_eq_of_lt (Nat.lt_of_le_of_lt (Nat.succ_le_of_lt whole_lt) range.toNat_lt)
  · rw [if_neg (mt carries_iff.mp carries), if_neg carries, toNat_upperHalf range_le]

end Words

end Sampling
end ZeroTail
