import Mathlib.Algebra.Order.Archimedean.Real.Basic
import Mathlib.Algebra.Order.Floor.Semifield
import Mathlib.Data.EReal.Basic
import Mathlib.Tactic.FieldSimp
import ZeroTail.Sampling.Ratio

/-!
# The numbers that ratios are

The 64 bits of a ratio have three fields, and what they denote is an extended real number or no
number at all.  Decoding keeps that number exactly, and the chance of a ratio depends on it alone:
the event is certain from one upwards, and below one its threshold is the whole part of `2^64` times
the number.  So a greater number has a greater chance, and a number below `2^-64` has none.
-/

namespace ZeroTail
namespace Sampling
namespace Ratio

/-! ## What 64 bits denote -/

/-- The sign, which is the first bit. -/
def signField (bits : UInt64) : Nat := bits.toNat / 2 ^ 63

/-- The exponent, which is in the eleven bits after the sign. -/
def exponentField (bits : UInt64) : Nat := bits.toNat / 2 ^ 52 % 2 ^ 11

/-- The fraction, which is in the last 52 bits. -/
def fractionField (bits : UInt64) : Nat := bits.toNat % 2 ^ 52

/-- The size of a finite number. The exponent zero marks a number without the leading one. -/
noncomputable def size (exponent fraction : Nat) : ℝ :=
  if exponent = 0 then
    fraction / 2 ^ 52 * 2 ^ (-1022 : ℤ)
  else
    (1 + fraction / 2 ^ 52) * 2 ^ ((exponent : ℤ) - 1023)

/-- The number that 64 bits denote as a binary floating-point number. The greatest exponent marks
what is infinite and what is not a number. -/
noncomputable def denoted? (bits : UInt64) : Option EReal :=
  if exponentField bits = 2047 then
    if fractionField bits = 0 then some (if signField bits = 1 then ⊥ else ⊤) else none
  else
    some (((-1) ^ signField bits * size (exponentField bits) (fractionField bits) : ℝ) : EReal)

theorem denoted?_eq_zpow {bits : UInt64} (sign_eq : signField bits = 0)
    (fraction_eq : fractionField bits = 0) (exponent_pos : exponentField bits ≠ 0)
    (exponent_ne : exponentField bits ≠ 2047) :
    denoted? bits = some ((2 ^ ((exponentField bits : ℤ) - 1023) : ℝ) : EReal) := by
  rw [denoted?, if_neg exponent_ne, sign_eq, fraction_eq, size, if_neg exponent_pos]
  simp

/-- The number that a decoded ratio is. -/
noncomputable def value? : Ratio → Option EReal
  | .notANumber => none
  | .infinite negative => some (if negative then ⊥ else ⊤)
  | .finite units => some ((units / one : ℝ) : EReal)

theorem cast_powerOfTwo (exponent : Nat) : (powerOfTwo exponent : ℝ) = 2 ^ exponent := by
  rw [powerOfTwo, Nat.pow_eq, Nat.cast_pow, Nat.cast_ofNat]

theorem div_one_eq (number : ℝ) : number / one = number * 2 ^ (-1074 : ℤ) := by
  rw [one, cast_powerOfTwo, div_eq_mul_inv, ← zpow_natCast, ← zpow_neg]
  rfl

theorem magnitude_div_one (exponent fraction : Nat) :
    (magnitude exponent fraction : ℝ) / one = size exponent fraction := by
  have two_ne : (2 : ℝ) ≠ 0 := two_ne_zero
  rw [div_one_eq]
  cases exponent with
  | zero =>
      have scale_eq : (2 : ℝ) ^ (-1022 : ℤ) = 2 ^ 52 * 2 ^ (-1074 : ℤ) := by
        rw [← zpow_natCast, ← zpow_add₀ two_ne]
        rfl
      rw [magnitude, size, if_pos rfl, if_pos rfl, scale_eq]
      field_simp
  | succ exponent =>
      have scale_eq : (2 : ℝ) ^ (((exponent + 1 : ℕ) : ℤ) - 1023) =
          2 ^ exponent * 2 ^ 52 * 2 ^ (-1074 : ℤ) := by
        rw [← zpow_natCast, ← zpow_natCast, ← zpow_add₀ two_ne, ← zpow_add₀ two_ne]
        congr 1
        push_cast
        ring
      rw [magnitude, size, if_neg exponent.succ_ne_zero, if_neg exponent.succ_ne_zero, scale_eq,
        fractions, Nat.add_sub_cancel, Nat.cast_mul, Nat.cast_add, cast_powerOfTwo,
        cast_powerOfTwo]
      field_simp

theorem signField_cases (bits : UInt64) : signField bits = 0 ∨ signField bits = 1 := by
  have bits_lt : bits.toNat < 2 ^ 64 := bits.toNat_lt
  rw [signField]
  omega

theorem signField_eq_one_iff (bits : UInt64) :
    signField bits = 1 ↔ exponents * fractions ≤ bits.toNat := by
  have bits_lt : bits.toNat < 2 ^ 64 := bits.toNat_lt
  have product_eq : exponents * fractions = 2 ^ 63 := by decide
  rw [product_eq, signField]
  omega

/-- Decoding keeps the number that the bits denote. -/
theorem value?_ofBits (bits : UInt64) : (ofBits bits).value? = denoted? bits := by
  have exponent_eq : bits.toNat / fractions % exponents = exponentField bits := rfl
  have fraction_eq : bits.toNat % fractions = fractionField bits := rfl
  have greatest_eq : exponents - 1 = 2047 := by decide
  simp only [ofBits, exponent_eq, fraction_eq, greatest_eq, ← signField_eq_one_iff, denoted?]
  rcases signField_cases bits with sign | sign
  · simp only [sign, zero_ne_one, decide_false, if_false]
    split_ifs
    · rfl
    · rfl
    · rw [value?, Int.cast_natCast, magnitude_div_one, pow_zero, one_mul]
  · simp only [sign, decide_true, if_true]
    split_ifs
    · rfl
    · rfl
    · rw [value?, Int.cast_neg, Int.cast_natCast, neg_div, magnitude_div_one, pow_one,
        neg_one_mul]

theorem ofBits_eq_notANumber_iff (bits : UInt64) :
    ofBits bits = .notANumber ↔ denoted? bits = none := by
  rw [← value?_ofBits]
  cases ofBits bits with
  | notANumber => exact iff_of_true rfl rfl
  | infinite negative => exact iff_of_false nofun nofun
  | finite units => exact iff_of_false nofun nofun

/-! ## The chance of a number -/

/-- The chance that a number stands for. No number below zero has a whole part here. -/
noncomputable def chanceOf (value : EReal) : Chance :=
  if 1 ≤ value then .certain else .below ⌊value.toReal * 2 ^ 64⌋₊

theorem one_cast_pos : (0 : ℝ) < one :=
  Nat.cast_pos.mpr one_pos

theorem one_le_finite_iff (units : Int) :
    (1 : EReal) ≤ ((units / one : ℝ) : EReal) ↔ one ≤ units := by
  rw [← EReal.coe_one, EReal.coe_le_coe_iff, le_div_iff₀ one_cast_pos, one_mul]
  exact_mod_cast Iff.rfl

/-- Cutting off the units below a multiple of `2^-64` gives the whole part. -/
theorem floor_finite (units : Int) :
    ⌊(units / one : ℝ) * 2 ^ 64⌋₊ = units.toNat * UInt64.size / one := by
  rcases Int.le_total 0 units with nonneg | nonpos
  · obtain ⟨count, rfl⟩ := Int.eq_ofNat_of_zero_le nonneg
    have size_eq : ((UInt64.size : ℕ) : ℝ) = 2 ^ 64 := by norm_num [UInt64.size]
    have quotient_eq :
        ((count : ℤ) / one : ℝ) * 2 ^ 64 = ((count * UInt64.size : ℕ) : ℝ) / one := by
      rw [Int.cast_natCast, Nat.cast_mul, div_mul_eq_mul_div, size_eq]
    rw [quotient_eq, Nat.floor_div_eq_div, Int.toNat_natCast]
  · have product_nonpos : (units / one : ℝ) * 2 ^ 64 ≤ 0 := by
      apply mul_nonpos_of_nonpos_of_nonneg
      · exact div_nonpos_of_nonpos_of_nonneg (Int.cast_nonpos.mpr nonpos) one_cast_pos.le
      · positivity
    rw [Int.toNat_of_nonpos nonpos, Nat.zero_mul, Nat.zero_div,
      Nat.floor_of_nonpos product_nonpos]

/-- The chance of a ratio depends on its number alone. -/
theorem chance?_eq (ratio : Ratio) : ratio.chance? = ratio.value?.map chanceOf := by
  cases ratio with
  | notANumber => rfl
  | infinite negative =>
      cases negative with
      | false => simp [chance?, value?, chanceOf]
      | true =>
          have below_one : ¬ (1 : EReal) ≤ ⊥ := (EReal.bot_lt_coe 1).not_ge
          simp [chance?, value?, chanceOf, below_one]
  | finite units =>
      rw [value?, Option.map_some, chanceOf, chance?, EReal.toReal_coe, floor_finite]
      simp only [one_le_finite_iff]

theorem chance?_ofBits (bits : UInt64) :
    (ofBits bits).chance? = (denoted? bits).map chanceOf := by
  rw [chance?_eq, value?_ofBits]

theorem chanceOf_of_one_le {value : EReal} (large : 1 ≤ value) : chanceOf value = .certain :=
  if_pos large

/-- A number below `2^-64` has no chance: its product with `2^64` is below one. -/
theorem chanceOf_of_lt {value : EReal} (small : value < ((1 / 2 ^ 64 : ℝ) : EReal)) :
    chanceOf value = .below 0 := by
  have bound_lt : ((1 / 2 ^ 64 : ℝ) : EReal) < 1 := by
    rw [← EReal.coe_one, EReal.coe_lt_coe_iff]
    norm_num
  have floor_eq : ⌊value.toReal * 2 ^ 64⌋₊ = 0 := by
    apply Nat.floor_eq_zero.mpr
    induction value with
    | bot => simp
    | coe number =>
        rw [EReal.coe_lt_coe_iff, lt_div_iff₀ (by positivity)] at small
        rw [EReal.toReal_coe]
        exact small
    | top => exact absurd small not_top_lt
  rw [chanceOf, if_neg (small.trans bound_lt).not_ge, floor_eq]

end Ratio

/-- A chance is at most another one: what makes its event happen makes the other one happen. -/
inductive Chance.AtMost : Chance → Chance → Prop
  | certain (lower : Chance) : AtMost lower .certain
  | below {lower upper : Nat} (le : lower ≤ upper) : AtMost (.below lower) (.below upper)

theorem Ratio.chanceOf_mono {lower upper : EReal} (le : lower ≤ upper) :
    (chanceOf lower).AtMost (chanceOf upper) := by
  rcases le_or_gt 1 upper with large | small
  · rw [chanceOf_of_one_le large]
    exact .certain _
  · rw [chanceOf, chanceOf, if_neg (le.trans_lt small).not_ge, if_neg small.not_ge]
    apply Chance.AtMost.below
    rcases eq_or_ne lower ⊥ with rfl | finite
    · simp
    · have toReal_le : lower.toReal ≤ upper.toReal :=
        EReal.toReal_le_toReal le finite small.ne_top
      exact Nat.floor_mono (mul_le_mul_of_nonneg_right toReal_le (by positivity))

end Sampling
end ZeroTail
