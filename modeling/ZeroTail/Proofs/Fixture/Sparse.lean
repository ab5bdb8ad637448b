import ZeroTail.Proofs.Fixture.Bounds
import ZeroTail.Proofs.Sampling.Ratio

/-!
# Sparse fixtures and their ratios

Two sparse fixtures of one seed are drawn side by side.  As long as their elements agree, both have
read the same words, unless the greater chance is certain and reads none; so the first element in
which they differ is one that only the greater chance made zero.  A ratio of one or more makes every
element zero and a ratio below `2^-64` makes none zero, whatever the seed.
-/

namespace ZeroTail
namespace Fixture

open Sampling

/-! ## Two chances side by side -/

/-- Two buffers agree up to an element that is zero in the second one only. -/
inductive FirstZeroed : Buffer → Buffer → Prop
  | nil : FirstZeroed [] []
  | agree (element : UInt16) {left right : Buffer} (later : FirstZeroed left right) :
      FirstZeroed (element :: left) (element :: right)
  | zeroed {element : UInt16} (element_ne : element ≠ 0) (left right : Buffer) :
      FirstZeroed (element :: left) (0 :: right)

theorem FirstZeroed.eq_or_exists {left right : Buffer} (zeroed : FirstZeroed left right) :
    left = right ∨ ∃ index, left.take index = right.take index ∧ right[index]? = some 0 ∧
      ∃ element, left[index]? = some element ∧ element ≠ 0 := by
  induction zeroed with
  | nil => exact Or.inl rfl
  | agree element later ih =>
      rcases ih with rfl | ⟨index, take_eq, right_eq, left_ne⟩
      · exact Or.inl rfl
      · refine Or.inr ⟨index + 1, ?_, right_eq, left_ne⟩
        rw [List.take_succ_cons, List.take_succ_cons, take_eq]
  | @zeroed element element_ne left right =>
      exact Or.inr ⟨0, rfl, rfl, element, rfl, element_ne⟩

/-- Below a threshold the element is zero, and otherwise it is drawn from the words after the two
that were compared with the threshold. -/
theorem zeroIf_below (threshold : Nat) (source : Source) :
    zeroIf (.below threshold) source =
      if source.nextPair.1 < threshold then (0, source.nextPair.2)
      else nonzero source.nextPair.2 := by
  simp [zeroIf, Chance.draw]

/-- Two sources are the same, or the upper of the two chances that are drawn from them is certain
and reads no words. -/
def InStep (upper : Chance) (left right : Source) : Prop :=
  upper = .certain ∨ left = right

/-- A draw with a greater chance gives the same element and stays in step, or it gives the first
zero that the lower chance does not give. -/
theorem zeroIf_inStep {lower upper : Chance} (le : lower.AtMost upper) {left right : Source}
    (in_step : InStep upper left right) :
    ((zeroIf lower left).1 = (zeroIf upper right).1 ∧
        InStep upper (zeroIf lower left).2 (zeroIf upper right).2) ∨
      ((zeroIf lower left).1 ≠ 0 ∧ (zeroIf upper right).1 = 0) := by
  cases le with
  | certain =>
      by_cases zero : (zeroIf lower left).1 = 0
      · exact Or.inl ⟨zero, Or.inl rfl⟩
      · exact Or.inr ⟨zero, rfl⟩
  | @below lower upper le =>
      obtain rfl : left = right := in_step.resolve_left nofun
      rw [zeroIf_below, zeroIf_below]
      rcases Nat.lt_or_ge left.nextPair.1 lower with below_lower | above_lower
      · have below_upper := Nat.lt_of_lt_of_le below_lower le
        rw [if_pos below_lower, if_pos below_upper]
        exact Or.inl ⟨rfl, Or.inr rfl⟩
      · rw [if_neg (Nat.not_lt.mpr above_lower)]
        rcases Nat.lt_or_ge left.nextPair.1 upper with below_upper | above_upper
        · rw [if_pos below_upper]
          exact Or.inr ⟨nonzero_ne_zero _, rfl⟩
        · rw [if_neg (Nat.not_lt.mpr above_upper)]
          exact Or.inl ⟨rfl, Or.inr rfl⟩

theorem firstZeroed_draws {lower upper : Chance} (le : lower.AtMost upper) (count : Nat)
    {left right : Source} (in_step : InStep upper left right) :
    FirstZeroed (draws (zeroIf lower) count left).1 (draws (zeroIf upper) count right).1 := by
  induction count generalizing left right with
  | zero => exact .nil
  | succ count ih =>
      rw [draws_succ, draws_succ]
      rcases zeroIf_inStep le in_step with ⟨element_eq, in_step_after⟩ | ⟨element_ne, zero_eq⟩
      · rw [element_eq]
        exact .agree _ (ih in_step_after)
      · rw [zero_eq]
        exact .zeroed element_ne _ _

theorem sparse_of_denoted {length : Nat} {bits : UInt64} {value : EReal}
    (value_eq : Ratio.denoted? bits = some value) (small : length ≤ Buffer.maxLength)
    (seed : UInt64) :
    sparse length (.ofBits bits) seed =
      .ok (draws (zeroIf (Ratio.chanceOf value)) length (Source.ofSeed seed)).1 := by
  apply sparse_of_chance _ small
  rw [Ratio.chance?_ofBits, value_eq, Option.map_some]

/-- A greater ratio makes the same fixture of a seed, or the first element that differs is zero in
it and was not zero before. -/
theorem zeroed_at_first_difference {length : Nat} {lowerBits upperBits : UInt64}
    {lower upper : EReal} (small : length ≤ 2 ^ 62 - 1)
    (lower_eq : Ratio.denoted? lowerBits = some lower)
    (upper_eq : Ratio.denoted? upperBits = some upper) (le : lower ≤ upper) (seed : UInt64) :
    ∃ left right : Buffer,
      sparse length (.ofBits lowerBits) seed = .ok left ∧
        sparse length (.ofBits upperBits) seed = .ok right ∧
        left.length = length ∧ right.length = length ∧
        (left = right ∨ ∃ index, left.take index = right.take index ∧ right[index]? = some 0 ∧
          ∃ element, left[index]? = some element ∧ element ≠ 0) := by
  have zeroed : FirstZeroed
      (draws (zeroIf (Ratio.chanceOf lower)) length (Source.ofSeed seed)).1
      (draws (zeroIf (Ratio.chanceOf upper)) length (Source.ofSeed seed)).1 :=
    firstZeroed_draws (Ratio.chanceOf_mono le) length (Or.inr rfl)
  exact ⟨_, _, sparse_of_denoted lower_eq small seed, sparse_of_denoted upper_eq small seed,
    draws_length _ _ _, draws_length _ _ _, zeroed.eq_or_exists⟩

/-- One quarter and one half make fixtures of four elements that differ. -/
theorem zeroed_at_first_difference_half :
    Ratio.denoted? 0x3fd0000000000000 = some ((1 / 4 : ℝ) : EReal) ∧
      Ratio.denoted? 0x3fe0000000000000 = some ((1 / 2 : ℝ) : EReal) ∧
      ((1 / 4 : ℝ) : EReal) ≤ ((1 / 2 : ℝ) : EReal) ∧
      ∃ left right : Buffer,
        sparse 4 (.ofBits 0x3fd0000000000000) 1 = .ok left ∧
          sparse 4 (.ofBits 0x3fe0000000000000) 1 = .ok right ∧
          left.length = 4 ∧ right.length = 4 ∧
          ∃ index, left.take index = right.take index ∧ right[index]? = some 0 ∧
            ∃ element, left[index]? = some element ∧ element ≠ 0 := by
  have quarter : Ratio.denoted? 0x3fd0000000000000 = some ((1 / 4 : ℝ) : EReal) := by
    have exponent_eq : Ratio.exponentField 0x3fd0000000000000 = 1021 := by decide
    rw [Ratio.denoted?_eq_zpow (by decide) (by decide) (by decide) (by decide), exponent_eq]
    norm_num
  have half : Ratio.denoted? 0x3fe0000000000000 = some ((1 / 2 : ℝ) : EReal) := by
    have exponent_eq : Ratio.exponentField 0x3fe0000000000000 = 1022 := by decide
    rw [Ratio.denoted?_eq_zpow (by decide) (by decide) (by decide) (by decide), exponent_eq]
    norm_num
  have le : ((1 / 4 : ℝ) : EReal) ≤ ((1 / 2 : ℝ) : EReal) := by
    rw [EReal.coe_le_coe_iff]
    norm_num
  have made_ne : sparse 4 (.ofBits 0x3fd0000000000000) 1 ≠
      sparse 4 (.ofBits 0x3fe0000000000000) 1 := by decide +kernel
  obtain ⟨left, right, left_made, right_made, left_length, right_length, same | differ⟩ :=
    zeroed_at_first_difference (by decide : 4 ≤ 2 ^ 62 - 1) quarter half le 1
  · rw [left_made, right_made, same] at made_ne
    exact absurd rfl made_ne
  · exact ⟨quarter, half, le, left, right, left_made, right_made, left_length, right_length, differ⟩

/-! ## Certain and impossible zeros -/

theorem draws_zeroIf_certain (count : Nat) (source : Source) :
    (draws (zeroIf .certain) count source).1 = List.replicate count 0 := by
  induction count generalizing source with
  | zero => rfl
  | succ count ih =>
      rw [draws_succ, List.replicate_succ]
      exact congrArg (List.cons 0) (ih source)

theorem draws_zeroIf_never (count : Nat) (source : Source) :
    ∀ element ∈ (draws (zeroIf (.below 0)) count source).1, element ≠ 0 := by
  apply forall_mem_draws
  intro source
  rw [zeroIf_below, if_neg (Nat.not_lt_zero _)]
  exact nonzero_ne_zero _

section Made

variable {length : Nat} {bits seed : UInt64} {buffer : Buffer} {value : EReal}

theorem length_of_made {ratio : Ratio} (made : sparse length ratio seed = .ok buffer) :
    buffer.length = length := by
  obtain ⟨-, ⟨rfl, rfl⟩ | ⟨chance, -, rfl⟩⟩ := sparse_eq_ok_iff.mp made
  · rfl
  · exact draws_length _ _ _

theorem draws_eq_of_made (made : sparse length (.ofBits bits) seed = .ok buffer)
    (value_eq : Ratio.denoted? bits = some value) :
    (draws (zeroIf (Ratio.chanceOf value)) length (Source.ofSeed seed)).1 = buffer := by
  obtain ⟨small, -⟩ := sparse_eq_ok_iff.mp made
  exact Except.ok.inj ((sparse_of_denoted value_eq small seed).symm.trans made)

theorem eq_replicate_of_one_le (made : sparse length (.ofBits bits) seed = .ok buffer)
    (value_eq : Ratio.denoted? bits = some value) (large : 1 ≤ value) :
    buffer = List.replicate length 0 := by
  rw [← draws_eq_of_made made value_eq, Ratio.chanceOf_of_one_le large, draws_zeroIf_certain]

theorem forall_ne_of_lt (made : sparse length (.ofBits bits) seed = .ok buffer)
    (value_eq : Ratio.denoted? bits = some value) (small : value < ((1 / 2 ^ 64 : ℝ) : EReal)) :
    ∀ element ∈ buffer, element ≠ 0 := by
  rw [← draws_eq_of_made made value_eq, Ratio.chanceOf_of_lt small]
  exact draws_zeroIf_never length _

end Made

/-- What making a sparse fixture from the bits of a ratio comes to. -/
structure SparseOutcome (length : Nat) (bits seed : UInt64) : Prop where
  /-- A length past the limit is told first, even if the ratio is not a number. -/
  overflow_iff : StopsWith (sparse length (.ofBits bits) seed) "capacity overflow" ↔
    2 ^ 62 - 1 < length
  /-- A ratio that is not a number is told at the first draw. -/
  undefined_iff : StopsWith (sparse length (.ofBits bits) seed)
      "p=NaN is outside range [0.0, 1.0]" ↔
    length ≤ 2 ^ 62 - 1 ∧ Ratio.denoted? bits = none ∧ 0 < length
  /-- In all other cases the fixture is made. -/
  made_iff : (∃ buffer, sparse length (.ofBits bits) seed = .ok buffer) ↔
    length ≤ 2 ^ 62 - 1 ∧ (Ratio.denoted? bits = none → length = 0)
  length_eq (buffer : Buffer) : sparse length (.ofBits bits) seed = .ok buffer →
    buffer.length = length
  /-- From one upwards every element is zero. -/
  all_zero (buffer : Buffer) (value : EReal) : sparse length (.ofBits bits) seed = .ok buffer →
    Ratio.denoted? bits = some value → 1 ≤ value →
      (∀ element ∈ buffer, element = 0) ∧ buffer.tailLength = length
  /-- Below `2^-64` no element is zero. -/
  none_zero (buffer : Buffer) (value : EReal) : sparse length (.ofBits bits) seed = .ok buffer →
    Ratio.denoted? bits = some value → value < ((1 / 2 ^ 64 : ℝ) : EReal) →
      (∀ element ∈ buffer, element ≠ 0) ∧ buffer.tailLength = 0

section Outcomes

variable {length : Nat} {bits seed : UInt64}

/-- What is told of a fixture that was made holds in any case. -/
theorem sparseOutcome_of_iffs
    (overflow_iff : StopsWith (sparse length (.ofBits bits) seed) "capacity overflow" ↔
      Buffer.maxLength < length)
    (undefined_iff : StopsWith (sparse length (.ofBits bits) seed)
        "p=NaN is outside range [0.0, 1.0]" ↔
      length ≤ Buffer.maxLength ∧ Ratio.denoted? bits = none ∧ 0 < length)
    (made_iff : (∃ buffer, sparse length (.ofBits bits) seed = .ok buffer) ↔
      length ≤ Buffer.maxLength ∧ (Ratio.denoted? bits = none → length = 0)) :
    SparseOutcome length bits seed where
  overflow_iff := overflow_iff
  undefined_iff := undefined_iff
  made_iff := made_iff
  length_eq _ made := length_of_made made
  all_zero buffer value made value_eq large := by
    obtain rfl := eq_replicate_of_one_le made value_eq large
    exact ⟨fun element => List.eq_of_mem_replicate, Buffer.tailLength_replicate length⟩
  none_zero buffer value made value_eq small := by
    have nonzero := forall_ne_of_lt made value_eq small
    exact ⟨nonzero, Buffer.tailLength_of_forall_ne nonzero⟩

theorem sparseOutcome_of_large (large : Buffer.maxLength < length) :
    SparseOutcome length bits seed := by
  have outcome_eq := sparse_of_large large (.ofBits bits) seed
  have not_small : ¬ length ≤ Buffer.maxLength := Nat.not_le.mpr large
  apply sparseOutcome_of_iffs
  · rw [outcome_eq, stopsWith_error]
    exact iff_of_true rfl large
  · rw [outcome_eq, stopsWith_error]
    exact iff_of_false (by decide) fun all => not_small all.1
  · rw [outcome_eq]
    exact iff_of_false (by simp) fun both => not_small both.1

theorem sparseOutcome_of_undefined (small : length ≤ Buffer.maxLength)
    (undefined : Ratio.denoted? bits = none) (nonempty : length ≠ 0) :
    SparseOutcome length bits seed := by
  have outcome_eq := sparse_of_notANumber nonempty small seed
  rw [← (Ratio.ofBits_eq_notANumber_iff bits).mpr undefined] at outcome_eq
  apply sparseOutcome_of_iffs
  · rw [outcome_eq, stopsWith_error]
    exact iff_of_false (by decide) (Nat.not_lt.mpr small)
  · rw [outcome_eq, stopsWith_error]
    exact iff_of_true rfl ⟨small, undefined, Nat.pos_of_ne_zero nonempty⟩
  · rw [outcome_eq]
    exact iff_of_false (by simp) fun both => nonempty (both.2 undefined)

theorem sparseOutcome_of_made {buffer : Buffer} (small : length ≤ Buffer.maxLength)
    (defined : Ratio.denoted? bits = none → length = 0)
    (made : sparse length (.ofBits bits) seed = .ok buffer) : SparseOutcome length bits seed := by
  apply sparseOutcome_of_iffs
  · rw [made]
    exact iff_of_false (not_stopsWith_ok _ _) (Nat.not_lt.mpr small)
  · rw [made]
    refine iff_of_false (not_stopsWith_ok _ _) ?_
    rintro ⟨-, undefined, nonempty⟩
    exact Nat.ne_of_gt nonempty (defined undefined)
  · exact iff_of_true ⟨buffer, made⟩ ⟨small, defined⟩

end Outcomes

/-- For all bits of a ratio, every length and every seed the fixture is made or refused, and with an
extreme ratio every element or none is zero. -/
theorem sparse_made_or_refused (length : Nat) (bits seed : UInt64) :
    SparseOutcome length bits seed := by
  rcases Nat.lt_or_ge Buffer.maxLength length with large | small
  · exact sparseOutcome_of_large large
  · cases value_eq : Ratio.denoted? bits with
    | some value =>
        exact sparseOutcome_of_made small (by simp [value_eq])
          (sparse_of_denoted value_eq small seed)
    | none =>
        rcases Nat.eq_zero_or_pos length with rfl | nonempty
        · exact sparseOutcome_of_made small (fun _ => rfl) (sparse_zero _ seed)
        · exact sparseOutcome_of_undefined small value_eq (Nat.ne_of_gt nonempty)

end Fixture
end ZeroTail
