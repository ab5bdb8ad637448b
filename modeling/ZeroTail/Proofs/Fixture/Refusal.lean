import ZeroTail.Fixture

/-!
# When a fixture is refused

A fixture is refused for what its parameters show before the first draw: a tail that does not fit, a
length past the size limit, a ratio that is not a number.  In all other cases it is made.
-/

namespace ZeroTail
namespace Fixture

open Sampling

section Reserve

variable {length : Nat}

theorem reserve_of_le (fits : length ≤ Buffer.maxLength) : reserve length = .ok () := by
  rw [reserve_eq, if_neg (Nat.not_lt.mpr fits)]

theorem reserve_of_lt (large : Buffer.maxLength < length) :
    reserve length = .error .capacityOverflow := by
  rw [reserve_eq, if_pos large]

end Reserve

section Uniform

variable {length : Nat}

theorem uniform_of_large (large : Buffer.maxLength < length) (seed : UInt64) :
    uniform length seed = .error .capacityOverflow := by
  rw [uniform, reserve_of_lt large]
  rfl

theorem uniform_of_le (small : length ≤ Buffer.maxLength) (seed : UInt64) :
    uniform length seed =
      .ok (draws (·.between 0 greatestUniform) length (Source.ofSeed seed)).1 := by
  rw [uniform, reserve_of_le small]
  rfl

theorem uniform_eq_ok_iff {seed : UInt64} {buffer : Buffer} :
    uniform length seed = .ok buffer ↔ length ≤ Buffer.maxLength ∧
      (draws (·.between 0 greatestUniform) length (Source.ofSeed seed)).1 = buffer := by
  rcases Nat.lt_or_ge Buffer.maxLength length with large | small
  · simp [uniform_of_large large, Nat.not_le.mpr large]
  · simp [uniform_of_le small, small]

theorem exists_uniform (small : length ≤ Buffer.maxLength) (seed : UInt64) :
    ∃ buffer : Buffer, uniform length seed = .ok buffer ∧ buffer.length = length :=
  ⟨_, uniform_of_le small seed, draws_length _ _ _⟩

end Uniform

section WithTail

variable {length zeros : Nat}

theorem withTail_of_lt (long : length < zeros) (seed : UInt64) :
    withTail length zeros seed = .error (.tailTooLong zeros length) := by
  rw [withTail, if_pos long]

theorem withTail_of_large (fits : zeros ≤ length) (large : Buffer.maxLength < length)
    (seed : UInt64) : withTail length zeros seed = .error .capacityOverflow := by
  rw [withTail, if_neg (Nat.not_lt.mpr fits), reserve_of_lt large]
  rfl

/-- All elements are drawn before the tail is closed. -/
theorem withTail_of_le (fits : zeros ≤ length) (small : length ≤ Buffer.maxLength)
    (seed : UInt64) :
    withTail length zeros seed =
      .ok (closeWith (draws Source.element length (Source.ofSeed seed)).1 zeros
        (draws Source.element length (Source.ofSeed seed)).2) := by
  rw [withTail, if_neg (Nat.not_lt.mpr fits), reserve_of_le small]
  rfl

theorem withTail_eq_ok_iff {seed : UInt64} {buffer : Buffer} :
    withTail length zeros seed = .ok buffer ↔ (zeros ≤ length ∧ length ≤ Buffer.maxLength) ∧
      closeWith (draws Source.element length (Source.ofSeed seed)).1 zeros
        (draws Source.element length (Source.ofSeed seed)).2 = buffer := by
  rcases Nat.lt_or_ge length zeros with long | fits
  · simp [withTail_of_lt long, Nat.not_le.mpr long]
  · rcases Nat.lt_or_ge Buffer.maxLength length with large | small
    · simp [withTail_of_large fits large, Nat.not_le.mpr large]
    · simp [withTail_of_le fits small, fits, small]

end WithTail

section Sparse

variable {length : Nat}

theorem sparse_of_large (large : Buffer.maxLength < length) (ratio : Ratio) (seed : UInt64) :
    sparse length ratio seed = .error .capacityOverflow := by
  rw [sparse, reserve_of_lt large]
  rfl

/-- A ratio that is not a number is a fault as soon as there is an element to draw. -/
theorem sparse_of_notANumber (nonempty : length ≠ 0) (small : length ≤ Buffer.maxLength)
    (seed : UInt64) : sparse length .notANumber seed = .error .undefinedProbability := by
  rw [sparse, reserve_of_le small]
  exact if_neg nonempty

theorem sparse_zero (ratio : Ratio) (seed : UInt64) : sparse 0 ratio seed = .ok [] := by
  cases ratio <;> rfl

theorem sparse_of_chance {ratio : Ratio} {chance : Chance}
    (chance_eq : ratio.chance? = some chance) (small : length ≤ Buffer.maxLength)
    (seed : UInt64) :
    sparse length ratio seed =
      .ok (draws (zeroIf chance) length (Source.ofSeed seed)).1 := by
  rw [sparse, reserve_of_le small, chance_eq]
  rfl

theorem sparse_eq_ok_iff {ratio : Ratio} {seed : UInt64} {buffer : Buffer} :
    sparse length ratio seed = .ok buffer ↔ length ≤ Buffer.maxLength ∧
      ((length = 0 ∧ buffer = []) ∨ ∃ chance, ratio.chance? = some chance ∧
        (draws (zeroIf chance) length (Source.ofSeed seed)).1 = buffer) := by
  rcases Nat.lt_or_ge Buffer.maxLength length with large | small
  · simp [sparse_of_large large, Nat.not_le.mpr large]
  · by_cases empty : length = 0
    · subst empty
      cases ratio.chance? <;> simp [sparse_zero, small, eq_comm]
    · cases chance_eq : ratio.chance? with
      | none =>
          obtain rfl := ratio.chance?_eq_none_iff.mp chance_eq
          simp [sparse_of_notANumber empty small, empty]
      | some chance => simp [sparse_of_chance chance_eq small, small, empty]

end Sparse

end Fixture
end ZeroTail
