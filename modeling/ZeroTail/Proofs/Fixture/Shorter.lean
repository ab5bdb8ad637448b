import ZeroTail.Proofs.Fixture.Sparse
import ZeroTail.Proofs.Sampling.Advance

/-!
# A shorter fixture is the beginning of a longer one

The elements of even and of sparse fixtures are drawn one after the other from the keystream of the
seed.  How many words an element takes depends on the words, but a run of draws stops at some word
and a longer run goes on with that word.  So a fixture keeps its contents when a smaller length is
asked of the same seed, and a failing test can be repeated on fewer elements.
-/

namespace ZeroTail
namespace Fixture

open Sampling

/-! ## The words of an element -/

theorem advances_nonzero : Advances nonzero 2 :=
  Advances.between 1 greatestElement

/-- After the number drawn for it an element of a sparse fixture takes no word if it is zero, and
one or two if it is not. -/
theorem advances_afterPair (threshold number : Nat) :
    Advances (fun source => if number < threshold then (0, source) else nonzero source) 2 := by
  by_cases zero : number < threshold
  · simp only [if_pos zero]
    exact (Advances.pure 0).mono (Nat.zero_le 2)
  · simp only [if_neg zero]
    exact advances_nonzero

theorem advances_zeroIf (chance : Chance) : Advances (zeroIf chance) 4 := by
  cases chance with
  | certain =>
      have no_words : Advances (zeroIf .certain) 0 := Advances.pure 0
      exact no_words.mono (Nat.zero_le 4)
  | below threshold =>
      have both := Advances.nextPair.bind (advances_afterPair threshold)
      rw [funext (zeroIf_below threshold)]
      exact both

/-! ## Two lengths of a fixture -/

/-- Two fixtures are drawn in one way from one seed: the shorter one is made of the first elements
of the longer one, and the others are drawn from the word at which the shorter one stopped. -/
structure Shortens (draw : Source → UInt16 × Source) (seed : UInt64) (most : Nat)
    (long short : Buffer) : Prop where
  short_eq : short = long.take short.length
  /-- No element of the shorter one takes more than `most` words. -/
  resumes : ∃ stop ≤ short.length * most,
    (draws draw short.length (Source.ofSeed seed)).2 =
        Source.atPosition (Key.ofSeed seed) stop ∧
      long.drop short.length =
        (draws draw (long.length - short.length) (Source.atPosition (Key.ofSeed seed) stop)).1

/-- Fixtures that are drawn in one way are made in both of two lengths, and one shortens the
other. -/
theorem exists_shortens {draw : Source → UInt16 × Source} {most : Nat}
    (advances : Advances draw most) {seed : UInt64} (make : Nat → Except Fault Buffer)
    (make_eq : ∀ {length}, length ≤ Buffer.maxLength →
      make length = .ok (draws draw length (Source.ofSeed seed)).1)
    {shorter longer : Nat} (le : shorter ≤ longer) (small : longer ≤ Buffer.maxLength) :
    ∃ long short : Buffer, make longer = .ok long ∧ make shorter = .ok short ∧
      long.length = longer ∧ short.length = shorter ∧ Shortens draw seed most long short := by
  have short_length := draws_length draw shorter (Source.ofSeed seed)
  have long_length := draws_length draw longer (Source.ofSeed seed)
  obtain ⟨stop, stop_le, stop_eq, long_eq⟩ := advances.exists_draws_resumed le (Key.ofSeed seed)
  change (draws draw longer (Source.ofSeed seed)).1 =
    (draws draw shorter (Source.ofSeed seed)).1 ++ _ at long_eq
  refine ⟨_, _, make_eq small, make_eq (Nat.le_trans le small), long_length, short_length, ?_⟩
  constructor
  case short_eq => rw [short_length, long_eq, List.take_left' short_length]
  case resumes =>
    rw [short_length, long_length, long_eq, List.drop_left' short_length]
    exact ⟨stop, stop_le, stop_eq, rfl⟩

/-- Of two lengths the shorter fixture of a seed is made of the first elements of the longer one, be
it even or sparse with any ratio that is a number. -/
theorem shorter_begins_longer {shorter longer : Nat} (le : shorter ≤ longer)
    (small : longer ≤ 2 ^ 62 - 1) (seed : UInt64) :
    (∃ long short : Buffer,
      uniform longer seed = .ok long ∧ uniform shorter seed = .ok short ∧
        long.length = longer ∧ short.length = shorter ∧
        Shortens (·.between 0 greatestUniform) seed 2 long short) ∧
      ∀ (bits : UInt64) (value : EReal), Ratio.denoted? bits = some value →
        ∃ long short : Buffer,
          sparse longer (.ofBits bits) seed = .ok long ∧
            sparse shorter (.ofBits bits) seed = .ok short ∧
            long.length = longer ∧ short.length = shorter ∧
            Shortens (zeroIf (Ratio.chanceOf value)) seed 4 long short := by
  constructor
  · exact exists_shortens (Advances.between 0 greatestUniform) (uniform · seed)
      (fun length_le => uniform_of_le length_le seed) le small
  · intro bits value value_eq
    exact exists_shortens (advances_zeroIf _) (sparse · (.ofBits bits) seed)
      (fun length_le => sparse_of_denoted value_eq length_le seed) le small

/-- A fixture of three elements, even or with ratio one half, is the beginning of one of twenty, for
which more than one block of words is read. -/
theorem shorter_begins_longer_half :
    3 ≤ 20 ∧ 20 ≤ 2 ^ 62 - 1 ∧
      Ratio.denoted? 0x3fe0000000000000 = some ((1 / 2 : ℝ) : EReal) ∧
      (∃ long short : Buffer,
        uniform 20 1 = .ok long ∧ uniform 3 1 = .ok short ∧ long.length = 20 ∧ short.length = 3 ∧
          Shortens (·.between 0 greatestUniform) 1 2 long short) ∧
      ∃ long short : Buffer,
        sparse 20 (.ofBits 0x3fe0000000000000) 1 = .ok long ∧
          sparse 3 (.ofBits 0x3fe0000000000000) 1 = .ok short ∧
          long.length = 20 ∧ short.length = 3 ∧
          Shortens (zeroIf (Ratio.chanceOf ((1 / 2 : ℝ) : EReal))) 1 4 long short := by
  have half : Ratio.denoted? 0x3fe0000000000000 = some ((1 / 2 : ℝ) : EReal) := by
    have exponent_eq : Ratio.exponentField 0x3fe0000000000000 = 1022 := by decide
    rw [Ratio.denoted?_eq_zpow (by decide) (by decide) (by decide) (by decide), exponent_eq]
    norm_num
  have both := @shorter_begins_longer 3 20 (by decide) (by decide) 1
  exact ⟨by decide, by decide, half, both.1, both.2 _ _ half⟩

end Fixture
end ZeroTail
