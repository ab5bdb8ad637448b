import Mathlib.Algebra.Group.Nat.Defs
import ZeroTail.Proofs.Buffer.Split
import ZeroTail.Proofs.Fixture.Refusal
import ZeroTail.Proofs.Sampling.Range

/-!
# The tail of a fixture is exact

The element before the tail is drawn from the numbers other than zero.  So what stands before the
tail is trimmed, whatever was drawn, and the zero tail of the fixture is the tail asked for.  What
cannot be made is refused with a message that tells why, and a tail that does not fit is told first.
-/

namespace ZeroTail
namespace Fixture

open Sampling

theorem one_le_nonzero (source : Source) : 1 ≤ (nonzero source).1.toNat :=
  (Source.between_mem (by decide) (by decide) source).1

theorem nonzero_ne_zero (source : Source) : (nonzero source).1 ≠ 0 := by
  intro value_eq
  have least_le := one_le_nonzero source
  rw [value_eq, UInt16.toNat_zero] at least_le
  exact absurd least_le (Nat.not_succ_le_zero 0)

theorem closeWith_of_le {elements : Buffer} {zeros : Nat} (full : elements.length ≤ zeros)
    (source : Source) : closeWith elements zeros source = List.replicate zeros 0 := by
  rw [closeWith, Nat.sub_eq_zero_of_le full]

/-- The element before a tail that leaves room takes the place of the one drawn there. -/
theorem closeWith_of_lt {elements : Buffer} {zeros : Nat} (room : zeros < elements.length)
    (source : Source) :
    closeWith elements zeros source =
      elements.take (elements.length - zeros - 1) ++ (nonzero source).1 ::
        List.replicate zeros 0 := by
  unfold closeWith
  split
  · omega
  · rename_i kept head_length
    rw [head_length, Nat.succ_sub_one]

/-- What is closed with a tail that fits is a trimmed head before that tail, as long as the elements
given. -/
theorem exists_parts_closeWith {elements : Buffer} {zeros : Nat} (fits : zeros ≤ elements.length)
    (source : Source) :
    ∃ parts : Buffer.Parts, closeWith elements zeros source = parts.join ∧
      parts.zeros = zeros ∧ parts.join.length = elements.length := by
  rcases Nat.lt_or_eq_of_le fits with room | full
  · have trimmed : Buffer.Trimmed
        (elements.take (elements.length - zeros - 1) ++ [(nonzero source).1]) :=
      Buffer.trimmed_concat (nonzero_ne_zero source) _
    refine ⟨⟨_, zeros, trimmed⟩, ?_, rfl, ?_⟩
    · rw [closeWith_of_lt room, Buffer.Parts.join, List.append_assoc, List.singleton_append]
    · simp only [Buffer.Parts.length_join, List.length_append, List.length_take,
        List.length_singleton]
      omega
  · refine ⟨⟨[], zeros, Buffer.trimmed_nil⟩, ?_, rfl, ?_⟩
    · exact closeWith_of_le (Nat.le_of_eq full.symm) source
    · rw [Buffer.Parts.length_join, List.length_nil, Nat.zero_add, full]

theorem exists_parts_withTail {length zeros : Nat} (fits : zeros ≤ length)
    (small : length ≤ Buffer.maxLength) (seed : UInt64) :
    ∃ parts : Buffer.Parts, withTail length zeros seed = .ok parts.join ∧
      parts.zeros = zeros ∧ parts.join.length = length := by
  have drawn_length := draws_length Source.element length (Source.ofSeed seed)
  rw [withTail_of_le fits small]
  generalize draws Source.element length (Source.ofSeed seed) = drawn at drawn_length ⊢
  rw [← drawn_length] at fits
  obtain ⟨parts, close_eq, zeros_eq, length_eq⟩ := exists_parts_closeWith fits drawn.2
  exact ⟨parts, congrArg Except.ok close_eq, zeros_eq, length_eq.trans drawn_length⟩

/-! ## Messages -/

/-- A computation stops with a fault that has this message. -/
def StopsWith {α : Type} (outcome : Except Fault α) (message : String) : Prop :=
  ∃ fault, outcome = .error fault ∧ fault.message = message

@[simp]
theorem stopsWith_error {α : Type} (fault : Fault) (message : String) :
    StopsWith (.error fault : Except Fault α) message ↔ fault.message = message := by
  simp [StopsWith]

@[simp]
theorem not_stopsWith_ok {α : Type} (value : α) (message : String) :
    ¬ StopsWith (.ok value : Except Fault α) message := by
  simp [StopsWith]

/-- The two messages can be told apart by their first letters. -/
theorem message_tailTooLong_ne (zeros length : Nat) :
    (Fault.tailTooLong zeros length).message ≠ Fault.capacityOverflow.message := by
  intro message_eq
  have first_eq := congrArg (fun text => text.toList.head?) message_eq
  simp [Fault.message] at first_eq

/-! ## Outcomes -/

/-- What making a fixture with a zero tail comes to. -/
structure ExactTail (length zeros : Nat) (seed : UInt64) : Prop where
  /-- A tail that does not fit is told, whether or not the length is past the limit. -/
  misfit_iff : StopsWith (withTail length zeros seed)
      ("tail of " ++ toString zeros ++ " does not fit in " ++ toString length ++ " elements") ↔
    length < zeros
  /-- A length past the limit is told if the tail fits. -/
  overflow_iff : StopsWith (withTail length zeros seed) "capacity overflow" ↔
    zeros ≤ length ∧ 2 ^ 62 - 1 < length
  /-- In all other cases the fixture is made. -/
  made_iff : (∃ buffer, withTail length zeros seed = .ok buffer) ↔
    zeros ≤ length ∧ length ≤ 2 ^ 62 - 1
  /-- What is made has the length asked for, and the block scan finds the tail asked for. -/
  exact (buffer : Buffer) : withTail length zeros seed = .ok buffer →
    buffer.length = length ∧ buffer.tailLength = zeros
  /-- The tail is zeros, and the element before it, if there is one, is not zero. -/
  parted (buffer : Buffer) : withTail length zeros seed = .ok buffer →
    ∃ head : Buffer, head.Trimmed ∧ buffer = head ++ List.replicate zeros 0

theorem exactTail_of_lt {length zeros : Nat} (long : length < zeros) (seed : UInt64) :
    ExactTail length zeros seed := by
  have outcome_eq := withTail_of_lt long seed
  have misfit : ¬ zeros ≤ length := Nat.not_le.mpr long
  constructor
  case misfit_iff =>
    rw [outcome_eq, stopsWith_error]
    exact iff_of_true rfl long
  case overflow_iff =>
    rw [outcome_eq, stopsWith_error]
    exact iff_of_false (message_tailTooLong_ne zeros length) fun both => misfit both.1
  case made_iff => simp [outcome_eq, misfit]
  case exact => simp [outcome_eq]
  case parted => simp [outcome_eq]

theorem exactTail_of_large {length zeros : Nat} (fits : zeros ≤ length)
    (large : Buffer.maxLength < length) (seed : UInt64) : ExactTail length zeros seed := by
  have outcome_eq := withTail_of_large fits large seed
  constructor
  case misfit_iff =>
    rw [outcome_eq, stopsWith_error]
    exact iff_of_false (message_tailTooLong_ne zeros length).symm (Nat.not_lt.mpr fits)
  case overflow_iff =>
    rw [outcome_eq, stopsWith_error]
    exact iff_of_true rfl ⟨fits, large⟩
  case made_iff =>
    rw [outcome_eq]
    exact iff_of_false (by simp) fun both => Nat.not_lt.mpr both.2 large
  case exact => simp [outcome_eq]
  case parted => simp [outcome_eq]

theorem exactTail_of_le {length zeros : Nat} (fits : zeros ≤ length)
    (small : length ≤ Buffer.maxLength) (seed : UInt64) : ExactTail length zeros seed := by
  obtain ⟨parts, outcome_eq, zeros_eq, length_eq⟩ := exists_parts_withTail fits small seed
  constructor
  case misfit_iff => simp [outcome_eq, fits]
  case overflow_iff =>
    rw [outcome_eq]
    exact iff_of_false (by simp) fun both => Nat.not_lt.mpr small both.2
  case made_iff => exact iff_of_true ⟨_, outcome_eq⟩ ⟨fits, small⟩
  case exact =>
    intro buffer made
    obtain rfl : parts.join = buffer := Except.ok.inj (outcome_eq.symm.trans made)
    exact ⟨length_eq, parts.tailLength_join.trans zeros_eq⟩
  case parted =>
    intro buffer made
    obtain rfl : parts.join = buffer := Except.ok.inj (outcome_eq.symm.trans made)
    refine ⟨parts.head, parts.trimmed, ?_⟩
    rw [Buffer.Parts.join, zeros_eq]

/-- For every length, every tail and every seed the tail is exact or refused. -/
theorem tail_exact_or_refused (length zeros : Nat) (seed : UInt64) :
    ExactTail length zeros seed := by
  rcases Nat.lt_or_ge length zeros with long | fits
  · exact exactTail_of_lt long seed
  · rcases Nat.lt_or_ge Buffer.maxLength length with large | small
    · exact exactTail_of_large fits large seed
    · exact exactTail_of_le fits small seed

end Fixture
end ZeroTail
