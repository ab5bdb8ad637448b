import Mathlib.Algebra.Group.Nat.Defs
import ZeroTail.Proofs.Buffer.Append
import ZeroTail.Proofs.Buffer.Bits

/-!
# The measures of an overwritten buffer

A range of a buffer is set to one value.  What stands before the range and what stands behind it
stay, so both measures are found from these parts, the value and what stood in the range before.
For the zero tail it matters where the boundary lies, which is the index at which the tail begins:
a value other than zero moves it to the end of the range at least, and zeros move it only if they
cover the element just before it.
-/

namespace ZeroTail
namespace Buffer

/-! ## Parts of a buffer -/

/-- The elements from index `start` up to index `stop`, which is excluded. -/
def slice (buffer : Buffer) (start stop : Nat) : Buffer :=
  (buffer.take stop).drop start

theorem length_slice_le (buffer : Buffer) (start stop : Nat) :
    (buffer.slice start stop).length ≤ buffer.length := by
  rw [slice, List.length_drop, List.length_take]
  omega

theorem take_append_slice_append_drop {start stop : Nat} (start_le : start ≤ stop)
    (buffer : Buffer) :
    buffer.take start ++ buffer.slice start stop ++ buffer.drop stop = buffer := by
  have front_eq : buffer.take start = (buffer.take stop).take start := by
    rw [List.take_take, Nat.min_eq_left start_le]
  rw [front_eq, slice, List.take_append_drop, List.take_append_drop]

theorem tailLength_lt_length {buffer : Buffer} (other : ∃ element ∈ buffer, element ≠ 0) :
    buffer.tailLength < buffer.length := by
  have tail_ne : ¬ buffer.isZero = true := by
    rw [isZero_iff_forall]
    push Not
    exact other
  rw [isZero, beq_iff_eq] at tail_ne
  exact Nat.lt_of_le_of_ne (tailLength_le buffer) tail_ne

section Cut

variable {buffer : Buffer} {index : Nat}

theorem tailLength_eq_of_zeros (zeros : ∀ element ∈ buffer.drop index, element = 0) :
    buffer.tailLength = buffer.length - index + tailLength (buffer.take index) := by
  conv_lhs => rw [← List.take_append_drop index buffer]
  rw [tailLength_append_of_zeros zeros, List.length_drop]

theorem tailLength_eq_of_exists_ne (other : ∃ element ∈ buffer.drop index, element ≠ 0) :
    buffer.tailLength = tailLength (buffer.drop index) := by
  conv_lhs => rw [← List.take_append_drop index buffer]
  rw [tailLength_append_of_exists_ne other]

theorem tailLength_lt_of_exists_ne (other : ∃ element ∈ buffer.drop index, element ≠ 0) :
    buffer.tailLength < buffer.length - index := by
  rw [tailLength_eq_of_exists_ne other, ← List.length_drop]
  exact tailLength_lt_length other

/-- From an index on there are only zeros exactly if the boundary is not behind it. -/
theorem forall_drop_eq_zero_iff (inside : index ≤ buffer.length) :
    (∀ element ∈ buffer.drop index, element = 0) ↔
      buffer.length - buffer.tailLength ≤ index := by
  constructor
  · intro zeros
    rw [tailLength_eq_of_zeros zeros]
    omega
  · intro boundary_le
    rcases zeros_or_exists_ne (buffer.drop index) with zeros | other
    · exact zeros
    · have tail_lt := tailLength_lt_of_exists_ne other
      omega

end Cut

/-! ## The zero tail -/

section Tail

variable {buffer : Buffer} {start stop : Nat}

theorem tailLength_overwrite_of_exists_ne (other : ∃ element ∈ buffer.drop stop, element ≠ 0)
    (start : Nat) (value : UInt16) :
    (buffer.overwrite start stop value).tailLength = buffer.tailLength := by
  rw [overwrite, tailLength_append_of_exists_ne other, tailLength_eq_of_exists_ne other]

theorem tailLength_overwrite_of_zeros (nonempty : start < stop)
    (zeros : ∀ element ∈ buffer.drop stop, element = 0) {value : UInt16} (value_ne : value ≠ 0) :
    (buffer.overwrite start stop value).tailLength = buffer.length - stop := by
  have range_ne : ∀ element ∈ List.replicate (stop - start) value, element ≠ 0 := by
    intro element element_mem
    rwa [List.eq_of_mem_replicate element_mem]
  have value_mem : value ∈ List.replicate (stop - start) value :=
    List.mem_replicate.mpr ⟨Nat.sub_ne_zero_of_lt nonempty, rfl⟩
  rw [overwrite, tailLength_append_of_zeros zeros,
    tailLength_append_of_exists_ne ⟨value, value_mem, value_ne⟩, tailLength_of_forall_ne range_ne,
    List.length_drop, Nat.add_zero]

/-- A zero tail is cut off at the end of a range of another value than zero. -/
theorem tailLength_overwrite_of_ne (nonempty : start < stop) {value : UInt16}
    (value_ne : value ≠ 0) :
    (buffer.overwrite start stop value).tailLength =
      min buffer.tailLength (buffer.length - stop) := by
  rcases zeros_or_exists_ne (buffer.drop stop) with zeros | other
  · have tail_ge : buffer.length - stop ≤ buffer.tailLength := by
      rw [tailLength_eq_of_zeros zeros]
      exact Nat.le_add_right _ _
    rw [tailLength_overwrite_of_zeros nonempty zeros value_ne, Nat.min_eq_right tail_ge]
  · have tail_lt := tailLength_lt_of_exists_ne other
    rw [tailLength_overwrite_of_exists_ne other, Nat.min_eq_left (Nat.le_of_lt tail_lt)]

/-- A range of zeros joins the zeros behind it with the tail of what stands before it. -/
theorem tailLength_overwrite_zero (start_le : start ≤ stop) (inside : stop ≤ buffer.length)
    (zeros : ∀ element ∈ buffer.drop stop, element = 0) :
    (buffer.overwrite start stop 0).tailLength =
      buffer.length - start + tailLength (buffer.take start) := by
  have range_zeros : ∀ element ∈ List.replicate (stop - start) (0 : UInt16), element = 0 :=
    fun element => List.eq_of_mem_replicate
  rw [overwrite, tailLength_append_of_zeros zeros, tailLength_append_of_zeros range_zeros,
    List.length_drop, List.length_replicate]
  omega

/-- Zeros that do not cover the element before the boundary keep the boundary. -/
theorem tailLength_overwrite_zero_of_kept (start_le : start ≤ stop)
    (inside : stop ≤ buffer.length)
    (kept : ¬ (start < buffer.length - buffer.tailLength ∧
      buffer.length - buffer.tailLength ≤ stop)) :
    (buffer.overwrite start stop 0).tailLength = buffer.tailLength := by
  rcases zeros_or_exists_ne (buffer.drop stop) with zeros | other
  · have boundary_le_stop := (forall_drop_eq_zero_iff inside).mp zeros
    have boundary_le : buffer.length - buffer.tailLength ≤ start := by omega
    have start_inside : start ≤ buffer.length := Nat.le_trans start_le inside
    have zeros_from_start := (forall_drop_eq_zero_iff start_inside).mpr boundary_le
    rw [tailLength_overwrite_zero start_le inside zeros, tailLength_eq_of_zeros zeros_from_start]
  · exact tailLength_overwrite_of_exists_ne other start 0

end Tail

/-! ## The bit total -/

theorem exactBits_eq_of_parts {start stop : Nat} (start_le : start ≤ stop) (buffer : Buffer) :
    buffer.exactBits =
      exactBits (buffer.take start) + (buffer.slice start stop).exactBits +
        exactBits (buffer.drop stop) := by
  conv_lhs => rw [← take_append_slice_append_drop start_le buffer]
  rw [exactBits_append, exactBits_append]

theorem exactBits_overwrite {start stop : Nat} (start_le : start ≤ stop) (buffer : Buffer)
    (value : UInt16) :
    (buffer.overwrite start stop value).exactBits + (buffer.slice start stop).exactBits =
      buffer.exactBits + (stop - start) * zeroBits value := by
  rw [overwrite, exactBits_append, exactBits_append, exactBits_replicate,
    exactBits_eq_of_parts start_le buffer]
  omega

/-! ## Both measures -/

/-- What overwriting a range does to the measures of a buffer. -/
structure Overwritten (buffer : Buffer) (start stop : Nat) (value : UInt16) : Prop where
  /-- Another value than zero cuts the zero tail at the end of the range. -/
  tail_of_ne : value ≠ 0 →
    (buffer.overwrite start stop value).tailLength =
      min buffer.tailLength (buffer.length - stop)
  /-- Zeros over the element before the boundary lead on to the tail of what is before the range. -/
  tail_of_covered : value = 0 → start < buffer.length - buffer.tailLength →
    buffer.length - buffer.tailLength ≤ stop →
      (buffer.overwrite start stop value).tailLength =
        buffer.length - start + tailLength (buffer.take start)
  /-- Zeros within the tail or within the head keep the boundary. -/
  tail_of_kept : value = 0 →
    ¬ (start < buffer.length - buffer.tailLength ∧ buffer.length - buffer.tailLength ≤ stop) →
      (buffer.overwrite start stop value).tailLength = buffer.tailLength
  /-- The bits of the range are exchanged for those of the value. -/
  bits_eq : buffer.length < 2 ^ 60 →
    (buffer.overwrite start stop value).bitTotal.toNat + (buffer.slice start stop).bitTotal.toNat =
      buffer.bitTotal.toNat + (stop - start) * zeroBits value

/-- Overwriting a range that is not empty changes both measures of a buffer by what the range held,
what it holds now and where the boundary lies. -/
theorem overwritten {buffer : Buffer} {start stop : Nat} (nonempty : start < stop)
    (inside : stop ≤ buffer.length) (value : UInt16) : Overwritten buffer start stop value := by
  have start_le : start ≤ stop := Nat.le_of_lt nonempty
  constructor
  case tail_of_ne => exact fun value_ne => tailLength_overwrite_of_ne nonempty value_ne
  case tail_of_covered =>
    rintro rfl - boundary_le
    have zeros := (forall_drop_eq_zero_iff inside).mpr boundary_le
    exact tailLength_overwrite_zero start_le inside zeros
  case tail_of_kept =>
    rintro rfl kept
    exact tailLength_overwrite_zero_of_kept start_le inside kept
  case bits_eq =>
    intro short
    have overwritten_short : (buffer.overwrite start stop value).length < 2 ^ 60 := by
      rwa [overwrite_length start_le inside]
    have slice_short : (buffer.slice start stop).length < 2 ^ 60 :=
      Nat.lt_of_le_of_lt (length_slice_le buffer start stop) short
    rw [toNat_bitTotal_of_length_lt short, toNat_bitTotal_of_length_lt overwritten_short,
      toNat_bitTotal_of_length_lt slice_short, exactBits_overwrite start_le]

/-- Zeros over the boundary of a buffer open the way to the zeros before the range. -/
theorem overwritten_over_boundary :
    3 < 5 ∧ 5 ≤ ([7, 0, 0, 5, 0, 0] : Buffer).length ∧
      Overwritten [7, 0, 0, 5, 0, 0] 3 5 0 ∧
      3 < 6 - tailLength [7, 0, 0, 5, 0, 0] ∧ 6 - tailLength [7, 0, 0, 5, 0, 0] ≤ 5 ∧
      tailLength [7, 0, 0, 0, 0, 0] = 6 - 3 + tailLength [7, 0, 0] := by
  have laws : Overwritten [7, 0, 0, 5, 0, 0] 3 5 0 := overwritten (by decide) (by decide) 0
  exact ⟨by decide, by decide, laws, by decide, by decide,
    laws.tail_of_covered rfl (by decide) (by decide)⟩

end Buffer
end ZeroTail
