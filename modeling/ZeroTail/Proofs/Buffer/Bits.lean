import Mathlib.Algebra.Group.Nat.Defs
import ZeroTail.Buffer.Bits

/-!
# When the bit total is exact

The bit total is the sum of the trailing zero bits of the elements, taken modulo `2^64`.  An element
has at most sixteen of them, so a buffer of fewer than `2^60` elements has an exact total.
-/

namespace ZeroTail
namespace Buffer

@[simp]
theorem exactBits_nil : exactBits [] = 0 := rfl

@[simp]
theorem exactBits_cons (element : UInt16) (buffer : Buffer) :
    exactBits (element :: buffer) = zeroBits element + exactBits buffer := rfl

theorem exactBits_le (buffer : Buffer) : buffer.exactBits ≤ 16 * buffer.length := by
  induction buffer with
  | nil => exact Nat.le_refl 0
  | cons element buffer ih =>
      have element_le := zeroBits_le element
      rw [exactBits_cons, List.length_cons]
      omega

theorem exactBits_append (left right : Buffer) :
    exactBits (left ++ right) = left.exactBits + right.exactBits := by
  induction left with
  | nil => exact (Nat.zero_add _).symm
  | cons element left ih =>
      rw [List.cons_append, exactBits_cons, exactBits_cons, ih, Nat.add_assoc]

theorem exactBits_replicate (count : Nat) (element : UInt16) :
    exactBits (List.replicate count element) = count * zeroBits element := by
  induction count with
  | zero => exact (Nat.zero_mul _).symm
  | succ count ih =>
      rw [List.replicate_succ, exactBits_cons, ih, Nat.succ_mul, Nat.add_comm]

theorem exactBits_le_of_isPrefix {part buffer : Buffer} (begins : part <+: buffer) :
    part.exactBits ≤ buffer.exactBits := by
  obtain ⟨rest, rfl⟩ := begins
  rw [exactBits_append]
  exact Nat.le_add_right _ _

private theorem toNat_foldl_add (buffer : Buffer) (total : UInt64) :
    (buffer.foldl (fun total element => total + UInt64.ofNat (zeroBits element)) total).toNat =
      (total.toNat + buffer.exactBits) % 2 ^ 64 := by
  induction buffer generalizing total with
  | nil =>
      have total_lt := total.toNat_lt
      rw [List.foldl_nil, exactBits_nil, Nat.add_zero, Nat.mod_eq_of_lt total_lt]
  | cons element buffer ih =>
      have element_le := zeroBits_le element
      have element_eq : (UInt64.ofNat (zeroBits element)).toNat = zeroBits element :=
        UInt64.toNat_ofNat_of_lt' (Nat.lt_of_le_of_lt element_le (by decide))
      rw [List.foldl_cons, ih, UInt64.toNat_add, element_eq, exactBits_cons, Nat.mod_add_mod,
        Nat.add_assoc]

/-- The total is the exact number of bits, modulo `2^64`. -/
theorem toNat_bitTotal (buffer : Buffer) : buffer.bitTotal.toNat = buffer.exactBits % 2 ^ 64 := by
  rw [bitTotal, toNat_foldl_add]
  simp

theorem exactBits_lt_of_length_lt {buffer : Buffer} (short : buffer.length < 2 ^ 60) :
    buffer.exactBits < 2 ^ 64 := by
  have bits_le := exactBits_le buffer
  omega

theorem toNat_bitTotal_of_length_lt {buffer : Buffer} (short : buffer.length < 2 ^ 60) :
    buffer.bitTotal.toNat = buffer.exactBits := by
  rw [toNat_bitTotal, Nat.mod_eq_of_lt (exactBits_lt_of_length_lt short)]

end Buffer
end ZeroTail
