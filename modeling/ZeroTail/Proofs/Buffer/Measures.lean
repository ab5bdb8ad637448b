import Mathlib.Algebra.Group.Nat.Defs
import ZeroTail.Proofs.Buffer.Divisibility
import ZeroTail.Proofs.Buffer.Split

/-!
# The two measures of one buffer

The bit total adds up the elements in any order and over any cuts.  One cut is the boundary of the
zero tail: every zero behind it has sixteen bits, and the element before it has fewer.  So the zero
tail accounts for a known share of the bit total, and the total reaches sixteen bits an element
exactly if the zero tail is the whole buffer.
-/

namespace ZeroTail
namespace Buffer

/-! ## Cuts and order -/

theorem bitTotal_append (front back : Buffer) :
    bitTotal (front ++ back) = front.bitTotal + back.bitTotal := by
  apply UInt64.toNat_inj.mp
  rw [UInt64.toNat_add, toNat_bitTotal, toNat_bitTotal, toNat_bitTotal, exactBits_append,
    ← Nat.add_mod]

theorem toNat_bitTotal_append {front back : Buffer} (short : front.length + back.length < 2 ^ 60) :
    (bitTotal (front ++ back)).toNat = front.bitTotal.toNat + back.bitTotal.toNat := by
  have front_short : front.length < 2 ^ 60 := by omega
  have back_short : back.length < 2 ^ 60 := by omega
  rw [← List.length_append] at short
  rw [toNat_bitTotal_of_length_lt short, toNat_bitTotal_of_length_lt front_short,
    toNat_bitTotal_of_length_lt back_short, exactBits_append]

theorem exactBits_eq_of_perm {buffer other : Buffer} (permuted : buffer.Perm other) :
    buffer.exactBits = other.exactBits := by
  induction permuted with
  | nil => rfl
  | cons element _ ih => rw [exactBits_cons, exactBits_cons, ih]
  | swap first second later =>
      simp only [exactBits_cons]
      omega
  | trans _ _ first_eq second_eq => exact first_eq.trans second_eq

/-- The order of the elements does not matter to the total, even where it wraps. -/
theorem bitTotal_eq_of_perm {buffer other : Buffer} (permuted : buffer.Perm other) :
    buffer.bitTotal = other.bitTotal := by
  apply UInt64.toNat_inj.mp
  rw [toNat_bitTotal, toNat_bitTotal, exactBits_eq_of_perm permuted]

/-! ## Full totals -/

theorem zeroBits_eq_sixteen_iff (element : UInt16) : zeroBits element = 16 ↔ element = 0 := by
  constructor
  · intro bits_eq
    have divides : 2 ^ 16 ∣ element.toNat :=
      (two_pow_dvd_iff_le_trailingZeros (Nat.le_refl 16) _).mpr (Nat.le_of_eq bits_eq.symm)
    exact UInt16.toNat_inj.mp (Nat.eq_zero_of_dvd_of_lt divides element.toNat_lt)
  · rintro rfl
    exact zeroBits_zero

/-- Sixteen bits an element are reached by zeros only. -/
theorem exactBits_eq_sixteen_mul_iff (buffer : Buffer) :
    buffer.exactBits = 16 * buffer.length ↔ ∀ element ∈ buffer, element = 0 := by
  induction buffer with
  | nil => simp
  | cons element later ih =>
      rw [List.forall_mem_cons, ← zeroBits_eq_sixteen_iff, ← ih, exactBits_cons, List.length_cons]
      have element_le := zeroBits_le element
      have later_le := exactBits_le later
      omega

/-! ## The share of the zero tail -/

/-- The zeros of the tail stand for sixteen bits each, and all other bits are in the head. -/
theorem exactBits_eq_trim_add (buffer : Buffer) :
    buffer.exactBits = buffer.trim.exactBits + 16 * buffer.tailLength := by
  calc
    buffer.exactBits = exactBits (buffer.splitTail.1 ++ buffer.splitTail.2) := by
      rw [splitTail_append]
    _ = buffer.trim.exactBits + 16 * buffer.tailLength := by
      rw [exactBits_append, splitTail_snd_eq_replicate, exactBits_replicate, zeroBits_zero,
        Nat.mul_comm, trim]

theorem length_trim_le (buffer : Buffer) : buffer.trim.length ≤ buffer.length := by
  conv_rhs => rw [← splitTail_append buffer, List.length_append]
  exact Nat.le_add_right _ _

/-- What the zero tail of a buffer says about its bit total. -/
structure TotalByTail (buffer : Buffer) : Prop where
  /-- The total is that of the head and sixteen for every zero of the tail. -/
  total_eq : buffer.bitTotal.toNat = buffer.trim.bitTotal.toNat + 16 * buffer.tailLength
  /-- The total is full exactly if the zero tail is the whole buffer. -/
  full_iff : buffer.bitTotal.toNat = 16 * buffer.length ↔ buffer.isZero = true
  /-- In all other cases at least one bit is missing. -/
  lt_of_not_isZero : buffer.isZero = false → buffer.bitTotal.toNat < 16 * buffer.length

theorem totalByTail {buffer : Buffer} (short : buffer.length < 2 ^ 60) : TotalByTail buffer := by
  have total_eq := toNat_bitTotal_of_length_lt short
  have trim_short := Nat.lt_of_le_of_lt (length_trim_le buffer) short
  have full_iff : buffer.exactBits = 16 * buffer.length ↔ buffer.isZero = true := by
    rw [exactBits_eq_sixteen_mul_iff, isZero_iff_forall]
  constructor
  case total_eq => rw [total_eq, toNat_bitTotal_of_length_lt trim_short, exactBits_eq_trim_add]
  case full_iff => rw [total_eq, full_iff]
  case lt_of_not_isZero =>
    intro not_zero
    have not_full : buffer.exactBits ≠ 16 * buffer.length := by
      rw [Ne, full_iff, not_zero]
      exact Bool.false_ne_true
    rw [total_eq]
    exact Nat.lt_of_le_of_ne (exactBits_le buffer) not_full

/-- The bit total of fewer than `2^60` elements is told by its head and the length of its zero tail,
and it is full exactly if the tail is the whole.  At any length the total is the wrapping sum of the
totals of two parts, which does not wrap below `2^60` elements, and keeps its value if the elements
are put in another order. -/
theorem measures_fit_together :
    (∀ buffer : Buffer, buffer.length < 2 ^ 60 → TotalByTail buffer) ∧
      (∀ front back : Buffer, bitTotal (front ++ back) = front.bitTotal + back.bitTotal) ∧
      (∀ front back : Buffer, front.length + back.length < 2 ^ 60 →
        (bitTotal (front ++ back)).toNat = front.bitTotal.toNat + back.bitTotal.toNat) ∧
      ∀ buffer other : Buffer, buffer.Perm other → buffer.bitTotal = other.bitTotal :=
  ⟨fun _ => totalByTail, bitTotal_append, fun _ _ => toNat_bitTotal_append,
    fun _ _ => bitTotal_eq_of_perm⟩

/-- Of the 38 zero bits of five elements the two zeros at the end have 32, and the order of the five
makes no difference. -/
theorem measures_fit_together_mixed :
    ([4, 6, 8, 0, 0] : Buffer).length < 2 ^ 60 ∧
      ([4, 6, 8, 0, 0] : Buffer).Perm [0, 8, 0, 6, 4] ∧
      (bitTotal [4, 6, 8, 0, 0]).toNat = 38 ∧
      (bitTotal [4, 6, 8, 0, 0]).toNat = (bitTotal [4, 6, 8]).toNat + 16 * 2 ∧
      (bitTotal [4, 6, 8, 0, 0]).toNat < 16 * 5 ∧
      (bitTotal [4, 6, 8, 0, 0]).toNat = (bitTotal [4, 6]).toNat + (bitTotal [8, 0, 0]).toNat ∧
      bitTotal [4, 6, 8, 0, 0] = bitTotal [0, 8, 0, 6, 4] := by
  obtain ⟨by_tail, -, additive, order_free⟩ := measures_fit_together
  have short : ([4, 6, 8, 0, 0] : Buffer).length < 2 ^ 60 := by decide
  have permuted : ([4, 6, 8, 0, 0] : Buffer).Perm [0, 8, 0, 6, 4] := by decide
  have told := by_tail _ short
  exact ⟨short, permuted, by decide, told.total_eq, told.lt_of_not_isZero (by decide),
    additive [4, 6] [8, 0, 0] (by decide), order_free _ _ permuted⟩

end Buffer
end ZeroTail
