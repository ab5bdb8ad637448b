import ZeroTail.Proofs.Boundary.Count

/-!
# How far the bit total reaches

The length of an extent is checked against the address space, which leaves room for `2^62 - 1`
elements.  The bit total is kept in 64 bits, which is enough for sixteen bits an element below
`2^60` elements.  So below `2^60` elements the total of every extent that is admitted is exact, and
`2^60` is the least length at which the zeros of a buffer have too many bits.
-/

namespace ZeroTail
namespace Boundary

/-- The bit total that is answered about an extent is exact, no sum on the way to it passes 64 bits,
and the checked call succeeds with it. -/
structure TotalExact (memory : Memory) (extent : Extent) : Prop where
  /-- The first elements of the window, however many, have fewer than `2^64` bits together. -/
  sums_fit (part : Buffer) : part <+: memory.window extent → part.exactBits < 2 ^ 64
  count_eq : (count .bits memory extent).toNat = (memory.window extent).exactBits
  countInto_eq (target : Target) (slots : List UInt64) : target.Aligned →
    countInto .bits memory extent (some target) slots =
      (.success, slots.set target.slot (count .bits memory extent))

theorem toNat_count_bits {extent : Extent} (accepted : extent.validate = .ok ())
    (memory : Memory) :
    (count .bits memory extent).toNat = (memory.window extent).exactBits % 2 ^ 64 := by
  rw [count_of_accepted accepted]
  exact Buffer.toNat_bitTotal _

/-- The bits of all elements are the greatest sum on the way, so nothing else is asked for. -/
theorem totalExact_of_exactBits_lt {memory : Memory} {extent : Extent}
    (accepted : extent.validate = .ok ()) (fits : (memory.window extent).exactBits < 2 ^ 64) :
    TotalExact memory extent := by
  constructor
  case sums_fit =>
    intro part begins
    exact Nat.lt_of_le_of_lt (Buffer.exactBits_le_of_isPrefix begins) fits
  case count_eq => rw [toNat_count_bits accepted, Nat.mod_eq_of_lt fits]
  case countInto_eq =>
    rintro ⟨slot, shift⟩ slots aligned
    obtain rfl : shift = 0 := aligned
    rw [countInto_of_accepted accepted, count_of_accepted accepted]

theorem totalExact_of_length_lt {extent : Extent} (accepted : extent.validate = .ok ())
    (short : extent.length < 2 ^ 60) (memory : Memory) : TotalExact memory extent := by
  have window_le : (memory.window extent).length ≤ extent.length := List.length_take_le _ _
  have window_short := Nat.lt_of_le_of_lt window_le short
  exact totalExact_of_exactBits_lt accepted (Buffer.exactBits_lt_of_length_lt window_short)

/-! ## A memory of zeros -/

/-- A memory of so many zeros, and nothing else. -/
def zeroMemory (length : Nat) : Memory where
  base := 65536
  cells := List.replicate length 0
  base_ne_zero := by decide
  base_even := by decide

theorem extent_zeroMemory (length : Nat) : (zeroMemory length).extent = ⟨65536, length⟩ := by
  simp [Memory.extent, zeroMemory]

theorem zeroMemory_covers (length : Nat) : (zeroMemory length).Covers ⟨65536, length⟩ := by
  rw [← extent_zeroMemory]
  exact (zeroMemory length).covers_extent

theorem window_zeroMemory (length : Nat) :
    (zeroMemory length).window ⟨65536, length⟩ = List.replicate length 0 := by
  rw [← extent_zeroMemory, Memory.window_extent, zeroMemory]

theorem exactBits_window_zeroMemory (length : Nat) :
    ((zeroMemory length).window ⟨65536, length⟩).exactBits = length * 16 := by
  rw [window_zeroMemory, Buffer.exactBits_replicate, Buffer.zeroBits_zero]

theorem validate_zeroMemory {length : Nat} (length_le : length ≤ Buffer.maxLength) :
    Extent.validate ⟨65536, length⟩ = .ok () :=
  (zeroMemory length).validate_of_length_le 0 length_le

/-! ## The limit -/

/-- Below `2^60` elements the bit total of every extent that is admitted is exact, whatever the
memory holds.  At each admitted length from `2^60` on there are buffers with `2^64` bits and more,
so no greater limit would do. -/
theorem short_totals_exact :
    (∀ (memory : Memory) (extent : Extent), extent.validate = .ok () → extent.length < 2 ^ 60 →
      TotalExact memory extent) ∧
      ∀ length, 2 ^ 60 ≤ length → length ≤ Buffer.maxLength →
        ∃ (memory : Memory) (address : Nat), Extent.validate ⟨address, length⟩ = .ok () ∧
          memory.Covers ⟨address, length⟩ ∧
          2 ^ 64 ≤ (memory.window ⟨address, length⟩).exactBits := by
  constructor
  · intro memory extent accepted short
    exact totalExact_of_length_lt accepted short memory
  · intro length length_ge length_le
    refine ⟨zeroMemory length, 65536, validate_zeroMemory length_le, zeroMemory_covers length, ?_⟩
    rw [exactBits_window_zeroMemory]
    omega

/-- Three elements with 32 zero bits, counted by both calls. -/
theorem short_totals_exact_three :
    let memory : Memory := ⟨65536, [0x8000, 2, 0], by decide, by decide⟩
    Extent.validate ⟨65536, 3⟩ = .ok () ∧ TotalExact memory ⟨65536, 3⟩ ∧
      (count .bits memory ⟨65536, 3⟩).toNat = 32 := by
  intro memory
  have accepted : Extent.validate ⟨65536, 3⟩ = .ok () := rfl
  have exact_total : TotalExact memory ⟨65536, 3⟩ :=
    short_totals_exact.1 memory ⟨65536, 3⟩ accepted (by decide)
  have bits_eq : (memory.window ⟨65536, 3⟩).exactBits = 32 := by decide
  exact ⟨accepted, exact_total, exact_total.count_eq.trans bits_eq⟩

/-- At `2^60` elements, which are admitted, the bits of a buffer of zeros are `2^64`, one too many
for an exact total; the total answered about them is zero. -/
theorem zeros_wrap_at_two_pow_sixty :
    Extent.validate ⟨65536, 2 ^ 60⟩ = .ok () ∧
      (zeroMemory (2 ^ 60)).Covers ⟨65536, 2 ^ 60⟩ ∧
      ((zeroMemory (2 ^ 60)).window ⟨65536, 2 ^ 60⟩).exactBits = 2 ^ 64 ∧
      count .bits (zeroMemory (2 ^ 60)) ⟨65536, 2 ^ 60⟩ = 0 ∧
      ¬ TotalExact (zeroMemory (2 ^ 60)) ⟨65536, 2 ^ 60⟩ := by
  have accepted : Extent.validate ⟨65536, 2 ^ 60⟩ = .ok () := validate_zeroMemory (by decide)
  have bits_eq := exactBits_window_zeroMemory (2 ^ 60)
  refine ⟨accepted, zeroMemory_covers _, bits_eq, ?_, ?_⟩
  · apply UInt64.toNat_inj.mp
    rw [toNat_count_bits accepted, bits_eq]
    rfl
  · intro exact_total
    have whole_fits := exact_total.sums_fit _ (List.prefix_refl _)
    rw [bits_eq] at whole_fits
    exact absurd whole_fits (by decide)

end Boundary
end ZeroTail
