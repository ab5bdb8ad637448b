import ZeroTail.Boundary.Count
import ZeroTail.Proofs.Buffer.Bits
import ZeroTail.Proofs.Buffer.Scan

/-!
# What counting calls answer

A checked call owes the first status that applies: the target is looked at first, an empty extent is
good whatever its address, and then the address and the length are looked at.  The plain call on the
same extent answers the count that the checked call writes, and zero where there is none.
-/

namespace ZeroTail
namespace Boundary

/-! ## The exact counts -/

/-- The count of a measure, taken element by element and without a bound. -/
def Kernel.exact : Kernel → Buffer → Nat
  | .tail, buffer => buffer.plainTailLength
  | .bits, buffer => buffer.exactBits

/-- The greatest count of one element. -/
def Kernel.weight : Kernel → Nat
  | .tail => 1
  | .bits => 16

theorem Kernel.exact_le (kernel : Kernel) (buffer : Buffer) :
    kernel.exact buffer ≤ kernel.weight * buffer.length := by
  cases kernel with
  | tail =>
      rw [weight, Nat.one_mul]
      exact buffer.plainTailLength_le
  | bits => exact buffer.exactBits_le

theorem Kernel.toNat_measure (kernel : Kernel) {buffer : Buffer} (short : buffer.length < 2 ^ 60) :
    (kernel.measure buffer).toNat = kernel.exact buffer := by
  cases kernel with
  | tail =>
      have tail_le := buffer.tailLength_le
      have tail_lt : buffer.tailLength < 2 ^ 64 := by omega
      rw [measure, exact, UInt64.toNat_ofNat_of_lt' tail_lt, buffer.tailLength_eq]
  | bits => exact Buffer.toNat_bitTotal_of_length_lt short

/-! ## Statuses -/

/-- An extent that a call reads: it has elements and passes every check. -/
structure Extent.Readable (extent : Extent) : Prop where
  length_ne : extent.length ≠ 0
  address_ne : extent.address ≠ 0
  address_even : extent.address % 2 = 0
  length_le : extent.length ≤ Buffer.maxLength

/-- A target that can be written to: it is there, and it is the start of a slot. -/
def Usable : Option Target → Prop
  | none => False
  | some place => place.Aligned

instance (target : Option Target) : Decidable (Usable target) :=
  match target with
  | none => inferInstanceAs (Decidable False)
  | some place => inferInstanceAs (Decidable place.Aligned)

/-- The status that a checked call owes: the first that applies. -/
def owedStatus (extent : Extent) (target : Option Target) : Status :=
  if ¬ Usable target then .badTarget
  else if extent.length = 0 then .success
  else if extent.address = 0 then .nullAddress
  else if extent.address % 2 = 1 then .oddAddress
  else if Buffer.maxLength < extent.length then .lengthOverflow
  else .success

theorem owedStatus_ne_faulted (extent : Extent) (target : Option Target) :
    owedStatus extent target ≠ .faulted := by
  unfold owedStatus
  split_ifs <;> decide

theorem Status.code_eq_faulted_iff (status : Status) :
    status.code = Status.faulted.code ↔ status = .faulted := by
  cases status <;> decide

theorem Status.code_injective : Function.Injective Status.code := by
  intro left right code_eq
  cases left <;> cases right <;> first | rfl | contradiction

/-- What is accepted has no elements or can be read. -/
theorem Extent.validate_eq_ok_iff (extent : Extent) :
    extent.validate = .ok () ↔ extent.length = 0 ∨ extent.Readable := by
  constructor
  · intro accepted
    by_cases empty : extent.length = 0
    · exact Or.inl empty
    · unfold validate at accepted
      split_ifs at accepted with no_address odd too_long
      exact Or.inr ⟨empty, no_address, not_not.mp odd, Nat.not_lt.mp too_long⟩
  · rintro (empty | readable)
    · rw [validate, if_pos empty]
    · have fits : ¬ Buffer.maxLength < extent.length := Nat.not_lt.mpr readable.length_le
      rw [validate, if_neg readable.length_ne, if_neg readable.address_ne,
        if_neg (not_not.mpr readable.address_even), if_neg fits]

theorem Extent.validate_eq_tooLong_iff {address : Nat} (address_ne : address ≠ 0)
    (address_even : address % 2 = 0) (length : Nat) :
    Extent.validate ⟨address, length⟩ = .error (.tooLong length) ↔ Buffer.maxLength < length := by
  by_cases large : Buffer.maxLength < length
  · have nonempty : length ≠ 0 := Nat.ne_zero_of_lt large
    refine iff_of_true ?_ large
    simp only [validate]
    rw [if_neg nonempty, if_neg address_ne, if_neg (not_not.mpr address_even), if_pos large]
  · refine iff_of_false ?_ large
    intro refused
    have unaccepted : ¬ (length = 0 ∨ Extent.Readable ⟨address, length⟩) := by
      rw [← Extent.validate_eq_ok_iff ⟨address, length⟩, refused]
      exact nofun
    exact unaccepted (or_iff_not_imp_left.mpr fun nonempty =>
      ⟨nonempty, address_ne, address_even, Nat.not_lt.mp large⟩)

theorem Memory.validate_of_length_le (memory : Memory) (index : Nat) {length : Nat}
    (length_le : length ≤ Buffer.maxLength) :
    Extent.validate ⟨memory.base + 2 * index, length⟩ = .ok () := by
  have base_ne := memory.base_ne_zero
  have base_even := memory.base_even
  rw [Extent.validate_eq_ok_iff]
  by_cases empty : length = 0
  · exact Or.inl empty
  · refine Or.inr ⟨empty, ?_, ?_, length_le⟩
    · change memory.base + 2 * index ≠ 0
      omega
    · change (memory.base + 2 * index) % 2 = 0
      omega

theorem Memory.validate_extent {memory : Memory}
    (length_le : memory.cells.length ≤ Buffer.maxLength) : memory.extent.validate = .ok () :=
  memory.validate_of_length_le 0 length_le

/-- With a usable target the status is that of the extent's first defect. -/
theorem owedStatus_of_usable {target : Option Target} (usable : Usable target)
    (extent : Extent) :
    owedStatus extent target =
      match extent.validate with
      | .ok () => .success
      | .error defect => defect.status := by
  unfold owedStatus Extent.validate
  rw [if_neg (not_not.mpr usable)]
  split_ifs <;> first | rfl | omega

/-! ## The two calls -/

theorem count_eq_zero {extent : Extent} (unreadable : ¬ extent.Readable) (kernel : Kernel)
    (memory : Memory) : count kernel memory extent = 0 := by
  unfold count
  split
  · rename_i accepted
    have empty : extent.length = 0 :=
      ((Extent.validate_eq_ok_iff extent).mp accepted).resolve_right unreadable
    rw [Memory.window, empty, List.take_zero]
    cases kernel <;> rfl
  · rfl

theorem count_of_accepted {extent : Extent} (accepted : extent.validate = .ok ())
    (kernel : Kernel) (memory : Memory) :
    count kernel memory extent = kernel.measure (memory.window extent) := by
  rw [count, accepted]

theorem count_eq_measure {extent : Extent} (readable : extent.Readable) (kernel : Kernel)
    (memory : Memory) : count kernel memory extent = kernel.measure (memory.window extent) :=
  count_of_accepted ((Extent.validate_eq_ok_iff extent).mpr (Or.inr readable)) kernel memory

theorem count_extent {memory : Memory} (length_le : memory.cells.length ≤ Buffer.maxLength)
    (kernel : Kernel) : count kernel memory memory.extent = kernel.measure memory.cells := by
  rw [count_of_accepted (Memory.validate_extent length_le), Memory.window_extent]

theorem countInto_of_accepted {extent : Extent} (accepted : extent.validate = .ok ())
    (kernel : Kernel) (memory : Memory) (slot : Nat) (slots : List UInt64) :
    countInto kernel memory extent (some ⟨slot, 0⟩) slots =
      (.success, slots.set slot (kernel.measure (memory.window extent))) := by
  have aligned : Target.Aligned ⟨slot, 0⟩ := rfl
  simp only [countInto]
  rw [if_pos aligned, accepted]

/-- The checked call answers the status owed, and writes the count of the plain call if that status
is success. -/
theorem countInto_eq (kernel : Kernel) (memory : Memory) (extent : Extent)
    (target : Option Target) (slots : List UInt64) :
    countInto kernel memory extent target slots =
      (owedStatus extent target,
        match target with
        | none => slots
        | some place =>
            if owedStatus extent target = .success then
              slots.set place.slot (count kernel memory extent)
            else
              slots) := by
  cases target with
  | none => rfl
  | some place =>
      by_cases aligned : place.Aligned
      · have usable : Usable (some place) := aligned
        simp only [countInto]
        rw [if_pos aligned, owedStatus_of_usable usable, count]
        cases extent.validate with
        | ok accepted => rfl
        | error defect => cases defect <;> rfl
      · have unusable : ¬ Usable (some place) := aligned
        have owed_eq : owedStatus extent (some place) = .badTarget := if_pos unusable
        simp only [countInto]
        rw [if_neg aligned, owed_eq]
        rfl

theorem slots_countInto_of_ne {extent : Extent} {target : Option Target}
    (owed_ne : owedStatus extent target ≠ .success) (kernel : Kernel) (memory : Memory)
    (slots : List UInt64) : (countInto kernel memory extent target slots).2 = slots := by
  rw [countInto_eq]
  cases target with
  | none => rfl
  | some place => exact if_neg owed_ne

theorem length_slots_countInto (kernel : Kernel) (memory : Memory) (extent : Extent)
    (target : Option Target) (slots : List UInt64) :
    (countInto kernel memory extent target slots).2.length = slots.length := by
  rw [countInto_eq]
  cases target with
  | none => rfl
  | some place =>
      simp only
      split
      · exact List.length_set
      · rfl

theorem usable_of_owedStatus_eq {extent : Extent} {target : Option Target}
    (owed_eq : owedStatus extent target = .success) : Usable target := by
  by_contra unusable
  rw [owedStatus, if_pos unusable] at owed_eq
  cases owed_eq

theorem count_of_owedStatus_eq {extent : Extent} {target : Option Target}
    (owed_eq : owedStatus extent target = .success) (kernel : Kernel) (memory : Memory) :
    count kernel memory extent = kernel.measure (memory.window extent) := by
  have usable := usable_of_owedStatus_eq owed_eq
  rw [owedStatus_of_usable usable] at owed_eq
  cases validate_eq : extent.validate with
  | ok accepted => exact count_of_accepted validate_eq kernel memory
  | error defect =>
      rw [validate_eq] at owed_eq
      cases defect <;> cases owed_eq

/-- After a checked call a slot holds the count of the plain call if it is the one that a successful
call was aimed at, and what it held before if not. -/
theorem getElem?_slots_countInto (kernel : Kernel) (memory : Memory) (extent : Extent)
    (target : Option Target) (slots : List UInt64) (slot : Nat) :
    (countInto kernel memory extent target slots).2[slot]? =
      if owedStatus extent target = .success ∧ target = some ⟨slot, 0⟩ then
        slots[slot]?.map fun _ => count kernel memory extent
      else
        slots[slot]? := by
  by_cases owed_eq : owedStatus extent target = .success
  · have usable := usable_of_owedStatus_eq owed_eq
    rw [countInto_eq]
    cases target with
    | none => exact usable.elim
    | some place =>
        obtain ⟨aim, shift⟩ := place
        have shift_eq : shift = 0 := usable
        subst shift_eq
        simp only [owed_eq, if_true, true_and, Option.some.injEq, Target.mk.injEq, and_true]
        by_cases aim_eq : aim = slot
        · rw [if_pos aim_eq, aim_eq, List.getElem?_set_self']
          rfl
        · rw [if_neg aim_eq, List.getElem?_set_ne aim_eq]
  · have kept : ¬ (owedStatus extent target = .success ∧ target = some ⟨slot, 0⟩) :=
      fun both => owed_eq both.1
    rw [if_neg kept, slots_countInto_of_ne owed_eq]

end Boundary
end ZeroTail
