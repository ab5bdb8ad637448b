import ZeroTail.Fixture.Profile
import ZeroTail.Proofs.Boundary.Count
import ZeroTail.Proofs.Fixture.Tail
import ZeroTail.Proofs.Session.Step

/-!
# Profiles, fixtures and the boundary agree

A length is limited in three places: a profile is validated, the elements of a fixture are reserved,
and an extent is checked at the boundary.  The three limits are one, and although a profile looks at
its length first and a fixture at its tail, they refuse the same parameters.  What is accepted is
made, and a checked call on it counts the tail that the profile asks for.
-/

namespace ZeroTail
namespace Profile

open Boundary Session

section Validate

variable {profile : Profile}

theorem validate_of_large (large : Buffer.maxLength < profile.length) :
    profile.validate = .error (.tooLarge profile.length) :=
  if_pos large

theorem validate_of_long (small : profile.length ≤ Buffer.maxLength)
    (long : profile.length < profile.tail) :
    profile.validate = .error (.tailTooLong profile.tail profile.length) := by
  rw [validate, if_neg (Nat.not_lt.mpr small), if_pos long]

theorem validate_of_fits (small : profile.length ≤ Buffer.maxLength)
    (fits : profile.tail ≤ profile.length) : profile.validate = .ok () := by
  rw [validate, if_neg (Nat.not_lt.mpr small), if_neg (Nat.not_lt.mpr fits)]

theorem build_of_invalid {defect : Defect} (invalid : profile.validate = .error defect) :
    profile.build = .error (.invalid defect) := by
  rw [build, invalid]
  rfl

theorem build_of_made {buffer : Buffer} (valid : profile.validate = .ok ())
    (made : Fixture.withTail profile.length profile.tail profile.seed = .ok buffer) :
    profile.build = .ok buffer := by
  rw [build, valid, made]
  rfl

end Validate

/-- What a profile can come to: its length is past the limit, only its tail does not fit, or it can
be made. -/
inductive Verdict (profile : Profile) : Prop
  | large (large : Buffer.maxLength < profile.length)
  | long (small : profile.length ≤ Buffer.maxLength) (long : profile.length < profile.tail)
  | fits (small : profile.length ≤ Buffer.maxLength) (fits : profile.tail ≤ profile.length)

theorem verdict (profile : Profile) : profile.Verdict := by
  by_cases large : Buffer.maxLength < profile.length
  · exact .large large
  · by_cases long : profile.length < profile.tail
    · exact .long (Nat.not_lt.mp large) long
    · exact .fits (Nat.not_lt.mp large) (Nat.not_lt.mp long)

theorem validate_eq_tooLarge_iff (profile : Profile) :
    profile.validate = .error (.tooLarge profile.length) ↔ Buffer.maxLength < profile.length := by
  cases profile.verdict with
  | large large => exact iff_of_true (validate_of_large large) large
  | long small long =>
      rw [validate_of_long small long]
      exact iff_of_false nofun (Nat.not_lt.mpr small)
  | fits small fits =>
      rw [validate_of_fits small fits]
      exact iff_of_false nofun (Nat.not_lt.mpr small)

theorem validate_eq_tailTooLong_iff (profile : Profile) :
    profile.validate = .error (.tailTooLong profile.tail profile.length) ↔
      profile.length ≤ Buffer.maxLength ∧ profile.length < profile.tail := by
  cases profile.verdict with
  | large large =>
      rw [validate_of_large large]
      exact iff_of_false nofun fun both => Nat.not_lt.mpr both.1 large
  | long small long => exact iff_of_true (validate_of_long small long) ⟨small, long⟩
  | fits small fits =>
      rw [validate_of_fits small fits]
      exact iff_of_false nofun fun both => Nat.not_lt.mpr fits both.2

theorem validate_eq_ok_iff (profile : Profile) :
    profile.validate = .ok () ↔
      profile.length ≤ Buffer.maxLength ∧ profile.tail ≤ profile.length := by
  cases profile.verdict with
  | large large =>
      rw [validate_of_large large]
      exact iff_of_false nofun fun both => Nat.not_lt.mpr both.1 large
  | long small long =>
      rw [validate_of_long small long]
      exact iff_of_false nofun fun both => Nat.not_lt.mpr both.2 long
  | fits small fits => exact iff_of_true (validate_of_fits small fits) ⟨small, fits⟩

/-- What is refused as a profile is refused as a fixture. -/
theorem withTail_of_invalid {profile : Profile} {defect : Defect}
    (invalid : profile.validate = .error defect) :
    ∃ fault, Fixture.withTail profile.length profile.tail profile.seed = .error fault := by
  cases profile.verdict with
  | large large =>
      by_cases long : profile.length < profile.tail
      · exact ⟨_, Fixture.withTail_of_lt long _⟩
      · exact ⟨_, Fixture.withTail_of_large (Nat.not_lt.mp long) large _⟩
  | long small long => exact ⟨_, Fixture.withTail_of_lt long _⟩
  | fits small fits =>
      rw [validate_of_fits small fits] at invalid
      cases invalid

/-- A buffer is what a profile describes, and a checked call counts its tail wherever it stands in
memory. -/
structure Made (profile : Profile) (buffer : Buffer) : Prop where
  build_eq : profile.build = .ok buffer
  withTail_eq : Fixture.withTail profile.length profile.tail profile.seed = .ok buffer
  length_eq : buffer.length = profile.length
  /-- The tail is the zero tail: what stands before it is empty or ends in another element. -/
  tail_eq : ∃ head : Buffer, head.Trimmed ∧ buffer = head ++ List.replicate profile.tail 0
  tailLength_eq : buffer.tailLength = profile.tail
  /-- The checked call succeeds. -/
  status_eq (state : State) (thread slot : Nat) (before after : Buffer) :
    state.memory.cells = before ++ buffer ++ after →
      (step state ⟨thread, .countInto .tail
        ⟨state.memory.base + 2 * before.length, profile.length⟩ (some ⟨slot, 0⟩)⟩).1 =
          .code Status.success.code
  /-- The checked call writes the length of the tail to its slot. -/
  written_eq (state : State) (thread slot : Nat) (before after : Buffer) :
    state.memory.cells = before ++ buffer ++ after → slot < state.slots.length →
      ((step state ⟨thread, .countInto .tail
        ⟨state.memory.base + 2 * before.length, profile.length⟩ (some ⟨slot, 0⟩)⟩).2.slots[slot]?).map
          UInt64.toNat = some profile.tail

theorem exists_made {profile : Profile} (small : profile.length ≤ Buffer.maxLength)
    (fits : profile.tail ≤ profile.length) : ∃ buffer, Made profile buffer := by
  obtain ⟨parts, made, zeros_eq, length_eq⟩ :=
    Fixture.exists_parts_withTail fits small profile.seed
  have tailLength_eq : parts.join.tailLength = profile.tail := by
    rw [Buffer.Parts.tailLength_join, zeros_eq]
  have tail_lt : profile.tail < 2 ^ 64 := by
    have limit : Buffer.maxLength < 2 ^ 64 := by decide
    omega
  have calls (state : State) (thread slot : Nat) (before after : Buffer)
      (cells_eq : state.memory.cells = before ++ parts.join ++ after) :
      step state ⟨thread, .countInto .tail
          ⟨state.memory.base + 2 * before.length, profile.length⟩ (some ⟨slot, 0⟩)⟩ =
        (.code Status.success.code,
          { state with slots := state.slots.set slot (UInt64.ofNat profile.tail) }) := by
    have accepted := state.memory.validate_of_length_le before.length small
    have window_eq := Memory.window_of_cells_eq cells_eq
    rw [length_eq] at window_eq
    rw [step_countInto, countInto_of_accepted accepted, window_eq, Kernel.measure, tailLength_eq]
  refine ⟨parts.join, build_of_made (validate_of_fits small fits) made, made, length_eq, ?_,
    tailLength_eq, ?_, ?_⟩
  · refine ⟨parts.head, parts.trimmed, ?_⟩
    rw [Buffer.Parts.join, zeros_eq]
  · intro state thread slot before after cells_eq
    rw [calls state thread slot before after cells_eq]
  · intro state thread slot before after cells_eq slot_lt
    rw [calls state thread slot before after cells_eq]
    simp only [List.getElem?_set_self slot_lt, Option.map_some]
    rw [UInt64.toNat_ofNat_of_lt' tail_lt]

/-- What the three layers say about a profile. -/
structure LayersAgree (profile : Profile) : Prop where
  /-- A length past the limit is reported whatever the tail. -/
  tooLarge_iff : profile.validate = .error (.tooLarge profile.length) ↔ 2 ^ 62 - 1 < profile.length
  /-- A tail that does not fit is reported if the length is within the limit. -/
  tailTooLong_iff : profile.validate = .error (.tailTooLong profile.tail profile.length) ↔
    profile.length ≤ 2 ^ 62 - 1 ∧ profile.length < profile.tail
  /-- Nothing else is reported. -/
  accepted_iff : profile.validate = .ok () ↔
    profile.length ≤ 2 ^ 62 - 1 ∧ profile.tail ≤ profile.length
  /-- Building reports what validation reports, and the fixture could not have been made. -/
  rejected (defect : Defect) : profile.validate = .error defect →
    profile.build = .error (.invalid defect) ∧
      ∃ fault, Fixture.withTail profile.length profile.tail profile.seed = .error fault
  /-- What validation accepts is made. -/
  made : profile.validate = .ok () → ∃ buffer, Made profile buffer
  /-- Building never stops with a fault. -/
  never_faulted (fault : Fault) : profile.build ≠ .error (.faulted fault)
  /-- The boundary refuses the same lengths, at any address that an element can have. -/
  tooLong_iff (address : Nat) : address ≠ 0 → address % 2 = 0 →
    (Extent.validate ⟨address, profile.length⟩ = .error (.tooLong profile.length) ↔
      profile.validate = .error (.tooLarge profile.length))

/-- Validation, building, the generator and the boundary agree on every profile. -/
theorem layers_agree (profile : Profile) : LayersAgree profile := by
  have limit : Buffer.maxLength = 2 ^ 62 - 1 := rfl
  constructor
  case tooLarge_iff =>
    rw [← limit]
    exact profile.validate_eq_tooLarge_iff
  case tailTooLong_iff =>
    rw [← limit]
    exact profile.validate_eq_tailTooLong_iff
  case accepted_iff =>
    rw [← limit]
    exact profile.validate_eq_ok_iff
  case rejected =>
    intro defect invalid
    exact ⟨build_of_invalid invalid, withTail_of_invalid invalid⟩
  case made =>
    intro valid
    obtain ⟨small, fits⟩ := profile.validate_eq_ok_iff.mp valid
    exact exists_made small fits
  case never_faulted =>
    intro fault
    cases validate_eq : profile.validate with
    | error defect =>
        rw [build_of_invalid validate_eq]
        exact nofun
    | ok accepted =>
        obtain ⟨small, fits⟩ := profile.validate_eq_ok_iff.mp validate_eq
        obtain ⟨buffer, made⟩ := exists_made small fits
        rw [made.build_eq]
        exact nofun
  case tooLong_iff =>
    intro address address_ne address_even
    rw [Extent.validate_eq_tooLong_iff address_ne address_even,
      profile.validate_eq_tooLarge_iff]

end Profile
end ZeroTail
