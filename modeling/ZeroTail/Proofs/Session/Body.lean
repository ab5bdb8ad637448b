import Mathlib.Algebra.Group.Nat.Defs
import ZeroTail.Proofs.Fixture.Refusal
import ZeroTail.Session.Step

/-!
# What bodies come to

A guarded body gives a value or leaves a text.  Its parameters alone decide which, and what the text
is: nothing that is drawn can make a fault.
-/

namespace ZeroTail
namespace Boundary

/-- A number is narrowed to the code that equals it modulo `2^32`. -/
theorem toInt_narrow (number : UInt64) :
    (narrow number).toInt = Int.bmod number.toNat (2 ^ 32) := by
  have bits_eq : (narrow number).toBitVec = number.toUInt32.toBitVec := rfl
  have low_eq : number.toUInt32.toBitVec.toNat = number.toNat % 2 ^ 32 :=
    UInt64.toNat_toUInt32 number
  rw [← Int32.toInt_toBitVec, bits_eq, BitVec.toInt_eq_toNat_bmod, low_eq, Int.natCast_emod]
  exact Int.emod_bmod _ _

end Boundary

namespace Session

/-- The text that a body leaves; a body that gives a value leaves none. -/
def Body.faultText? : Body → Option String
  | .value _ => none
  | .raise (.literal text) => some text
  | .raise (.composed text) => some text
  | .raise .other => some "panic with non-string payload"
  | .withTail length zeros _ =>
      if length < zeros then
        some ("tail of " ++ toString zeros ++ " does not fit in " ++ toString length ++ " elements")
      else if Buffer.maxLength < length then
        some "capacity overflow"
      else
        none
  | .sparse length ratio _ =>
      if Buffer.maxLength < length then
        some "capacity overflow"
      else if length ≠ 0 ∧ ratio = .notANumber then
        some "p=NaN is outside range [0.0, 1.0]"
      else
        none

namespace Body

/-- The outcome of a body and the text it leaves go together. -/
def Leaves (body : Body) (text? : Option String) : Prop :=
  (∃ value, body.outcome = .ok value ∧ text? = none) ∨
    ∃ fault, body.outcome = .error fault ∧ text? = some fault.message

theorem raise_leaves (payload : Payload) :
    (Body.raise payload).Leaves (Body.raise payload).faultText? := by
  refine Or.inr ⟨.raised payload, rfl, ?_⟩
  cases payload <;> rfl

theorem withTail_leaves (length zeros : Nat) (seed : UInt64) :
    (Body.withTail length zeros seed).Leaves (Body.withTail length zeros seed).faultText? := by
  by_cases long : length < zeros
  · refine Or.inr ⟨.tailTooLong zeros length, ?_, ?_⟩
    · rw [outcome, Fixture.withTail_of_lt long, Except.map]
    · rw [faultText?, if_pos long, Fault.message]
  · have fits := Nat.not_lt.mp long
    by_cases large : Buffer.maxLength < length
    · refine Or.inr ⟨.capacityOverflow, ?_, ?_⟩
      · rw [outcome, Fixture.withTail_of_large fits large, Except.map]
      · rw [faultText?, if_neg long, if_pos large, Fault.message]
    · obtain ⟨buffer, made⟩ : ∃ buffer, Fixture.withTail length zeros seed = .ok buffer :=
        ⟨_, Fixture.withTail_of_le fits (Nat.not_lt.mp large) seed⟩
      refine Or.inl ⟨UInt64.ofNat buffer.tailLength, ?_, ?_⟩
      · rw [outcome, made, Except.map]
      · rw [faultText?, if_neg long, if_neg large]

theorem sparse_leaves (length : Nat) (ratio : Sampling.Ratio) (seed : UInt64) :
    (Body.sparse length ratio seed).Leaves (Body.sparse length ratio seed).faultText? := by
  by_cases large : Buffer.maxLength < length
  · refine Or.inr ⟨.capacityOverflow, ?_, ?_⟩
    · rw [outcome, Fixture.sparse_of_large large, Except.map]
    · rw [faultText?, if_pos large, Fault.message]
  · have small := Nat.not_lt.mp large
    cases chance_eq : ratio.chance? with
    | some chance =>
        have number : ratio ≠ .notANumber := by
          rw [ne_eq, ← ratio.chance?_eq_none_iff, chance_eq]
          exact Option.some_ne_none chance
        obtain ⟨buffer, made⟩ : ∃ buffer, Fixture.sparse length ratio seed = .ok buffer :=
          ⟨_, Fixture.sparse_of_chance chance_eq small seed⟩
        refine Or.inl ⟨UInt64.ofNat buffer.tailLength, ?_, ?_⟩
        · rw [outcome, made, Except.map]
        · rw [faultText?, if_neg large, if_neg fun undefined => number undefined.2]
    | none =>
        obtain rfl := ratio.chance?_eq_none_iff.mp chance_eq
        by_cases empty : length = 0
        · subst empty
          refine Or.inl ⟨UInt64.ofNat (Buffer.tailLength []), ?_, ?_⟩
          · rw [outcome, Fixture.sparse_zero, Except.map]
          · rw [faultText?, if_neg large, if_neg fun undefined => undefined.1 rfl]
        · refine Or.inr ⟨.undefinedProbability, ?_, ?_⟩
          · rw [outcome, Fixture.sparse_of_notANumber empty small, Except.map]
          · rw [faultText?, if_neg large, if_pos ⟨empty, rfl⟩, Fault.message]

theorem leaves_faultText? (body : Body) : body.Leaves body.faultText? := by
  cases body with
  | value number => exact Or.inl ⟨number, rfl, rfl⟩
  | raise payload => exact raise_leaves payload
  | withTail length zeros seed => exact withTail_leaves length zeros seed
  | sparse length ratio seed => exact sparse_leaves length ratio seed

theorem faultText?_of_ok {body : Body} {value : UInt64} (outcome_eq : body.outcome = .ok value) :
    body.faultText? = none := by
  obtain ⟨-, -, text_eq⟩ | ⟨fault, error_eq, -⟩ := body.leaves_faultText?
  · exact text_eq
  · rw [outcome_eq] at error_eq
    contradiction

theorem faultText?_of_error {body : Body} {fault : Fault}
    (outcome_eq : body.outcome = .error fault) : body.faultText? = some fault.message := by
  obtain ⟨value, ok_eq, -⟩ | ⟨other, error_eq, text_eq⟩ := body.leaves_faultText?
  · rw [outcome_eq] at ok_eq
    contradiction
  · rw [outcome_eq] at error_eq
    rw [text_eq, Except.error.inj error_eq]

end Body
end Session
end ZeroTail
