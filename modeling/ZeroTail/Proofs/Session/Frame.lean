import ZeroTail.Proofs.Boundary.Count
import ZeroTail.Proofs.Session.Message

/-!
# What a step leaves as it was

Only storing and filling change the memory, and only a checked counting call changes the slots; of
these it changes at most the one that its target names, and that only if the target is aligned.
-/

namespace ZeroTail
namespace Session

open Boundary

/-- An action that is neither storing nor filling. -/
def Action.KeepsMemory : Action → Prop
  | .store _ _ => False
  | .fill _ _ _ => False
  | .contents => True
  | .version => True
  | .count _ _ => True
  | .countInto _ _ _ => True
  | .guard _ => True
  | .guardOr _ _ => True
  | .readMessage _ _ => True

instance : DecidablePred Action.KeepsMemory
  | .store _ _ | .fill _ _ _ => inferInstanceAs (Decidable False)
  | .contents | .version | .count _ _ | .countInto _ _ _ | .guard _ | .guardOr _ _
  | .readMessage _ _ => inferInstanceAs (Decidable True)

/-- The slot that an action is aimed at. A target that is not aligned is not written to, so it aims
at no slot. -/
def Action.slot? : Action → Option Nat
  | .countInto _ _ (some target) => if target.Aligned then some target.slot else none
  | _ => none

/-- A guard, whatever its body comes to, changes neither the memory nor the slots. -/
theorem shared_step_of_body?_eq_some {action : Action} {body : Body}
    (body_eq : action.body? = some body) (state : State) (thread : Nat) :
    (step state ⟨thread, action⟩).2.memory = state.memory ∧
      (step state ⟨thread, action⟩).2.slots = state.slots := by
  rw [step_of_body?_eq_some body_eq]
  cases body.outcome with
  | ok value => exact ⟨rfl, rfl⟩
  | error fault => exact ⟨rfl, rfl⟩

theorem memory_step {action : Action} (keeps : action.KeepsMemory) (state : State) (thread : Nat) :
    (step state ⟨thread, action⟩).2.memory = state.memory := by
  cases action with
  | store index value => exact keeps.elim
  | fill start stop value => exact keeps.elim
  | contents => rfl
  | version => rfl
  | count kernel extent => rw [step_count]
  | countInto kernel extent target => rw [step_countInto]
  | readMessage destination capacity => rw [step_readMessage]
  | guard body => exact (shared_step_of_body?_eq_some rfl state thread).1
  | guardOr fallback body => exact (shared_step_of_body?_eq_some rfl state thread).1

theorem memory_step_congr {left right : State} (memory_eq : left.memory = right.memory)
    (thread : Nat) (action : Action) :
    (step left ⟨thread, action⟩).2.memory = (step right ⟨thread, action⟩).2.memory := by
  by_cases keeps : action.KeepsMemory
  · rw [memory_step keeps, memory_step keeps, memory_eq]
  · cases action with
    | store index value => simp only [step, State.withCells, memory_eq]
    | fill start stop value => simp only [step, State.withCells, memory_eq]
    | _ => exact absurd trivial keeps

theorem slots_step (state : State) (thread : Nat) (action : Action) :
    (step state ⟨thread, action⟩).2.slots =
      match action with
      | .countInto kernel extent target =>
          (countInto kernel state.memory extent target state.slots).2
      | _ => state.slots := by
  cases action with
  | countInto kernel extent target => rw [step_countInto]
  | store index value => rfl
  | fill start stop value => rfl
  | contents => rfl
  | version => rfl
  | count kernel extent => rw [step_count]
  | readMessage destination capacity => rw [step_readMessage]
  | guard body => exact (shared_step_of_body?_eq_some rfl state thread).2
  | guardOr fallback body => exact (shared_step_of_body?_eq_some rfl state thread).2

theorem getElem?_slots_step_countInto (state : State) (thread : Nat) (kernel : Kernel)
    (extent : Extent) (target : Option Target) (slot : Nat) :
    (step state ⟨thread, .countInto kernel extent target⟩).2.slots[slot]? =
      if owedStatus extent target = .success ∧ target = some ⟨slot, 0⟩ then
        state.slots[slot]?.map fun _ => count kernel state.memory extent
      else
        state.slots[slot]? := by
  rw [slots_step]
  exact getElem?_slots_countInto kernel state.memory extent target state.slots slot

theorem getElem?_slots_step_of_ne {action : Action} {slot : Nat}
    (elsewhere : action.slot? ≠ some slot) (state : State) (thread : Nat) :
    (step state ⟨thread, action⟩).2.slots[slot]? = state.slots[slot]? := by
  cases action with
  | countInto kernel extent target =>
      have missed : ¬ (owedStatus extent target = .success ∧ target = some ⟨slot, 0⟩) := by
        rintro ⟨-, rfl⟩
        have aligned : Target.Aligned ⟨slot, 0⟩ := rfl
        rw [Action.slot?, if_pos aligned] at elsewhere
        exact elsewhere rfl
      rw [getElem?_slots_step_countInto, if_neg missed]
  | _ => rw [slots_step]

theorem getElem?_slots_step_congr {left right : State} (memory_eq : left.memory = right.memory)
    {slot : Nat} (slot_eq : left.slots[slot]? = right.slots[slot]?) (thread : Nat)
    (action : Action) :
    (step left ⟨thread, action⟩).2.slots[slot]? =
      (step right ⟨thread, action⟩).2.slots[slot]? := by
  cases action with
  | countInto kernel extent target =>
      rw [getElem?_slots_step_countInto, getElem?_slots_step_countInto, memory_eq, slot_eq]
  | _ =>
      rw [slots_step, slots_step]
      exact slot_eq

end Session
end ZeroTail
