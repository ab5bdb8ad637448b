import ZeroTail.Session.Run

/-!
# Steps and runs

What each call across the boundary replies and leaves behind, and how a run and its trace are made
up of steps.  Only a guarded body can stop with a fault; every other call answers and keeps all
messages.
-/

namespace ZeroTail
namespace Session

open Boundary

section Steps

variable (state : State) (thread : Nat)

theorem step_count (kernel : Kernel) (extent : Extent) :
    step state ⟨thread, .count kernel extent⟩ =
      (.number (count kernel state.memory extent), state) := by
  simp [step]

theorem step_countInto (kernel : Kernel) (extent : Extent) (target : Option Target) :
    step state ⟨thread, .countInto kernel extent target⟩ =
      (.code (countInto kernel state.memory extent target state.slots).1.code,
        { state with slots := (countInto kernel state.memory extent target state.slots).2 }) := by
  simp [step]

theorem step_readMessage (destination : Option (List UInt8)) (capacity : Nat) :
    step state ⟨thread, .readMessage destination capacity⟩ =
      (.message (messageBytes (state.messages thread)).length
        (destination.map (copyMessage (messageBytes (state.messages thread)) capacity)),
        state) := by
  simp [step]

theorem step_guard_ok {body : Body} {value : UInt64} (outcome_eq : body.outcome = .ok value) :
    step state ⟨thread, .guard body⟩ = (.code (narrow value), state) := by
  simp [step, outcome_eq, Except.map]

theorem step_guard_error {body : Body} {fault : Fault} (outcome_eq : body.outcome = .error fault) :
    step state ⟨thread, .guard body⟩ =
      (.code Status.faulted.code, state.keepMessage thread fault.message) := by
  simp [step, outcome_eq, Except.map]

theorem step_guardOr_ok {body : Body} {value : UInt64} (outcome_eq : body.outcome = .ok value)
    (fallback : UInt64) :
    step state ⟨thread, .guardOr fallback body⟩ = (.number value, state) := by
  simp [step, outcome_eq]

theorem step_guardOr_error {body : Body} {fault : Fault} (outcome_eq : body.outcome = .error fault)
    (fallback : UInt64) :
    step state ⟨thread, .guardOr fallback body⟩ =
      (.number fallback, state.keepMessage thread fault.message) := by
  simp [step, outcome_eq]

end Steps

theorem run_concat (state : State) (steps : List Step) (next : Step) :
    run state (steps ++ [next]) = (step (run state steps) next).2 := by
  rw [run_append]
  rfl

theorem run_take_succ {steps : List Step} {index : Nat} {next : Step}
    (next_eq : steps[index]? = some next) (state : State) :
    run state (steps.take (index + 1)) = (step (run state (steps.take index)) next).2 := by
  rw [List.take_add_one, next_eq, Option.toList_some, run_concat]

/-- A trace shows each step made in the state that the steps before it lead to. -/
theorem getElem?_trace (state : State) (steps : List Step) (index : Nat) :
    (trace state steps)[index]? =
      steps[index]?.map fun next => step (run state (steps.take index)) next := by
  induction steps generalizing state index with
  | nil => rfl
  | cons next later ih =>
      cases index with
      | zero => rfl
      | succ index =>
          rw [trace, List.getElem?_cons_succ, List.getElem?_cons_succ, ih]
          rfl

end Session
end ZeroTail
