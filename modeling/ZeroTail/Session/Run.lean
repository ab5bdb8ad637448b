import ZeroTail.Session.Step

/-!
# Running a session

The state of a session is the shared memory, the shared slots and the message kept for each thread.
Every counting call and every reading of a message runs under a guard of its own, like the bodies
that callers supply.
-/

namespace ZeroTail
namespace Session

open Boundary

/-- What a session shares and keeps. -/
@[ext]
structure State where
  /-- The memory that extents refer to. -/
  memory : Memory
  /-- The slots that counts are written to. -/
  slots : List UInt64
  /-- The last message of each thread. -/
  messages : Nat → String

namespace State

/-- The state before the first step: no thread has a message. -/
def start (memory : Memory) (slots : List UInt64) : State :=
  ⟨memory, slots, fun _ => ""⟩

/-- Keep a message for a thread. -/
def keepMessage (state : State) (thread : Nat) (message : String) : State :=
  { state with
    messages := fun other => if other = thread then message else state.messages other }

@[simp]
theorem keepMessage_self (state : State) (thread : Nat) :
    state.keepMessage thread (state.messages thread) = state := by
  obtain ⟨memory, slots, messages⟩ := state
  simp only [keepMessage, State.mk.injEq, true_and]
  funext other
  split
  · rename_i same
    rw [same]
  · rfl

/-- Replace the elements of the memory. -/
def withCells (state : State) (cells : Buffer) : State :=
  { state with memory := state.memory.withCells cells }

/-- Run a computation under a guard on behalf of a thread. -/
def guarded {α : Type} (state : State) (thread : Nat) (fallback : α)
    (outcome : Except Fault α) : α × State :=
  let (value, message) := contain fallback outcome (state.messages thread)
  (value, state.keepMessage thread message)

@[simp]
theorem guarded_ok {α : Type} (state : State) (thread : Nat) (fallback value : α) :
    state.guarded thread fallback (.ok value) = (value, state) := by
  simp [guarded]

@[simp]
theorem guarded_error {α : Type} (state : State) (thread : Nat) (fallback : α) (fault : Fault) :
    state.guarded thread fallback (.error fault) =
      (fallback, state.keepMessage thread fault.message) := by
  rw [guarded, contain_error]

end State

/-- Make one step. -/
def step (state : State) (next : Step) : Reply × State :=
  match next.action with
  | .store index value =>
      (.element (state.memory.cells.getD index 0),
        state.withCells (state.memory.cells.set index value))
  | .fill start stop value =>
      (.done, state.withCells (state.memory.cells.overwrite start stop value))
  | .contents => (.contents state.memory.cells, state)
  | .version => (.version version, state)
  | .count kernel extent =>
      let (number, state) := state.guarded next.thread 0 (.ok (count kernel state.memory extent))
      (.number number, state)
  | .countInto kernel extent target =>
      let (status, slots) := countInto kernel state.memory extent target state.slots
      let (code, state) := state.guarded next.thread Status.faulted.code (.ok status.code)
      (.code code, { state with slots })
  | .guard body =>
      let (code, state) :=
        state.guarded next.thread Status.faulted.code (body.outcome.map narrow)
      (.code code, state)
  | .guardOr fallback body =>
      let (number, state) := state.guarded next.thread fallback body.outcome
      (.number number, state)
  | .readMessage destination capacity =>
      let message := messageBytes (state.messages next.thread)
      let (length, state) := state.guarded next.thread 0 (.ok message.length)
      (.message length (destination.map (copyMessage message capacity)), state)

/-- Make steps one after the other: the reply to each of them and the state after it. -/
def trace : State → List Step → List (Reply × State)
  | _, [] => []
  | state, next :: later =>
      let reached := step state next
      reached :: trace reached.2 later

/-- The state after a sequence of steps. -/
def run (state : State) (steps : List Step) : State :=
  steps.foldl (fun state next => (step state next).2) state

theorem run_append (state : State) (first second : List Step) :
    run state (first ++ second) = run (run state first) second :=
  List.foldl_append

end Session
end ZeroTail
