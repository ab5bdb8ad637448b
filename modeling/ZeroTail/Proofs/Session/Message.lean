import Mathlib.Data.List.Induction
import ZeroTail.Proofs.Session.Body
import ZeroTail.Proofs.Session.Step

/-!
# The message of each thread

At every point of a session the message of a thread is the text of the last of its steps that left
one.  A step leaves a text exactly if it runs a guarded body that stops; all other steps, and all
steps of other threads, keep the message.
-/

namespace ZeroTail
namespace Session

open Boundary

/-- The body that a guard runs; every other action runs none. -/
def Action.body? : Action → Option Body
  | .guard body => some body
  | .guardOr _ body => some body
  | .store _ _ => none
  | .fill _ _ _ => none
  | .contents => none
  | .version => none
  | .count _ _ => none
  | .countInto _ _ _ => none
  | .readMessage _ _ => none

/-- The text that a step leaves. -/
def Step.faultText? (next : Step) : Option String :=
  next.action.body?.bind Body.faultText?

/-- No step of a thread leaves a text. -/
def Silent (thread : Nat) (steps : List Step) : Prop :=
  ∀ next ∈ steps, next.thread = thread → next.faultText? = none

/-- The last step of a thread that leaves a text leaves this one. -/
def LeftLast (thread : Nat) (steps : List Step) (text : String) : Prop :=
  ∃ earlier next later, steps = earlier ++ next :: later ∧
    next.thread = thread ∧ next.faultText? = some text ∧ Silent thread later

theorem Silent.nil (thread : Nat) : Silent thread [] := fun _ next_mem => nomatch next_mem

theorem Silent.append {thread : Nat} {earlier later : List Step}
    (earlier_silent : Silent thread earlier) (later_silent : Silent thread later) :
    Silent thread (earlier ++ later) := by
  intro next next_mem
  rcases List.mem_append.mp next_mem with in_earlier | in_later
  · exact earlier_silent next in_earlier
  · exact later_silent next in_later

/-! ## One step -/

section Steps

variable {state : State} {thread : Nat} {action : Action}

theorem messages_step_of_body?_eq_none (no_body : action.body? = none) :
    (step state ⟨thread, action⟩).2.messages = state.messages := by
  cases action with
  | store index value => rfl
  | fill start stop value => rfl
  | contents => rfl
  | version => rfl
  | count kernel extent => rw [step_count]
  | countInto kernel extent target => rw [step_countInto]
  | readMessage destination capacity => rw [step_readMessage]
  | guard body => nomatch no_body
  | guardOr fallback body => nomatch no_body

/-- A guard leaves everything as it was, or keeps the message of the fault of its body. -/
theorem step_of_body?_eq_some {body : Body} (body_eq : action.body? = some body) :
    (step state ⟨thread, action⟩).2 =
      match body.outcome with
      | .ok _ => state
      | .error fault => state.keepMessage thread fault.message := by
  cases action with
  | guard guarded =>
      obtain rfl := Option.some.inj body_eq
      cases outcome_eq : guarded.outcome with
      | ok value => rw [step_guard_ok state thread outcome_eq]
      | error fault => rw [step_guard_error state thread outcome_eq]
  | guardOr fallback guarded =>
      obtain rfl := Option.some.inj body_eq
      cases outcome_eq : guarded.outcome with
      | ok value => rw [step_guardOr_ok state thread outcome_eq]
      | error fault => rw [step_guardOr_error state thread outcome_eq]
  | _ => nomatch body_eq

end Steps

/-- The message of a thread changes only if the step is its own and leaves a text. -/
theorem messages_step (state : State) (next : Step) (thread : Nat) :
    (step state next).2.messages thread =
      if thread = next.thread then next.faultText?.getD (state.messages thread)
      else state.messages thread := by
  obtain ⟨actor, action⟩ := next
  cases body_eq : action.body? with
  | none =>
      rw [messages_step_of_body?_eq_none body_eq, Step.faultText?, body_eq, Option.bind_none,
        Option.getD_none, ite_self]
  | some body =>
      rw [step_of_body?_eq_some body_eq, Step.faultText?, body_eq, Option.bind_some]
      obtain ⟨value, outcome_eq, text_eq⟩ | ⟨fault, outcome_eq, text_eq⟩ :=
        body.leaves_faultText?
      · rw [outcome_eq, text_eq, Option.getD_none, ite_self]
      · rw [outcome_eq, text_eq, Option.getD_some]
        rfl

/-! ## A run -/

theorem messages_run_of_silent {thread : Nat} {steps : List Step} (silent : Silent thread steps)
    (state : State) : (run state steps).messages thread = state.messages thread := by
  induction steps generalizing state with
  | nil => rfl
  | cons next later ih =>
      have kept : (step state next).2.messages thread = state.messages thread := by
        rw [messages_step]
        by_cases own : thread = next.thread
        · have no_text := silent next List.mem_cons_self own.symm
          rw [if_pos own, no_text, Option.getD_none]
        · exact if_neg own
      have later_silent : Silent thread later := fun other other_mem =>
        silent other (List.mem_cons_of_mem next other_mem)
      calc (run state (next :: later)).messages thread
          = (run (step state next).2 later).messages thread := rfl
        _ = (step state next).2.messages thread := ih later_silent _
        _ = state.messages thread := kept

theorem messages_run_of_leftLast {thread : Nat} {steps : List Step} {text : String}
    (left_last : LeftLast thread steps text) (state : State) :
    (run state steps).messages thread = text := by
  obtain ⟨earlier, next, later, rfl, own, text_eq, later_silent⟩ := left_last
  calc (run state (earlier ++ next :: later)).messages thread
      = (run (step (run state earlier) next).2 later).messages thread := by
        rw [run_append]
        rfl
    _ = (step (run state earlier) next).2.messages thread :=
        messages_run_of_silent later_silent _
    _ = text := by
        rw [messages_step, if_pos own.symm, text_eq, Option.getD_some]

theorem leftLast_or_silent (thread : Nat) (steps : List Step) :
    (∃ text, LeftLast thread steps text) ∨ Silent thread steps := by
  induction steps using List.reverseRecOn with
  | nil => exact Or.inr (Silent.nil thread)
  | append_singleton earlier next ih =>
      by_cases quiet : next.thread = thread → next.faultText? = none
      · have last_silent : Silent thread [next] := fun other other_mem => by
          rw [List.mem_singleton.mp other_mem]
          exact quiet
        rcases ih with ⟨text, before, left, between, rfl, own, text_eq, between_silent⟩ | silent
        · refine Or.inl ⟨text, before, left, between ++ [next], ?_, own, text_eq, ?_⟩
          · rw [List.append_assoc, List.cons_append]
          · exact between_silent.append last_silent
        · exact Or.inr (silent.append last_silent)
      · obtain ⟨own, left_text⟩ := Classical.not_imp.mp quiet
        obtain ⟨text, text_eq⟩ := Option.ne_none_iff_exists'.mp left_text
        exact Or.inl ⟨text, earlier, next, [], rfl, own, text_eq, Silent.nil thread⟩

/-- The message of a thread after a run. -/
theorem messages_run_eq_iff (state : State) (steps : List Step) (thread : Nat) (message : String) :
    (run state steps).messages thread = message ↔
      LeftLast thread steps message ∨
        Silent thread steps ∧ message = state.messages thread := by
  constructor
  · rintro rfl
    rcases leftLast_or_silent thread steps with ⟨text, left_last⟩ | silent
    · rw [messages_run_of_leftLast left_last]
      exact Or.inl left_last
    · exact Or.inr ⟨silent, messages_run_of_silent silent state⟩
  · rintro (left_last | ⟨silent, rfl⟩)
    · exact messages_run_of_leftLast left_last state
    · exact messages_run_of_silent silent state

/-! ## A session -/

/-- What a step replies to its thread, and what it does to the messages. -/
structure Contained (before : State) (next : Step) (reply : Reply) (after : State) : Prop where
  /-- The messages of all other threads are kept. -/
  others_eq (thread : Nat) : thread ≠ next.thread →
    after.messages thread = before.messages thread
  /-- An action that runs no body keeps all messages. -/
  unguarded_eq : next.action.body? = none → after.messages = before.messages
  /-- A body that gives a value leaves no text and keeps all messages. -/
  value_eq (body : Body) (value : UInt64) : next.action.body? = some body →
    body.outcome = .ok value → body.faultText? = none ∧ after.messages = before.messages
  /-- A body that stops leaves its text, and that text is the thread's message afterwards. -/
  fault_eq (body : Body) (fault : Fault) : next.action.body? = some body →
    body.outcome = .error fault →
      body.faultText? = some fault.message ∧ after.messages next.thread = fault.message
  /-- A guard that answers codes answers the value of its body modulo `2^32`. -/
  guard_value (body : Body) (value : UInt64) : next.action = .guard body →
    body.outcome = .ok value →
      ∃ code, reply = .code code ∧ code.toInt = Int.bmod value.toNat (2 ^ 32)
  /-- A guard that answers codes answers the code of a fault if its body stops. -/
  guard_fault (body : Body) (fault : Fault) : next.action = .guard body →
    body.outcome = .error fault → reply = .code Status.faulted.code
  /-- A guard with a fallback answers the value of its body. -/
  guardOr_value (body : Body) (value fallback : UInt64) : next.action = .guardOr fallback body →
    body.outcome = .ok value → reply = .number value
  /-- A guard with a fallback answers the fallback if its body stops. -/
  guardOr_fault (body : Body) (fault : Fault) (fallback : UInt64) :
    next.action = .guardOr fallback body →
      body.outcome = .error fault → reply = .number fallback

theorem contained_step (state : State) (next : Step) :
    Contained state next (step state next).1 (step state next).2 := by
  obtain ⟨thread, action⟩ := next
  constructor
  case others_eq =>
    intro other foreign
    rw [messages_step, if_neg foreign]
  case unguarded_eq => exact messages_step_of_body?_eq_none
  case value_eq =>
    intro body value body_eq outcome_eq
    refine ⟨Body.faultText?_of_ok outcome_eq, ?_⟩
    rw [step_of_body?_eq_some body_eq, outcome_eq]
  case fault_eq =>
    intro body fault body_eq outcome_eq
    refine ⟨Body.faultText?_of_error outcome_eq, ?_⟩
    rw [step_of_body?_eq_some body_eq, outcome_eq]
    exact if_pos rfl
  case guard_value =>
    rintro body value rfl outcome_eq
    rw [step_guard_ok state thread outcome_eq]
    exact ⟨narrow value, rfl, toInt_narrow value⟩
  case guard_fault =>
    rintro body fault rfl outcome_eq
    rw [step_guard_error state thread outcome_eq]
  case guardOr_value =>
    rintro body value fallback rfl outcome_eq
    rw [step_guardOr_ok state thread outcome_eq]
  case guardOr_fault =>
    rintro body fault fallback rfl outcome_eq
    rw [step_guardOr_error state thread outcome_eq]

/-- At every point of a session each thread has the text of the last of its steps that left one,
and no message before the first of them.  Every step of the session is contained. -/
theorem messages_along_session (memory : Memory) (slots : List UInt64) (steps : List Step) :
    (∀ count thread message,
      (run (State.start memory slots) (steps.take count)).messages thread = message ↔
        LeftLast thread (steps.take count) message ∨
          Silent thread (steps.take count) ∧ message = "") ∧
      ∀ index next, steps[index]? = some next →
        ∃ reply,
          (trace (State.start memory slots) steps)[index]? =
              some (reply, run (State.start memory slots) (steps.take (index + 1))) ∧
            Contained (run (State.start memory slots) (steps.take index)) next reply
              (run (State.start memory slots) (steps.take (index + 1))) := by
  constructor
  · intro count thread message
    exact messages_run_eq_iff (State.start memory slots) (steps.take count) thread message
  · intro index next next_eq
    have reached_eq : run (State.start memory slots) (steps.take (index + 1)) =
        (step (run (State.start memory slots) (steps.take index)) next).2 := by
      rw [List.take_add_one, next_eq, Option.toList_some, run_concat]
    rw [reached_eq, getElem?_trace, next_eq, Option.map_some]
    exact ⟨_, rfl, contained_step _ next⟩

end Session
end ZeroTail
