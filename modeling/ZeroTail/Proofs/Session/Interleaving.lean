import ZeroTail.Proofs.Session.Frame

/-!
# Threads do not disturb each other

If no thread changes the memory and no two of them aim at the same slot, each thread gets the
replies that it would get if it ran alone, and leaves its message and its slots as if it had run
alone.  So neither the replies nor the final state depend on how the threads take turns.
-/

namespace ZeroTail
namespace Session

open Boundary

/-- The steps that a thread makes. -/
def ownSteps (thread : Nat) (steps : List Step) : List Step :=
  steps.filter (·.thread = thread)

/-- The replies that a thread gets. -/
def repliesTo (thread : Nat) (state : State) (steps : List Step) : List Reply :=
  ((steps.zip (trace state steps)).filter (·.1.thread = thread)).map (·.2.1)

/-- Every thread does the actions of its program, in their order, whenever it has its turn. -/
def Interleaves (programs : Nat → List Action) (steps : List Step) : Prop :=
  ∀ thread, (ownSteps thread steps).map (·.action) = programs thread

/-- Programs of threads that only share what they do not change. -/
structure Independent (programs : Nat → List Action) : Prop where
  keeps_memory (thread : Nat) : ∀ action ∈ programs thread, action.KeepsMemory
  /-- No slot is aimed at by two threads. -/
  slots_apart (left right slot : Nat) : left ≠ right →
    ∀ action ∈ programs left, action.slot? = some slot →
      ∀ other ∈ programs right, other.slot? ≠ some slot

/-! ## What a thread sees -/

/-- Two states look the same to a thread that has some slots to itself. -/
structure SameView (thread : Nat) (owned : Nat → Prop) (left right : State) : Prop where
  memory_eq : left.memory = right.memory
  message_eq : left.messages thread = right.messages thread
  slot_eq (slot : Nat) : owned slot → left.slots[slot]? = right.slots[slot]?

/-- A step that leaves the memory alone, and the slots that a thread has to itself unless it is that
thread's own. -/
structure Harmless (thread : Nat) (owned : Nat → Prop) (next : Step) : Prop where
  keeps_memory : next.action.KeepsMemory
  elsewhere : thread ≠ next.thread → ∀ slot, owned slot → next.action.slot? ≠ some slot

section Views

variable {thread : Nat} {owned : Nat → Prop} {left right : State} {next : Step}

theorem SameView.refl (thread : Nat) (owned : Nat → Prop) (state : State) :
    SameView thread owned state state :=
  ⟨rfl, rfl, fun _ _ => rfl⟩

theorem SameView.reply_eq (same : SameView thread owned left right) (own : next.thread = thread) :
    (step left next).1 = (step right next).1 := by
  obtain ⟨actor, action⟩ := next
  obtain rfl : actor = thread := own
  cases action with
  | store index value => simp only [step, same.memory_eq]
  | fill start stop value => rfl
  | contents => simp only [step, same.memory_eq]
  | version => rfl
  | count kernel extent => rw [step_count, step_count, same.memory_eq]
  | countInto kernel extent target =>
      rw [step_countInto, step_countInto, countInto_eq, countInto_eq]
  | readMessage destination capacity => rw [step_readMessage, step_readMessage, same.message_eq]
  | guard body =>
      cases outcome_eq : body.outcome with
      | ok value => rw [step_guard_ok left actor outcome_eq, step_guard_ok right actor outcome_eq]
      | error fault =>
          rw [step_guard_error left actor outcome_eq, step_guard_error right actor outcome_eq]
  | guardOr fallback body =>
      cases outcome_eq : body.outcome with
      | ok value =>
          rw [step_guardOr_ok left actor outcome_eq, step_guardOr_ok right actor outcome_eq]
      | error fault =>
          rw [step_guardOr_error left actor outcome_eq, step_guardOr_error right actor outcome_eq]

theorem SameView.step_own (same : SameView thread owned left right)
    (keeps : next.action.KeepsMemory) :
    SameView thread owned (step left next).2 (step right next).2 where
  memory_eq := by rw [memory_step keeps, memory_step keeps, same.memory_eq]
  message_eq := by rw [messages_step, messages_step, same.message_eq]
  slot_eq slot slot_owned :=
    getElem?_slots_step_congr same.memory_eq (same.slot_eq slot slot_owned) next.thread next.action

/-- A thread does not see a harmless step of another one. -/
theorem SameView.step_foreign (same : SameView thread owned left right)
    (harmless : Harmless thread owned next) (foreign : thread ≠ next.thread) :
    SameView thread owned (step left next).2 right where
  memory_eq := by rw [memory_step harmless.keeps_memory, same.memory_eq]
  message_eq := by rw [messages_step, if_neg foreign, same.message_eq]
  slot_eq slot slot_owned := by
    rw [getElem?_slots_step_of_ne (harmless.elsewhere foreign slot slot_owned),
      same.slot_eq slot slot_owned]

end Views

/-! ## A thread among others and alone -/

section Runs

variable {thread : Nat} {next : Step}

theorem ownSteps_cons_own (own : next.thread = thread) (later : List Step) :
    ownSteps thread (next :: later) = next :: ownSteps thread later :=
  List.filter_cons_of_pos (decide_eq_true own)

theorem ownSteps_cons_foreign (foreign : next.thread ≠ thread) (later : List Step) :
    ownSteps thread (next :: later) = ownSteps thread later :=
  List.filter_cons_of_neg (by rwa [decide_eq_true_eq])

theorem repliesTo_cons_own (own : next.thread = thread) (state : State) (later : List Step) :
    repliesTo thread state (next :: later) =
      (step state next).1 :: repliesTo thread (step state next).2 later := by
  simp [repliesTo, trace, own]

theorem repliesTo_cons_foreign (foreign : next.thread ≠ thread) (state : State)
    (later : List Step) :
    repliesTo thread state (next :: later) = repliesTo thread (step state next).2 later := by
  simp [repliesTo, trace, foreign]

theorem length_repliesTo (thread : Nat) (state : State) (steps : List Step) :
    (repliesTo thread state steps).length = (ownSteps thread steps).length := by
  induction steps generalizing state with
  | nil => rfl
  | cons next later ih =>
      by_cases own : next.thread = thread
      · rw [repliesTo_cons_own own, ownSteps_cons_own own, List.length_cons, List.length_cons, ih]
      · rw [repliesTo_cons_foreign own, ownSteps_cons_foreign own, ih]

/-- Among harmless steps a thread gets the replies to its own steps, and sees the state they lead
to, as if the others had not been made. -/
theorem SameView.run_ownSteps {owned : Nat → Prop} {left right : State} {steps : List Step}
    (same : SameView thread owned left right)
    (harmless : ∀ next ∈ steps, Harmless thread owned next) :
    repliesTo thread left steps = repliesTo thread right (ownSteps thread steps) ∧
      SameView thread owned (run left steps) (run right (ownSteps thread steps)) := by
  -- An own step is made on both sides, a foreign one on the left only; the view survives either.
  induction steps generalizing left right with
  | nil => exact ⟨rfl, same⟩
  | cons next later ih =>
      obtain ⟨next_harmless, later_harmless⟩ := List.forall_mem_cons.mp harmless
      by_cases own : next.thread = thread
      · have keeps := next_harmless.keeps_memory
        obtain ⟨replies_eq, reached⟩ := ih (same.step_own keeps) later_harmless
        rw [ownSteps_cons_own own, repliesTo_cons_own own, repliesTo_cons_own own,
          same.reply_eq own, replies_eq]
        exact ⟨rfl, reached⟩
      · rw [ownSteps_cons_foreign own, repliesTo_cons_foreign own]
        exact ih (same.step_foreign next_harmless (Ne.symm own)) later_harmless

end Runs

/-! ## Interleavings -/

/-- The steps of a thread that runs a program alone. -/
def alone (thread : Nat) (program : List Action) : List Step :=
  program.map (Step.mk thread)

/-- No other thread aims at a slot. -/
def Owns (programs : Nat → List Action) (thread slot : Nat) : Prop :=
  ∀ other, other ≠ thread → ∀ action ∈ programs other, action.slot? ≠ some slot

section Interleavings

variable {programs : Nat → List Action} {steps : List Step}

theorem Interleaves.ownSteps_eq (interleaves : Interleaves programs steps) (thread : Nat) :
    ownSteps thread steps = alone thread (programs thread) := by
  have same_step : ∀ next ∈ ownSteps thread steps, Step.mk thread next.action = next := by
    rintro ⟨actor, action⟩ next_mem
    obtain rfl : actor = thread := of_decide_eq_true (List.mem_filter.mp next_mem).2
    rfl
  calc ownSteps thread steps
      = (ownSteps thread steps).map fun next => Step.mk thread next.action := by
        rw [List.map_congr_left same_step, List.map_id']
    _ = alone thread ((ownSteps thread steps).map (·.action)) := by
        rw [alone, List.map_map]
        rfl
    _ = alone thread (programs thread) := by rw [interleaves thread]

theorem Interleaves.action_mem (interleaves : Interleaves programs steps) {next : Step}
    (next_mem : next ∈ steps) : next.action ∈ programs next.thread := by
  rw [← interleaves next.thread]
  exact List.mem_map_of_mem (List.mem_filter.mpr ⟨next_mem, decide_eq_true rfl⟩)

theorem Independent.exists_owner (independent : Independent programs) (slot : Nat) :
    ∃ thread, Owns programs thread slot := by
  by_cases aimed : ∃ thread, ∃ action ∈ programs thread, action.slot? = some slot
  · obtain ⟨thread, action, action_mem, slot_eq⟩ := aimed
    exact ⟨thread, fun other foreign =>
      independent.slots_apart thread other slot foreign.symm action action_mem slot_eq⟩
  · exact ⟨0, fun other _ action action_mem slot_eq =>
      aimed ⟨other, action, action_mem, slot_eq⟩⟩

theorem Independent.harmless (independent : Independent programs)
    (interleaves : Interleaves programs steps) (thread : Nat) :
    ∀ next ∈ steps, Harmless thread (Owns programs thread) next := by
  intro next next_mem
  have action_mem := interleaves.action_mem next_mem
  refine ⟨independent.keeps_memory next.thread next.action action_mem, ?_⟩
  intro foreign slot owns
  exact owns next.thread foreign.symm next.action action_mem

/-- However the threads take turns, each gets the replies and sees the final state of its program
run alone. -/
theorem Independent.as_alone (independent : Independent programs)
    (interleaves : Interleaves programs steps) (state : State) (thread : Nat) :
    repliesTo thread state steps = repliesTo thread state (alone thread (programs thread)) ∧
      SameView thread (Owns programs thread) (run state steps)
        (run state (alone thread (programs thread))) := by
  rw [← interleaves.ownSteps_eq thread]
  exact (SameView.refl thread _ state).run_ownSteps (independent.harmless interleaves thread)

end Interleavings

/-- Two interleavings of independent programs give every thread the same replies, one to each action
of its program, and lead to the same state. -/
theorem interleavings_agree {programs : Nat → List Action} (independent : Independent programs)
    {first second : List Step} (first_interleaves : Interleaves programs first)
    (second_interleaves : Interleaves programs second) (state : State) :
    (∀ thread, repliesTo thread state first = repliesTo thread state second ∧
      (repliesTo thread state first).length = (programs thread).length) ∧
      run state first = run state second := by
  have first_alone := independent.as_alone first_interleaves state
  have second_alone := independent.as_alone second_interleaves state
  refine ⟨?_, ?_⟩
  · intro thread
    refine ⟨by rw [(first_alone thread).1, (second_alone thread).1], ?_⟩
    rw [length_repliesTo, first_interleaves.ownSteps_eq, alone, List.length_map]
  · apply State.ext
    case memory =>
      rw [(first_alone 0).2.memory_eq, (second_alone 0).2.memory_eq]
    case slots =>
      apply List.ext_getElem?
      intro slot
      obtain ⟨owner, owns⟩ := independent.exists_owner slot
      rw [(first_alone owner).2.slot_eq slot owns, (second_alone owner).2.slot_eq slot owns]
    case messages =>
      funext thread
      rw [(first_alone thread).2.message_eq, (second_alone thread).2.message_eq]

/-! ## Two threads -/

/-- The programs of two threads; all others do nothing. -/
def twoPrograms (zeroth first : List Action) : Nat → List Action
  | 0 => zeroth
  | 1 => first
  | _ + 2 => []

theorem independent_twoPrograms {zeroth first : List Action}
    (zeroth_keeps : ∀ action ∈ zeroth, action.KeepsMemory)
    (first_keeps : ∀ action ∈ first, action.KeepsMemory)
    (apart : ∀ slot, ∀ action ∈ zeroth, action.slot? = some slot →
      ∀ other ∈ first, other.slot? ≠ some slot) :
    Independent (twoPrograms zeroth first) := by
  constructor
  case keeps_memory =>
    rintro (_ | _ | _)
    · exact zeroth_keeps
    · exact first_keeps
    · exact nofun
  case slots_apart =>
    rintro (_ | _ | _) (_ | _ | _) slot different
    · contradiction
    · exact apart slot
    · exact fun _ _ _ => nofun
    · intro action action_mem slot_eq other other_mem other_eq
      exact apart slot other other_mem other_eq action action_mem slot_eq
    · contradiction
    · exact fun _ _ _ => nofun
    all_goals exact nofun

/-- Two threads count elements of one memory into a slot each, keep a message and read it, one after
the other or taking turns. -/
theorem interleavings_agree_turns :
    let zeroth : List Action := [.guard (.raise (.literal "stopped")),
      .countInto .tail ⟨65536, 5⟩ (some ⟨0, 0⟩), .readMessage (some [9, 9, 9, 9]) 4]
    let first : List Action := [.countInto .bits ⟨65538, 3⟩ (some ⟨1, 0⟩),
      .guardOr 7 (.raise .other), .readMessage none 0]
    let state := State.start ⟨65536, [7, 0, 4, 0, 0], by decide, by decide⟩ [99, 98]
    let together := alone 0 zeroth ++ alone 1 first
    let turns := alone 1 (first.take 1) ++ alone 0 (zeroth.take 2) ++
      alone 1 (first.drop 1) ++ alone 0 (zeroth.drop 2)
    Independent (twoPrograms zeroth first) ∧
      Interleaves (twoPrograms zeroth first) together ∧
      Interleaves (twoPrograms zeroth first) turns ∧ together ≠ turns ∧
      ((∀ thread, repliesTo thread state together = repliesTo thread state turns ∧
        (repliesTo thread state together).length = (twoPrograms zeroth first thread).length) ∧
        run state together = run state turns) ∧
      (run state turns).slots = [2, 34] := by
  intro zeroth first state together turns
  have independent : Independent (twoPrograms zeroth first) := by
    apply independent_twoPrograms
    · simp [zeroth, Action.KeepsMemory]
    · simp [first, Action.KeepsMemory]
    · simp [zeroth, first, Action.slot?, Target.Aligned]
  have together_interleaves : Interleaves (twoPrograms zeroth first) together := by
    rintro (_ | _ | _) <;> rfl
  have turns_interleaves : Interleaves (twoPrograms zeroth first) turns := by
    rintro (_ | _ | _) <;> rfl
  exact ⟨independent, together_interleaves, turns_interleaves, by decide,
    interleavings_agree independent together_interleaves turns_interleaves state, by decide⟩

end Session
end ZeroTail
