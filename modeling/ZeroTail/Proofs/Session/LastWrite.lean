import ZeroTail.Proofs.Session.Frame

/-!
# The last write

What a part of the state holds after a session is what the last step that writes to it wrote there,
or what it held at the start if no step did.  This is shown once for any part of the state
(`exists_recorded`) from what one step does to it (`Tracks`).  An element of the memory is written
to by storing and filling alone, and a slot by the checked calls alone that are aimed at it and
succeed.
-/

namespace ZeroTail
namespace Session

open Boundary

/-! ## Any part of the state -/

section Records

variable {α : Type} (writes : State → Step → α → Prop)

/-- The step at an index of a session writes a value. -/
def WritesAt (state : State) (steps : List Step) (index : Nat) (value : α) : Prop :=
  ∃ next, steps[index]? = some next ∧ writes (run state (steps.take index)) next value

/-- A value is what the last writing step of a session wrote, or the initial one if no step of it
writes. -/
inductive Recorded (state : State) (steps : List Step) (initial : α) : α → Prop
  | written {index : Nat} {value : α} (writes_at : WritesAt writes state steps index value)
      (last : ∀ later other, index < later → ¬ WritesAt writes state steps later other) :
      Recorded state steps initial value
  | untouched (unwritten : ∀ index value, ¬ WritesAt writes state steps index value) :
      Recorded state steps initial initial

/-- A step leaves in a part of the state what it writes to it, and leaves that part as it was if it
writes nothing. -/
structure Tracks (view : State → Option α) (next : Step) : Prop where
  written {state : State} {initial value : α} : view state = some initial →
    writes state next value → view (step state next).2 = some value
  kept {state : State} {initial : α} : view state = some initial →
    (∀ value, ¬ writes state next value) → view (step state next).2 = some initial

variable {writes} {state : State} {steps : List Step} {next : Step}

theorem WritesAt.index_lt {index : Nat} {value : α}
    (writes_at : WritesAt writes state steps index value) : index < steps.length := by
  obtain ⟨next, next_eq, -⟩ := writes_at
  obtain ⟨index_lt, -⟩ := List.getElem?_eq_some_iff.mp next_eq
  exact index_lt

theorem writesAt_concat_iff {index : Nat} {value : α} :
    WritesAt writes state (steps ++ [next]) index value ↔
      WritesAt writes state steps index value ∨
        index = steps.length ∧ writes (run state steps) next value := by
  rcases Nat.lt_trichotomy index steps.length with before | rfl | after
  · have take_eq : (steps ++ [next]).take index = steps.take index :=
      List.take_append_of_le_length (Nat.le_of_lt before)
    simp [WritesAt, List.getElem?_append_left before, take_eq, Nat.ne_of_lt before]
  · simp [WritesAt]
  · have absent : (steps ++ [next])[index]? = none := by
      simp
      omega
    have absent_before : steps[index]? = none := List.getElem?_eq_none (Nat.le_of_lt after)
    simp [WritesAt, absent, absent_before, Nat.ne_of_gt after]

theorem Recorded.concat_written {initial value : α} (wrote : writes (run state steps) next value) :
    Recorded writes state (steps ++ [next]) initial value := by
  refine .written (writesAt_concat_iff.mpr (Or.inr ⟨rfl, wrote⟩)) ?_
  intro later other after writes_at
  have later_lt := writes_at.index_lt
  rw [List.length_append, List.length_singleton] at later_lt
  omega

theorem Recorded.concat_kept {initial value : α}
    (recorded : Recorded writes state steps initial value)
    (silent : ∀ value, ¬ writes (run state steps) next value) :
    Recorded writes state (steps ++ [next]) initial value := by
  have writesAt_iff (index : Nat) (other : α) :
      WritesAt writes state (steps ++ [next]) index other ↔
        WritesAt writes state steps index other := by
    rw [writesAt_concat_iff]
    exact or_iff_left fun last => silent other last.2
  cases recorded with
  | written writes_at last =>
      refine .written ((writesAt_iff _ _).mpr writes_at) ?_
      intro later other after
      rw [writesAt_iff]
      exact last later other after
  | untouched unwritten =>
      refine .untouched ?_
      intro index other
      rw [writesAt_iff]
      exact unwritten index other

/-- After a session whose steps are all tracked, a part of the state holds its last record. -/
theorem exists_recorded {view : State → Option α} {initial : α}
    (view_eq : view state = some initial) (tracks : ∀ next ∈ steps, Tracks writes view next) :
    ∃ value, view (run state steps) = some value ∧
      Recorded writes state steps initial value := by
  -- The last step decides: what it writes is the record, and otherwise the record stands.
  induction steps using List.reverseRecOn with
  | nil =>
      refine ⟨initial, view_eq, .untouched ?_⟩
      rintro index value ⟨next, next_eq, -⟩
      simp at next_eq
  | append_singleton steps next ih =>
      have next_tracks : Tracks writes view next := tracks next (by simp)
      obtain ⟨before, before_eq, recorded⟩ :=
        ih fun earlier earlier_mem => tracks earlier (List.mem_append_left _ earlier_mem)
      rw [run_concat]
      by_cases wrote : ∃ value, writes (run state steps) next value
      · obtain ⟨value, wrote⟩ := wrote
        exact ⟨value, next_tracks.written before_eq wrote, .concat_written wrote⟩
      · have silent := not_exists.mp wrote
        exact ⟨before, next_tracks.kept before_eq silent, recorded.concat_kept silent⟩

end Records

/-! ## Elements and slots -/

/-- A step stores an element, or fills a range that the element lies in. -/
inductive WritesElement (index : Nat) : Step → UInt16 → Prop
  | store (thread : Nat) (value : UInt16) :
      WritesElement index ⟨thread, .store index value⟩ value
  | fill (thread : Nat) {start stop : Nat} (value : UInt16) (start_le : start ≤ index)
      (lt_stop : index < stop) : WritesElement index ⟨thread, .fill start stop value⟩ value

/-- A checked call that is aimed at a slot answers success; the value is the count of the window
that its extent names. -/
inductive WritesSlot (slot : Nat) (state : State) : Step → UInt64 → Prop
  | success {thread : Nat} {kernel : Kernel} {extent : Extent} {target : Target}
      (slot_eq : target.slot = slot) (aligned : target.Aligned)
      (answered : (step state ⟨thread, .countInto kernel extent (some target)⟩).1 =
        .code Status.success.code) :
      WritesSlot slot state ⟨thread, .countInto kernel extent (some target)⟩
        (kernel.measure (state.memory.window extent))

/-- A range to be filled lies within a memory of so many elements. -/
def Action.Within (length : Nat) : Action → Prop
  | .fill start stop _ => start ≤ stop ∧ stop ≤ length
  | _ => True

theorem tracks_element {length : Nat} {next : Step} (within : next.action.Within length)
    (index : Nat) :
    Tracks (fun _ => WritesElement index) (fun state => state.memory.cells[index]?) next := by
  obtain ⟨thread, action⟩ := next
  constructor
  case written =>
    intro state initial value held wrote
    obtain ⟨index_lt, -⟩ := List.getElem?_eq_some_iff.mp held
    cases wrote with
    | store => exact List.getElem?_set_self index_lt
    | fill _ _ start_le lt_stop =>
        exact (Buffer.getElem?_overwrite within.1 index_lt value).trans
          (if_pos ⟨start_le, lt_stop⟩)
  case kept =>
    intro state initial held silent
    obtain ⟨index_lt, -⟩ := List.getElem?_eq_some_iff.mp held
    by_cases keeps : action.KeepsMemory
    · rw [memory_step keeps, held]
    · cases action with
      | store place value =>
          have elsewhere : place ≠ index := by
            rintro rfl
            exact silent value (.store thread value)
          exact (List.getElem?_set_ne elsewhere).trans held
      | fill start stop value =>
          have outside : ¬ (start ≤ index ∧ index < stop) := fun inside =>
            silent value (.fill thread value inside.1 inside.2)
          exact (Buffer.getElem?_overwrite within.1 index_lt value).trans
            ((if_neg outside).trans held)
      | _ => exact absurd trivial keeps

theorem answered_success_iff (state : State) (thread : Nat) (kernel : Kernel) (extent : Extent)
    (target : Option Target) :
    (step state ⟨thread, .countInto kernel extent target⟩).1 = .code Status.success.code ↔
      owedStatus extent target = .success := by
  rw [step_countInto, countInto_eq, Reply.code.injEq, Status.code_injective.eq_iff]

theorem tracks_slot (slot : Nat) (next : Step) :
    Tracks (WritesSlot slot) (fun state => state.slots[slot]?) next := by
  obtain ⟨thread, action⟩ := next
  constructor
  case written =>
    intro state initial value held wrote
    cases wrote with
    | @success _ kernel extent target slot_eq aligned answered =>
        rw [answered_success_iff] at answered
        obtain ⟨aim, shift⟩ := target
        obtain rfl : aim = slot := slot_eq
        obtain rfl : shift = 0 := aligned
        rw [getElem?_slots_step_countInto, if_pos ⟨answered, rfl⟩, held, Option.map_some,
          count_of_owedStatus_eq answered]
  case kept =>
    intro state initial held silent
    cases action with
    | countInto kernel extent target =>
        have missed : ¬ (owedStatus extent target = .success ∧ target = some ⟨slot, 0⟩) := by
          rintro ⟨owed_eq, rfl⟩
          exact silent _ (.success rfl rfl ((answered_success_iff _ _ _ _ _).mpr owed_eq))
        rw [getElem?_slots_step_countInto, if_neg missed, held]
    | _ =>
        rw [slots_step]
        exact held

/-! ## A session -/

/-- The steps that store or fill. -/
def edits (steps : List Step) : List Step :=
  steps.filter fun next => ¬ next.action.KeepsMemory

/-- The memory after a run is the one that its storing and filling steps lead to on their own. -/
theorem memory_run_edits {left right : State} (memory_eq : left.memory = right.memory)
    (steps : List Step) : (run left steps).memory = (run right (edits steps)).memory := by
  induction steps generalizing left right with
  | nil => exact memory_eq
  | cons next later ih =>
      by_cases keeps : next.action.KeepsMemory
      · have dropped : edits (next :: later) = edits later :=
          List.filter_cons_of_neg (by simpa using keeps)
        rw [dropped]
        exact ih ((memory_step keeps left next.thread).trans memory_eq)
      · have kept : edits (next :: later) = next :: edits later :=
          List.filter_cons_of_pos (by simpa using keeps)
        rw [kept]
        exact ih (memory_step_congr memory_eq next.thread next.action)

theorem length_memory_step {state : State} {next : Step}
    (within : next.action.Within state.memory.cells.length) :
    (step state next).2.memory.cells.length = state.memory.cells.length := by
  obtain ⟨thread, action⟩ := next
  by_cases keeps : action.KeepsMemory
  · rw [memory_step keeps]
  · cases action with
    | store index value => exact List.length_set
    | fill start stop value => exact Buffer.overwrite_length within.1 within.2 value
    | _ => exact absurd trivial keeps

theorem length_memory_run {state : State} {steps : List Step}
    (within : ∀ next ∈ steps, next.action.Within state.memory.cells.length) :
    (run state steps).memory.cells.length = state.memory.cells.length := by
  induction steps generalizing state with
  | nil => rfl
  | cons next later ih =>
      obtain ⟨next_within, later_within⟩ := List.forall_mem_cons.mp within
      have length_eq := length_memory_step next_within
      rw [← length_eq] at later_within
      exact (ih later_within).trans length_eq

/-- What a step leaves as it was. -/
structure Framed (before : State) (next : Step) (reply : Reply) (after : State) : Prop where
  /-- The memory stays where it is. -/
  base_eq : after.memory.base = before.memory.base
  /-- No call across the boundary and no guarded body changes the memory. -/
  memory_eq : next.action.KeepsMemory → after.memory = before.memory
  /-- No slot comes or goes. -/
  length_eq : after.slots.length = before.slots.length
  /-- A slot that the step is not aimed at keeps what it holds. -/
  elsewhere_eq (slot : Nat) : next.action.slot? ≠ some slot →
    after.slots[slot]? = before.slots[slot]?
  /-- A checked call with a target that is not the start of a slot changes no slot. -/
  shifted_eq (kernel : Kernel) (extent : Extent) (target : Target) :
    next.action = .countInto kernel extent (some target) → target.shift ≠ 0 →
      after.slots = before.slots
  /-- A checked call that does not succeed changes no slot. -/
  refused_eq (kernel : Kernel) (extent : Extent) (target : Option Target) :
    next.action = .countInto kernel extent target → reply ≠ .code Status.success.code →
      after.slots = before.slots

theorem framed_step (state : State) (next : Step) :
    Framed state next (step state next).1 (step state next).2 := by
  obtain ⟨thread, action⟩ := next
  constructor
  case base_eq =>
    by_cases keeps : action.KeepsMemory
    · rw [memory_step keeps]
    · cases action with
      | store index value => rfl
      | fill start stop value => rfl
      | _ => exact absurd trivial keeps
  case memory_eq => exact fun keeps => memory_step keeps state thread
  case length_eq =>
    rw [slots_step]
    cases action with
    | countInto kernel extent target => exact length_slots_countInto kernel _ extent target _
    | _ => rfl
  case elsewhere_eq => exact fun slot elsewhere => getElem?_slots_step_of_ne elsewhere state thread
  case shifted_eq =>
    rintro kernel extent target rfl shifted
    rw [slots_step]
    refine slots_countInto_of_ne ?_ kernel state.memory state.slots
    intro owed_eq
    exact shifted (usable_of_owedStatus_eq owed_eq)
  case refused_eq =>
    rintro kernel extent target rfl refused
    rw [slots_step]
    refine slots_countInto_of_ne ?_ kernel state.memory state.slots
    rwa [ne_eq, answered_success_iff] at refused

/-- What a session leaves in the memory and in the slots. -/
structure FrameLaw (state : State) (steps : List Step) : Prop where
  /-- The memory is the one that the storing and filling steps lead to on their own. -/
  memory_eq : (run state steps).memory = (run state (edits steps)).memory
  /-- If all ranges to be filled lie within the memory, it keeps its length, and each of its
  elements is the one that was stored or filled last. -/
  element_recorded : (∀ next ∈ steps, next.action.Within state.memory.cells.length) →
    (run state steps).memory.cells.length = state.memory.cells.length ∧
      ∀ index initial, state.memory.cells[index]? = some initial →
        ∃ value, (run state steps).memory.cells[index]? = some value ∧
          Recorded (fun _ => WritesElement index) state steps initial value
  /-- Each slot holds the count of the last checked call that was aimed at it and succeeded. -/
  slot_recorded (slot : Nat) (initial : UInt64) : state.slots[slot]? = some initial →
    ∃ value, (run state steps).slots[slot]? = some value ∧
      Recorded (WritesSlot slot) state steps initial value
  /-- Every step leaves as it was what it does not write to. -/
  framed (index : Nat) (next : Step) : steps[index]? = some next →
    ∃ reply, (trace state steps)[index]? = some (reply, run state (steps.take (index + 1))) ∧
      Framed (run state (steps.take index)) next reply (run state (steps.take (index + 1)))

/-- A session changes the memory by its storing and filling steps and the slots by its successful
checked calls, and it changes nothing else there. -/
theorem frame_along_session (state : State) (steps : List Step) : FrameLaw state steps := by
  constructor
  case memory_eq => exact memory_run_edits rfl steps
  case element_recorded =>
    intro within
    refine ⟨length_memory_run within, ?_⟩
    intro index initial held
    exact exists_recorded held fun next next_mem => tracks_element (within next next_mem) index
  case slot_recorded =>
    intro slot initial held
    exact exists_recorded held fun next _ => tracks_slot slot next
  case framed =>
    intro index next next_eq
    rw [run_take_succ next_eq, getElem?_trace, next_eq, Option.map_some]
    exact ⟨_, rfl, framed_step _ next⟩

end Session
end ZeroTail
