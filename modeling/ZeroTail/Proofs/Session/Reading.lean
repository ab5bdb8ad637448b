import ZeroTail.Proofs.Boundary.Message
import ZeroTail.Proofs.Session.Message

/-!
# Reading messages in a session

Wherever a thread reads its message, it is told the length of the whole message, and nothing changes
but the destination it gave.  A thread that asks for the length first and then reads with a larger
capacity gets the message it asked about, whatever the other threads do in between.
-/

namespace ZeroTail
namespace Session

open Boundary

/-- What is answered to a reading of a message, and what is left in its destination. -/
structure MessageRead (message : String) (destination : Option (List UInt8)) (capacity : Nat)
    (length : Nat) (after : Option (List UInt8)) : Prop where
  length_eq : length = (messageBytes message).length
  size_eq : length = message.utf8ByteSize
  null_eq : destination = none → after = none
  /-- Without a capacity nothing is written. -/
  unwritten_eq : capacity = 0 → after = destination
  /-- A destination that holds the copy and its closing byte gets both. -/
  copied (cells : List UInt8) : destination = some cells → 0 < capacity →
    copiedLength (messageBytes message) capacity < cells.length →
      ∃ filled, after = some filled ∧ Copied (messageBytes message) capacity cells filled

theorem messageRead_map (message : String) (destination : Option (List UInt8)) (capacity : Nat) :
    MessageRead message destination capacity (messageBytes message).length
      (destination.map (copyMessage (messageBytes message) capacity)) where
  length_eq := rfl
  size_eq := length_messageBytes message
  null_eq := by
    rintro rfl
    rfl
  unwritten_eq := by
    rintro rfl
    cases destination with
    | none => rfl
    | some cells => rfl
  copied := by
    rintro cells rfl positive room
    exact ⟨_, rfl, copied_copyMessage positive room⟩

/-- A whole copy shows which text the message is. -/
theorem MessageRead.recovers {message : String} {cells : List UInt8} {capacity length : Nat}
    {after : Option (List UInt8)} (read : MessageRead message (some cells) capacity length after)
    (fits : length < capacity) (room : length < cells.length) :
    ∃ filled, after = some filled ∧ filled[length]? = some 0 ∧
      ∀ text, messageBytes text = filled.take length ↔ text = message := by
  have copied_eq : copiedLength (messageBytes message) capacity = length := by
    rw [read.length_eq]
    exact copiedLength_of_lt (read.length_eq ▸ fits)
  obtain ⟨filled, after_eq, copied⟩ :=
    read.copied cells rfl (Nat.zero_lt_of_lt fits) (copied_eq.symm ▸ room)
  have front_eq : filled.take length = messageBytes message := by
    rw [← copied_eq, copied.front_eq, copied_eq, read.length_eq, List.take_length]
  refine ⟨filled, after_eq, copied_eq ▸ copied.closed, ?_⟩
  intro text
  rw [front_eq, messageBytes_inj]

/-! ## A session -/

/-- The steps after one and before another. -/
def between (first second : Nat) (steps : List Step) : List Step :=
  (steps.take second).drop (first + 1)

theorem run_take_between {first second : Nat} (earlier : first < second) (state : State)
    (steps : List Step) :
    run state (steps.take second) =
      run (run state (steps.take (first + 1))) (between first second steps) := by
  have front_eq : (steps.take second).take (first + 1) = steps.take (first + 1) := by
    rw [List.take_take, Nat.min_eq_left earlier]
  rw [← run_append, between, ← front_eq, List.take_append_drop]

section Readings

variable {steps : List Step} {index thread capacity : Nat} {destination : Option (List UInt8)}

theorem trace_readMessage
    (reading : steps[index]? = some ⟨thread, .readMessage destination capacity⟩) (state : State) :
    ∃ length after,
      (trace state steps)[index]? =
          some (.message length after, run state (steps.take index)) ∧
        MessageRead ((run state (steps.take index)).messages thread) destination capacity
          length after := by
  rw [getElem?_trace, reading, Option.map_some, step_readMessage]
  exact ⟨_, _, rfl, messageRead_map _ destination capacity⟩

/-- The message that a thread has read stays until one of its own steps leaves another. -/
theorem messages_run_take_of_silent {later : Nat} (index_lt : index < later)
    (reading : steps[index]? = some ⟨thread, .readMessage destination capacity⟩)
    (silent : Silent thread (between index later steps)) (state : State) :
    (run state (steps.take later)).messages thread =
      (run state (steps.take index)).messages thread := by
  rw [run_take_between index_lt, messages_run_of_silent silent, run_take_succ reading,
    step_readMessage]

end Readings

/-- What the readings of a session answer. -/
structure ReadingLaw (state : State) (steps : List Step) : Prop where
  /-- Every reading answers the length of the message and changes nothing but its destination. -/
  answered (index thread capacity : Nat) (destination : Option (List UInt8)) :
    steps[index]? = some ⟨thread, .readMessage destination capacity⟩ →
      ∃ length after,
        (trace state steps)[index]? =
            some (.message length after, run state (steps.take index)) ∧
          MessageRead ((run state (steps.take index)).messages thread) destination capacity
            length after
  /-- A thread that has asked for the length reads the whole message with any larger capacity,
  unless it leaves another text in between. -/
  recovered (first second thread asked capacity : Nat) (destination : Option (List UInt8))
    (cells : List UInt8) : first < second →
    steps[first]? = some ⟨thread, .readMessage destination asked⟩ →
    steps[second]? = some ⟨thread, .readMessage (some cells) capacity⟩ →
    Silent thread (between first second steps) →
      ∃ length left after,
        (trace state steps)[first]? =
            some (.message length left, run state (steps.take first)) ∧
          (trace state steps)[second]? =
            some (.message length after, run state (steps.take second)) ∧
          (length < capacity → length < cells.length →
            ∃ filled, after = some filled ∧ filled[length]? = some 0 ∧
              ∀ text, messageBytes text = filled.take length ↔
                text = (run state (steps.take first)).messages thread)

/-- Reading gives every thread its message and disturbs nobody. -/
theorem readings_along_session (state : State) (steps : List Step) : ReadingLaw state steps := by
  constructor
  case answered => exact fun _ _ _ _ reading => trace_readMessage reading state
  case recovered =>
    intro first second thread asked capacity destination cells first_lt query reading silent
    obtain ⟨length, left, query_eq, query_read⟩ := trace_readMessage query state
    obtain ⟨length', after, reading_eq, read⟩ := trace_readMessage reading state
    rw [messages_run_take_of_silent first_lt query silent] at read
    obtain rfl : length' = length := read.length_eq.trans query_read.length_eq.symm
    exact ⟨length', left, after, query_eq, reading_eq, read.recovers⟩

end Session
end ZeroTail
