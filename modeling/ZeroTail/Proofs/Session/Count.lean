import ZeroTail.Proofs.Boundary.Count
import ZeroTail.Proofs.Session.Step

/-!
# The contract of counting calls

For any extent and any target, the plain and the checked call of a measure agree on one count.  A
caller promises one thing only: what passes the checks lies in the memory.
-/

namespace ZeroTail
namespace Session

open Boundary

/-- What the two calls of a measure answer about an extent that names the elements of `window`. -/
structure CallsAnswer (kernel : Kernel) (state : State) (thread : Nat) (extent : Extent)
    (target : Option Target) (window : Buffer) (value : UInt64) : Prop where
  /-- The window of an extent that can be read has all the elements that the extent names. -/
  window_length : extent.Readable → window.length = extent.length
  /-- The count of an extent that can be read is the exact count of its window. -/
  value_eq : extent.Readable → value.toNat = kernel.exact window
  /-- No sum on the way to that count passes 64 bits. -/
  sums_fit : extent.Readable → ∀ part : Buffer, part <+: window → part.exactBits < 2 ^ 64
  /-- An empty extent and one with a defect have the count zero. -/
  value_eq_zero : ¬ extent.Readable → value = 0
  /-- The count is within the length of the extent. -/
  value_le : value.toNat ≤ kernel.weight * extent.length
  /-- The plain call answers the count and leaves everything as it was. -/
  plain_eq : step state ⟨thread, .count kernel extent⟩ = (.number value, state)
  /-- The checked call answers the first status that applies. -/
  status_eq : (step state ⟨thread, .countInto kernel extent target⟩).1 =
    .code (owedStatus extent target).code
  /-- The checked call never answers that it stopped with a fault. -/
  status_ne : (step state ⟨thread, .countInto kernel extent target⟩).1 ≠
    .code Status.faulted.code
  /-- The checked call does not change the memory. -/
  memory_eq : (step state ⟨thread, .countInto kernel extent target⟩).2.memory = state.memory
  /-- The checked call does not change a message. -/
  messages_eq : (step state ⟨thread, .countInto kernel extent target⟩).2.messages = state.messages
  /-- The checked call writes the count to the slot that a successful call is aimed at, and to no
  other. -/
  slots_eq (slot : Nat) :
    (step state ⟨thread, .countInto kernel extent target⟩).2.slots[slot]? =
      if owedStatus extent target = .success ∧ target = some ⟨slot, 0⟩ then
        state.slots[slot]?.map fun _ => value
      else
        state.slots[slot]?

/-- The plain and the checked call agree on every extent and every target, if only an extent that
passes the checks names fewer than `2^60` elements of the memory, from index `index` on. -/
theorem counting_calls_agree (kernel : Kernel) (state : State) (thread : Nat) (extent : Extent)
    (target : Option Target) (index : Nat)
    (promised : extent.Readable →
      extent.address = state.memory.base + 2 * index ∧
        index + extent.length ≤ state.memory.cells.length ∧
        extent.length < 2 ^ 60) :
    ∃ value, CallsAnswer kernel state thread extent target
      ((state.memory.cells.drop index).take extent.length) value := by
  have window_length (readable : extent.Readable) :
      ((state.memory.cells.drop index).take extent.length).length = extent.length := by
    obtain ⟨address_eq, inside, -⟩ := promised readable
    rw [← Memory.window_of_address_eq address_eq]
    exact Memory.window_length ⟨index, address_eq, inside⟩
  have value_eq (readable : extent.Readable) : (count kernel state.memory extent).toNat =
      kernel.exact ((state.memory.cells.drop index).take extent.length) := by
    obtain ⟨address_eq, -, length_lt⟩ := promised readable
    rw [← window_length readable] at length_lt
    rw [count_eq_measure readable, Memory.window_of_address_eq address_eq,
      kernel.toNat_measure length_lt]
  have value_eq_zero (unreadable : ¬ extent.Readable) : count kernel state.memory extent = 0 :=
    count_eq_zero unreadable kernel state.memory
  refine ⟨count kernel state.memory extent, ?_⟩
  constructor
  case window_length => exact window_length
  case value_eq => exact value_eq
  case sums_fit =>
    intro readable part part_prefix
    have part_length := part_prefix.length_le
    have length_lt := (promised readable).2.2
    rw [window_length readable] at part_length
    exact Buffer.exactBits_lt_of_length_lt (Nat.lt_of_le_of_lt part_length length_lt)
  case value_eq_zero => exact value_eq_zero
  case value_le =>
    by_cases readable : extent.Readable
    · have count_le := kernel.exact_le ((state.memory.cells.drop index).take extent.length)
      rw [window_length readable] at count_le
      rw [value_eq readable]
      exact count_le
    · rw [value_eq_zero readable]
      exact Nat.zero_le _
  case plain_eq => exact step_count state thread kernel extent
  case status_eq => rw [step_countInto, countInto_eq]
  case status_ne =>
    rw [step_countInto, countInto_eq]
    intro code_eq
    have owed_eq := (Status.code_eq_faulted_iff _).mp (Reply.code.inj code_eq)
    exact owedStatus_ne_faulted extent target owed_eq
  case memory_eq => rw [step_countInto]
  case messages_eq => rw [step_countInto]
  case slots_eq =>
    intro slot
    rw [step_countInto]
    exact getElem?_slots_countInto kernel state.memory extent target state.slots slot

/-- Three elements inside the memory, counted into the second of two slots. -/
theorem counting_calls_agree_inside :
    let state := State.start ⟨65536, [7, 0, 4, 0, 9], by decide, by decide⟩ [99, 98]
    let extent : Extent := ⟨65538, 3⟩
    extent.Readable ∧
      (extent.address = state.memory.base + 2 * 1 ∧
        1 + extent.length ≤ state.memory.cells.length ∧
        extent.length < 2 ^ 60) ∧
      ∃ value, CallsAnswer .bits state 0 extent (some ⟨1, 0⟩) [0, 4, 0] value ∧
        value.toNat = 34 := by
  intro state extent
  have readable : extent.Readable := ⟨by decide, by decide, by decide, by decide⟩
  have promise : extent.address = state.memory.base + 2 * 1 ∧
      1 + extent.length ≤ state.memory.cells.length ∧ extent.length < 2 ^ 60 := by decide
  obtain ⟨value, answers⟩ :=
    counting_calls_agree .bits state 0 extent (some ⟨1, 0⟩) 1 fun _ => promise
  exact ⟨readable, promise, value, answers, answers.value_eq readable⟩

end Session
end ZeroTail
