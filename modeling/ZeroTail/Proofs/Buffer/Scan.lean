import ZeroTail.Buffer.Basic
import Mathlib.Data.List.Induction
import Mathlib.Logic.Relation

/-!
# The block scan and the plain scan agree

The block scan is a walk over positions: what is left of the buffer, and the zeros counted behind
it.  A whole block of zeros is passed over (`ScanStep`); the walk stops inside the first other block
or in the short rest at the front (`ScanStop`).  The zeros counted together with the zero tail of
what is left never change along the walk, so every stop names the boundary that the plain scan
finds.
-/

namespace ZeroTail
namespace Buffer

/-! ## The plain scan -/

theorem plainTailLength_le (buffer : Buffer) : buffer.plainTailLength ≤ buffer.length := by
  have bound := leadingZeros_le buffer.reverse
  rwa [List.length_reverse] at bound

@[simp]
theorem plainTailLength_concat_zero (front : Buffer) :
    plainTailLength (front ++ [0]) = front.plainTailLength + 1 := by
  simp [plainTailLength, leadingZeros]

theorem plainTailLength_concat_of_ne {last : UInt16} (last_ne : last ≠ 0) (front : Buffer) :
    plainTailLength (front ++ [last]) = 0 := by
  simp [plainTailLength, leadingZeros, last_ne]

theorem plainTailLength_append_replicate (front : Buffer) (zeros : Nat) :
    plainTailLength (front ++ List.replicate zeros 0) = front.plainTailLength + zeros := by
  induction zeros with
  | zero => simp
  | succ zeros ih =>
      rw [List.replicate_succ', ← List.append_assoc, plainTailLength_concat_zero, ih]
      omega

theorem plainTailLength_append_of_mem_ne {block : Buffer} {element : UInt16}
    (element_mem : element ∈ block) (element_ne : element ≠ 0) (front : Buffer) :
    plainTailLength (front ++ block) = block.plainTailLength := by
  induction block using List.reverseRecOn with
  | nil => simp at element_mem
  | append_singleton block last ih =>
      rw [← List.append_assoc]
      by_cases last_eq : last = 0
      · subst last_eq
        have element_mem_block : element ∈ block := by
          rcases List.mem_append.mp element_mem with inside | at_end
          · exact inside
          · exact absurd (List.mem_singleton.mp at_end) element_ne
        rw [plainTailLength_concat_zero, plainTailLength_concat_zero, ih element_mem_block]
      · rw [plainTailLength_concat_of_ne last_eq, plainTailLength_concat_of_ne last_eq]

/-! ## Positions of the block scan -/

/-- The last block of a buffer that is long enough to have one. -/
def lastBlock (buffer : Buffer) : Buffer :=
  buffer.drop (buffer.length - blockLength)

/-- The buffer before its last block. -/
def beforeLastBlock (buffer : Buffer) : Buffer :=
  buffer.take (buffer.length - blockLength)

theorem beforeLastBlock_append_lastBlock (buffer : Buffer) :
    buffer.beforeLastBlock ++ buffer.lastBlock = buffer :=
  List.take_append_drop _ buffer

theorem length_beforeLastBlock (buffer : Buffer) :
    buffer.beforeLastBlock.length = buffer.length - blockLength := by
  rw [beforeLastBlock, List.length_take]
  omega

theorem length_lastBlock {buffer : Buffer} (whole : blockLength ≤ buffer.length) :
    buffer.lastBlock.length = blockLength := by
  rw [lastBlock, List.length_drop]
  omega

/-- A position of the block scan. -/
structure ScanPosition where
  /-- The elements not yet passed. -/
  rest : Buffer
  /-- The number of zeros passed behind them. -/
  counted : Nat

/-- The scan passes a whole block of zeros. -/
inductive ScanStep : ScanPosition → ScanPosition → Prop
  | pass {rest : Buffer} {counted : Nat} (whole : blockLength ≤ rest.length)
      (zeros : ∀ element ∈ rest.lastBlock, element = 0) :
      ScanStep ⟨rest, counted⟩ ⟨rest.beforeLastBlock, counted + blockLength⟩

/-- The scan stops with an answer: inside a whole block that has an element other than zero, or in a
rest that is shorter than a block. -/
inductive ScanStop : ScanPosition → Nat → Prop
  | inside {rest : Buffer} {counted : Nat} {element : UInt16} (whole : blockLength ≤ rest.length)
      (element_mem : element ∈ rest.lastBlock) (element_ne : element ≠ 0) :
      ScanStop ⟨rest, counted⟩ (counted + rest.lastBlock.plainTailLength)
  | front {rest : Buffer} {counted : Nat} (short : rest.length < blockLength) :
      ScanStop ⟨rest, counted⟩ (counted + rest.plainTailLength)

/-- The walk of the block scan from one position to another. -/
def ScanReaches : ScanPosition → ScanPosition → Prop :=
  Relation.ReflTransGen ScanStep

namespace ScanPosition

/-- The answer that the scan computes from a position on. -/
def answer (position : ScanPosition) : Nat :=
  scanBlocks (position.rest.length / blockLength) position.counted position.rest.reverse

/-- The buffer that a position is a position of. -/
def contents (position : ScanPosition) : Buffer :=
  position.rest ++ List.replicate position.counted 0

end ScanPosition

/-! ## The walk and the executed scan -/

theorem take_reverse_eq_lastBlock (rest : Buffer) :
    rest.reverse.take blockLength = rest.lastBlock.reverse := by
  rw [List.take_reverse, lastBlock]

theorem drop_reverse_eq_beforeLastBlock (rest : Buffer) :
    rest.reverse.drop blockLength = rest.beforeLastBlock.reverse := by
  rw [List.drop_reverse, beforeLastBlock]

theorem blocks_eq_succ {rest : Buffer} (whole : blockLength ≤ rest.length) :
    rest.length / blockLength = rest.beforeLastBlock.length / blockLength + 1 := by
  rw [length_beforeLastBlock, Nat.div_eq_sub_div (by decide) whole]

theorem any_ne_zero_reverse_iff (block : Buffer) :
    block.reverse.any (· != 0) = true ↔ ∃ element ∈ block, element ≠ 0 := by
  simp

/-- A step of the walk is a turn of the executed scan that goes on. -/
theorem ScanStep.answer_eq {before after : ScanPosition} (step : ScanStep before after) :
    before.answer = after.answer := by
  obtain ⟨whole, zeros⟩ := step
  rename_i rest counted
  have no_other : ¬ rest.lastBlock.reverse.any (· != 0) = true := by
    rw [any_ne_zero_reverse_iff]
    rintro ⟨element, element_mem, element_ne⟩
    exact element_ne (zeros element element_mem)
  simp only [ScanPosition.answer]
  rw [blocks_eq_succ whole, scanBlocks, take_reverse_eq_lastBlock, if_neg no_other,
    drop_reverse_eq_beforeLastBlock]

/-- A stop of the walk is a turn of the executed scan that returns. -/
theorem ScanStop.answer_eq {position : ScanPosition} {result : Nat}
    (stop : ScanStop position result) : position.answer = result := by
  cases stop with
  | @inside rest counted element whole element_mem element_ne =>
      have other : rest.lastBlock.reverse.any (· != 0) = true := by
        rw [any_ne_zero_reverse_iff]
        exact ⟨element, element_mem, element_ne⟩
      simp only [ScanPosition.answer]
      rw [blocks_eq_succ whole, scanBlocks, take_reverse_eq_lastBlock, if_pos other]
      rfl
  | @front rest counted short =>
      simp only [ScanPosition.answer]
      rw [Nat.div_eq_of_lt short, scanBlocks]
      rfl

theorem ScanStep.contents_eq {before after : ScanPosition} (step : ScanStep before after) :
    before.contents = after.contents := by
  obtain ⟨whole, zeros⟩ := step
  rename_i rest counted
  have block_eq : rest.lastBlock = List.replicate blockLength 0 :=
    List.eq_replicate_iff.mpr ⟨length_lastBlock whole, zeros⟩
  calc
    rest ++ List.replicate counted 0 =
        rest.beforeLastBlock ++ rest.lastBlock ++ List.replicate counted 0 := by
      rw [beforeLastBlock_append_lastBlock]
    _ = rest.beforeLastBlock ++ List.replicate (counted + blockLength) 0 := by
      rw [block_eq, List.append_assoc, List.replicate_append_replicate, Nat.add_comm blockLength]

/-- A stop of the walk names the boundary that the plain scan finds. -/
theorem ScanStop.plainTailLength_eq {position : ScanPosition} {result : Nat}
    (stop : ScanStop position result) : position.contents.plainTailLength = result := by
  cases stop with
  | @inside rest counted element whole element_mem element_ne =>
      have rest_tail : rest.plainTailLength = rest.lastBlock.plainTailLength := by
        conv_lhs => rw [← beforeLastBlock_append_lastBlock rest]
        exact plainTailLength_append_of_mem_ne element_mem element_ne _
      rw [ScanPosition.contents, plainTailLength_append_replicate, rest_tail, Nat.add_comm]
  | @front rest counted short =>
      rw [ScanPosition.contents, plainTailLength_append_replicate, Nat.add_comm]

theorem ScanReaches.contents_eq {before after : ScanPosition} (reach : ScanReaches before after) :
    before.contents = after.contents := by
  induction reach with
  | refl => rfl
  | tail _ step ih => exact ih.trans step.contents_eq

theorem ScanPosition.step_or_stop (position : ScanPosition) :
    (∃ after, ScanStep position after ∧ after.rest.length < position.rest.length) ∨
      ∃ result, ScanStop position result := by
  obtain ⟨rest, counted⟩ := position
  by_cases whole : blockLength ≤ rest.length
  · by_cases zeros : ∀ element ∈ rest.lastBlock, element = 0
    · have shorter : rest.beforeLastBlock.length < rest.length := by
        have block_pos : 0 < blockLength := by decide
        rw [length_beforeLastBlock]
        omega
      exact Or.inl ⟨_, .pass whole zeros, shorter⟩
    · push Not at zeros
      obtain ⟨element, element_mem, element_ne⟩ := zeros
      exact Or.inr ⟨_, .inside whole element_mem element_ne⟩
  · exact Or.inr ⟨_, .front (Nat.lt_of_not_le whole)⟩

/-- From every position the walk comes to a stop, with the answer of the executed scan. -/
theorem ScanPosition.exists_stop (position : ScanPosition) :
    ∃ final, ScanReaches position final ∧ ScanStop final position.answer := by
  induction length_eq : position.rest.length using Nat.strongRecOn generalizing position with
  | _ length ih =>
      subst length_eq
      rcases position.step_or_stop with ⟨after, step, shorter⟩ | ⟨result, stop⟩
      · obtain ⟨final, reach, stop⟩ := ih _ shorter after rfl
        exact ⟨final, .head step reach, step.answer_eq ▸ stop⟩
      · exact ⟨position, .refl, stop.answer_eq ▸ stop⟩

theorem ScanPosition.answer_eq_plainTailLength (position : ScanPosition) :
    position.answer = position.contents.plainTailLength := by
  obtain ⟨final, reach, stop⟩ := position.exists_stop
  calc
    position.answer = final.contents.plainTailLength := stop.plainTailLength_eq.symm
    _ = position.contents.plainTailLength := by rw [reach.contents_eq]

@[simp]
theorem contents_start (buffer : Buffer) : ScanPosition.contents ⟨buffer, 0⟩ = buffer :=
  List.append_nil buffer

theorem answer_start (buffer : Buffer) : ScanPosition.answer ⟨buffer, 0⟩ = buffer.tailLength := rfl

theorem tailLength_eq (buffer : Buffer) : buffer.tailLength = buffer.plainTailLength := by
  rw [← answer_start, ScanPosition.answer_eq_plainTailLength, contents_start]

theorem tailLength_le (buffer : Buffer) : buffer.tailLength ≤ buffer.length := by
  rw [tailLength_eq]
  exact plainTailLength_le buffer

/-- The block scan is the plain scan.  Its walk over the blocks comes to a stop with the answer of
the executed scan.  At every position of the walk the zeros counted are the ones that end the
buffer, and wherever the walk can stop, inside a block or in the rest at the front, it names the
boundary that the plain scan finds. -/
theorem blockScan_eq_plainScan (buffer : Buffer) :
    buffer.tailLength = buffer.plainTailLength ∧
      buffer.tailLength ≤ buffer.length ∧
      (∃ final, ScanReaches ⟨buffer, 0⟩ final ∧ ScanStop final buffer.tailLength) ∧
      ∀ position, ScanReaches ⟨buffer, 0⟩ position →
        buffer = position.rest ++ List.replicate position.counted 0 ∧
          position.answer = buffer.plainTailLength ∧
          ∀ result, ScanStop position result → result = buffer.plainTailLength := by
  refine ⟨tailLength_eq buffer, tailLength_le buffer, ?_, ?_⟩
  · exact ScanPosition.exists_stop ⟨buffer, 0⟩
  · intro position reach
    have contents_eq : buffer = position.contents := by
      rw [← reach.contents_eq, contents_start]
    refine ⟨contents_eq, ?_, ?_⟩
    · rw [contents_eq, position.answer_eq_plainTailLength]
    · intro result stop
      rw [contents_eq, stop.plainTailLength_eq]

end Buffer
end ZeroTail
