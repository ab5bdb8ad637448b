import ZeroTail.Proofs.Buffer.Scan
import Mathlib.Logic.Function.Basic

/-!
# Splitting off the zero tail

A buffer is trimmed if it does not end in a zero.  Every buffer is a trimmed head followed by
zeros, in exactly one way, and splitting finds it.  Trimming, the test for nothing but zeros and
the comparison of two buffers up to their tails are read off from the two parts.
-/

namespace ZeroTail
namespace Buffer

/-! ## Trimmed heads -/

/-- A buffer without a zero tail: it is empty or ends in an element other than zero. -/
def Trimmed (buffer : Buffer) : Prop :=
  ∀ last, buffer.getLast? = some last → last ≠ 0

theorem trimmed_nil : Trimmed [] := by
  intro last last_eq
  simp at last_eq

theorem trimmed_concat {last : UInt16} (last_ne : last ≠ 0) (front : Buffer) :
    Trimmed (front ++ [last]) := by
  intro other other_eq
  rw [List.getLast?_concat, Option.some.injEq] at other_eq
  exact other_eq ▸ last_ne

theorem Trimmed.eq_nil_or_concat {head : Buffer} (trimmed : head.Trimmed) :
    head = [] ∨ ∃ front last, last ≠ 0 ∧ head = front ++ [last] := by
  induction head using List.reverseRecOn with
  | nil => exact Or.inl rfl
  | append_singleton front last _ =>
      exact Or.inr ⟨front, last, trimmed last List.getLast?_concat, rfl⟩

theorem Trimmed.plainTailLength_eq {head : Buffer} (trimmed : head.Trimmed) :
    head.plainTailLength = 0 := by
  rcases trimmed.eq_nil_or_concat with rfl | ⟨front, last, last_ne, rfl⟩
  · rfl
  · exact plainTailLength_concat_of_ne last_ne front

theorem Trimmed.eq_nil {head : Buffer} (trimmed : head.Trimmed)
    (zeros : ∀ element ∈ head, element = 0) : head = [] := by
  rcases trimmed.eq_nil_or_concat with rfl | ⟨front, last, last_ne, rfl⟩
  · rfl
  · have last_mem : last ∈ front ++ [last] :=
      List.mem_append_right front (List.mem_singleton_self last)
    have last_eq : last = 0 := zeros last last_mem
    exact absurd last_eq last_ne

/-! ## The two parts of a buffer -/

/-- A trimmed head and a number of zeros to stand behind it. -/
structure Parts where
  /-- The elements before the zero tail. -/
  head : Buffer
  /-- The length of the zero tail. -/
  zeros : Nat
  /-- The head does not end in a zero. -/
  trimmed : head.Trimmed

namespace Parts

/-- The buffer that has the two parts. -/
def join (parts : Parts) : Buffer :=
  parts.head ++ List.replicate parts.zeros 0

theorem length_join (parts : Parts) : parts.join.length = parts.head.length + parts.zeros := by
  rw [join, List.length_append, List.length_replicate]

@[simp]
theorem tailLength_join (parts : Parts) : parts.join.tailLength = parts.zeros := by
  rw [tailLength_eq, join, plainTailLength_append_replicate, parts.trimmed.plainTailLength_eq,
    Nat.zero_add]

/-- Splitting gives back the two parts that a buffer was made of. -/
@[simp]
theorem splitTail_join (parts : Parts) :
    parts.join.splitTail = (parts.head, List.replicate parts.zeros 0) := by
  have head_length : parts.join.length - parts.join.tailLength = parts.head.length := by
    rw [length_join, tailLength_join, Nat.add_sub_cancel]
  rw [splitTail, head_length, List.splitAt_eq, join, List.take_left', List.drop_left'] <;> rfl

theorem exists_join_eq (buffer : Buffer) : ∃ parts : Parts, parts.join = buffer := by
  induction buffer using List.reverseRecOn with
  | nil => exact ⟨⟨[], 0, trimmed_nil⟩, rfl⟩
  | append_singleton front last ih =>
      by_cases last_eq : last = 0
      · obtain ⟨parts, rfl⟩ := ih
        refine ⟨{ parts with zeros := parts.zeros + 1 }, ?_⟩
        rw [last_eq, join, join, List.replicate_succ', List.append_assoc]
      · exact ⟨⟨front ++ [last], 0, trimmed_concat last_eq front⟩, List.append_nil _⟩

end Parts

theorem tailLength_replicate (length : Nat) : tailLength (List.replicate length 0) = length :=
  Parts.tailLength_join ⟨[], length, trimmed_nil⟩

theorem tailLength_of_forall_ne {buffer : Buffer} (nonzero : ∀ element ∈ buffer, element ≠ 0) :
    buffer.tailLength = 0 := by
  have trimmed : buffer.Trimmed := by
    intro last last_eq
    exact nonzero last (List.mem_of_getLast? last_eq)
  rw [tailLength_eq, trimmed.plainTailLength_eq]

theorem trimmed_splitTail (buffer : Buffer) : buffer.splitTail.1.Trimmed := by
  obtain ⟨parts, rfl⟩ := Parts.exists_join_eq buffer
  rw [Parts.splitTail_join]
  exact parts.trimmed

theorem splitTail_snd_eq_replicate (buffer : Buffer) :
    buffer.splitTail.2 = List.replicate buffer.tailLength 0 := by
  obtain ⟨parts, rfl⟩ := Parts.exists_join_eq buffer
  rw [Parts.splitTail_join, Parts.tailLength_join]

/-- The parts that splitting gives. -/
def parts (buffer : Buffer) : Parts where
  head := buffer.splitTail.1
  zeros := buffer.splitTail.2.length
  trimmed := buffer.trimmed_splitTail

@[simp]
theorem join_parts (buffer : Buffer) : buffer.parts.join = buffer := by
  have tail_eq : List.replicate buffer.splitTail.2.length 0 = buffer.splitTail.2 := by
    rw [splitTail_snd_eq_replicate, List.length_replicate]
  rw [Parts.join, parts, tail_eq, splitTail_append]

@[simp]
theorem parts_join (parts : Parts) : parts.join.parts = parts := by
  obtain ⟨head, zeros, trimmed⟩ := parts
  simp [Buffer.parts]

/-! ## What follows from the two parts -/

theorem Parts.join_append_replicate (parts : Parts) (zeros : Nat) :
    parts.join ++ List.replicate zeros 0 =
      Parts.join { parts with zeros := parts.zeros + zeros } := by
  simp only [Parts.join]
  rw [List.append_assoc, List.replicate_append_replicate]

@[simp]
theorem Parts.trim_join (parts : Parts) : parts.join.trim = parts.head := by
  rw [trim, Parts.splitTail_join]

theorem trim_append_replicate (buffer : Buffer) (zeros : Nat) :
    trim (buffer ++ List.replicate zeros 0) = buffer.trim := by
  obtain ⟨parts, rfl⟩ := Parts.exists_join_eq buffer
  rw [Parts.join_append_replicate, Parts.trim_join, Parts.trim_join]

/-- Of two buffers with one head, the one with the longer zero tail is the other one padded. -/
theorem eq_append_replicate_of_trim_eq {left right : Buffer} (trim_eq : left.trim = right.trim)
    (tail_le : right.tailLength ≤ left.tailLength) :
    left = right ++ List.replicate (left.tailLength - right.tailLength) 0 := by
  obtain ⟨leftParts, rfl⟩ := Parts.exists_join_eq left
  obtain ⟨rightParts, rfl⟩ := Parts.exists_join_eq right
  rw [Parts.trim_join, Parts.trim_join] at trim_eq
  rw [Parts.tailLength_join, Parts.tailLength_join] at tail_le ⊢
  rw [Parts.join_append_replicate, Nat.add_sub_cancel' tail_le]
  simp only [Parts.join]
  rw [trim_eq]

theorem trim_eq_trim_iff (left right : Buffer) :
    left.trim = right.trim ↔
      (∃ zeros, left = right ++ List.replicate zeros 0) ∨
        ∃ zeros, right = left ++ List.replicate zeros 0 := by
  constructor
  · intro trim_eq
    rcases Nat.le_total right.tailLength left.tailLength with tail_le | tail_le
    · exact Or.inl ⟨_, eq_append_replicate_of_trim_eq trim_eq tail_le⟩
    · exact Or.inr ⟨_, eq_append_replicate_of_trim_eq trim_eq.symm tail_le⟩
  · rintro (⟨zeros, rfl⟩ | ⟨zeros, rfl⟩)
    · exact trim_append_replicate right zeros
    · exact (trim_append_replicate left zeros).symm

theorem isZero_iff_head_eq_nil (buffer : Buffer) :
    buffer.isZero = true ↔ buffer.splitTail.1 = [] := by
  obtain ⟨parts, rfl⟩ := Parts.exists_join_eq buffer
  rw [isZero, beq_iff_eq, Parts.tailLength_join, Parts.length_join, Parts.splitTail_join]
  change parts.zeros = parts.head.length + parts.zeros ↔ parts.head = []
  rw [← List.length_eq_zero_iff]
  omega

theorem isZero_iff_forall (buffer : Buffer) :
    buffer.isZero = true ↔ ∀ element ∈ buffer, element = 0 := by
  rw [isZero_iff_head_eq_nil]
  constructor
  · intro head_eq element element_mem
    rw [← splitTail_append buffer, head_eq, List.nil_append,
      splitTail_snd_eq_replicate] at element_mem
    exact List.eq_of_mem_replicate element_mem
  · intro zeros
    apply buffer.trimmed_splitTail.eq_nil
    intro element element_mem
    apply zeros
    rw [← splitTail_append buffer]
    exact List.mem_append_left _ element_mem

/-- Splitting is a bijection from the buffers to the pairs of a trimmed head and a number of zeros.
The parts make up the buffer, the second is the zero tail, and a trimmed head with zeros behind it
is split at the head.  Hence buffers trimmed alike differ by zeros at the end only, the split never
lies before the start, and a buffer is all zeros exactly if it has no head. -/
theorem splitTail_bijective :
    Function.Bijective parts ∧
      (∀ buffer : Buffer,
        buffer.splitTail.1 ++ buffer.splitTail.2 = buffer ∧
          buffer.splitTail.2 = List.replicate buffer.tailLength 0 ∧
          buffer.splitTail.1.Trimmed ∧
          buffer.parts.head = buffer.splitTail.1 ∧
          buffer.parts.zeros = buffer.tailLength) ∧
      (∀ (head : Buffer) (zeros : Nat), head.Trimmed →
        splitTail (head ++ List.replicate zeros 0) = (head, List.replicate zeros 0)) ∧
      (∀ left right : Buffer,
        left.trim = right.trim ↔
          (∃ zeros, left = right ++ List.replicate zeros 0) ∨
            ∃ zeros, right = left ++ List.replicate zeros 0) ∧
      ∀ buffer : Buffer,
        buffer.tailLength ≤ buffer.length ∧
          (buffer.isZero = true ↔ ∀ element ∈ buffer, element = 0) ∧
          (buffer.isZero = true ↔ buffer.splitTail.1 = []) := by
  refine ⟨?_, ?_, ?_, trim_eq_trim_iff, ?_⟩
  · exact Function.bijective_iff_has_inverse.mpr ⟨Parts.join, join_parts, parts_join⟩
  · intro buffer
    have zeros_eq : buffer.parts.zeros = buffer.tailLength := by
      rw [parts, splitTail_snd_eq_replicate, List.length_replicate]
    exact ⟨splitTail_append buffer, splitTail_snd_eq_replicate buffer, trimmed_splitTail buffer,
      rfl, zeros_eq⟩
  · intro head zeros trimmed
    exact Parts.splitTail_join ⟨head, zeros, trimmed⟩
  · intro buffer
    exact ⟨tailLength_le buffer, isZero_iff_forall buffer, isZero_iff_head_eq_nil buffer⟩

end Buffer
end ZeroTail
