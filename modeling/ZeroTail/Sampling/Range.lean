import ZeroTail.Sampling.Source

/-!
# Sampling from a range

A number below `range` is sampled from a 32-bit word by multiplication: the word, read as a binary
fraction below one, is scaled by the range and its whole part is the sample.  When the fraction left
over is so close to one that the next 32 bits of the word could carry into the whole part, a second
word supplies those bits.  `sample` is that rule as a function of two words; `Source.between` reads
the second word only when the rule looks at it.
-/

namespace ZeroTail
namespace Sampling

/-- The whole part of a word scaled by a range. -/
def wholePart (range : Nat) (word : UInt32) : Nat :=
  word.toNat * range / UInt32.size

/-- The fraction left over when a word is scaled by a range, in units of `2^-32`. -/
def fraction (range : Nat) (word : UInt32) : Nat :=
  word.toNat * range % UInt32.size

/-- Whether the bits after a word could carry into the whole part of the scaled word. -/
def MayCarry (range : Nat) (word : UInt32) : Prop :=
  UInt32.size - range < fraction range word

instance (range : Nat) (word : UInt32) : Decidable (MayCarry range word) :=
  inferInstanceAs (Decidable (UInt32.size - range < fraction range word))

/-- The number below `range` that two words give; most first words settle it alone. -/
def sample (range : Nat) (first second : UInt32) : Nat :=
  if MayCarry range first ∧ UInt32.size ≤ fraction range first + wholePart range second then
    wholePart range first + 1
  else
    wholePart range first

theorem sample_of_not_mayCarry {range : Nat} {first : UInt32} (settled : ¬ MayCarry range first)
    (second : UInt32) : sample range first second = wholePart range first := by
  simp [sample, settled]

namespace Source

/-- Draw an element from `least` to `greatest`, both included. -/
def between (least greatest : Nat) (source : Source) : UInt16 × Source :=
  let range := greatest - least + 1
  let (first, source) := source.next
  if MayCarry range first then
    let (second, source) := source.next
    (UInt16.ofNat (least + sample range first second), source)
  else
    (UInt16.ofNat (least + wholePart range first), source)

/-- The element drawn is the sample of the next two words, whether or not the second is read. -/
theorem between_value (least greatest : Nat) (key : Key) (position : Nat) :
    ((Source.atPosition key position).between least greatest).1 =
      UInt16.ofNat (least + sample (greatest - least + 1) (key.word position)
        (key.word (position + 1))) := by
  simp only [between, next_atPosition]
  split
  · rfl
  · rename_i settled
    rw [sample_of_not_mayCarry settled]

/-- Draw any element: the low half of one word. -/
def element (source : Source) : UInt16 × Source :=
  let (word, source) := source.next
  (word.toUInt16, source)

end Source
end Sampling
end ZeroTail
