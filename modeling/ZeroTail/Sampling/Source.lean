import ZeroTail.Sampling.Seed

/-!
# Sources of random words

A source reads the keystream of a key word by word.  It keeps the block that its next word stands
in, so sixteen words cost one block; the field `block_eq` ties that block to the key and the
position.  A source is therefore determined by its key and its position (`eq_atPosition`), and
reading a word is a statement about positions (`next_atPosition`).
-/

namespace ZeroTail
namespace Sampling

/-- A reader of a keystream. -/
structure Source where
  /-- The key of the keystream. -/
  key : Key
  /-- The number of words already read. -/
  position : Nat
  /-- The block that holds the next word. -/
  block : Vector UInt32 16
  /-- The block kept is the one that the position lies in. -/
  block_eq : block = key.block (position / 16)

namespace Source

/-- The source that has read `position` words of the keystream of `key`. -/
def atPosition (key : Key) (position : Nat) : Source :=
  ⟨key, position, key.block (position / 16), rfl⟩

/-- The source at the start of the keystream of a seed. -/
def ofSeed (seed : UInt64) : Source :=
  Source.atPosition (Key.ofSeed seed) 0

/-- Read one word. A new block is computed only when the current one is used up. -/
def next (source : Source) : UInt32 × Source :=
  (source.block[source.position % 16],
    if inside : (source.position + 1) % 16 ≠ 0 then
      { source with
        position := source.position + 1
        block_eq := by
          rw [source.block_eq, show (source.position + 1) / 16 = source.position / 16 by omega] }
    else
      Source.atPosition source.key (source.position + 1))

/-- Read a number of 64 bits: the first word is its low half, the second its high half. -/
def nextPair (source : Source) : Nat × Source :=
  let (low, source) := source.next
  let (high, source) := source.next
  (low.toNat + high.toNat * UInt32.size, source)

/-- A source is its key and its position. -/
theorem eq_atPosition (source : Source) :
    source = Source.atPosition source.key source.position := by
  obtain ⟨key, position, block, rfl⟩ := source
  rfl

theorem next_atPosition (key : Key) (position : Nat) :
    (Source.atPosition key position).next =
      (key.word position, Source.atPosition key (position + 1)) := by
  unfold next
  split
  · exact Prod.ext rfl (eq_atPosition _)
  · rfl

end Source

section Draws

variable {α : Type}

/-- Put `count` successive draws in front of a list, the last draw foremost. -/
private def drawsOnto (draw : Source → α × Source) :
    Nat → List α → Source → List α × Source
  | 0, drawn, source => (drawn, source)
  | count + 1, drawn, source =>
      let (value, source) := draw source
      drawsOnto draw count (value :: drawn) source

/-- Make `count` draws one after the other; the values stand in the order of the draws. -/
def draws (draw : Source → α × Source) (count : Nat) (source : Source) : List α × Source :=
  let (drawn, source) := drawsOnto draw count [] source
  (drawn.reverse, source)

private theorem drawsOnto_eq (draw : Source → α × Source) (count : Nat) (drawn : List α)
    (source : Source) :
    drawsOnto draw count drawn source =
      ((draws draw count source).1.reverse ++ drawn, (draws draw count source).2) := by
  induction count generalizing drawn source with
  | zero => simp [drawsOnto, draws]
  | succ count ih =>
      simp only [draws, drawsOnto]
      rw [ih, ih [(draw source).1]]
      simp

@[simp]
theorem draws_zero (draw : Source → α × Source) (source : Source) :
    draws draw 0 source = ([], source) := rfl

theorem draws_succ (draw : Source → α × Source) (count : Nat) (source : Source) :
    draws draw (count + 1) source =
      ((draw source).1 :: (draws draw count (draw source).2).1,
        (draws draw count (draw source).2).2) := by
  simp only [draws, drawsOnto]
  rw [drawsOnto_eq]
  simp [draws]

@[simp]
theorem draws_length (draw : Source → α × Source) (count : Nat) (source : Source) :
    (draws draw count source).1.length = count := by
  induction count generalizing source with
  | zero => rfl
  | succ count ih => simp [draws_succ, ih]

/-- Draws made in two runs are the draws made in one. -/
theorem draws_add (draw : Source → α × Source) (first second : Nat) (source : Source) :
    draws draw (first + second) source =
      ((draws draw first source).1 ++ (draws draw second (draws draw first source).2).1,
        (draws draw second (draws draw first source).2).2) := by
  induction first generalizing source with
  | zero => simp
  | succ first ih => simp [Nat.succ_add, draws_succ, ih]

/-- A draw starts where the draws before it stopped, however many follow. -/
theorem getElem?_draws (draw : Source → α × Source) {count index : Nat} (index_lt : index < count)
    (source : Source) :
    (draws draw count source).1[index]? = some (draw (draws draw index source).2).1 := by
  obtain ⟨later, rfl⟩ := Nat.exists_eq_add_of_lt index_lt
  rw [Nat.add_assoc, draws_add, draws_succ, List.getElem?_append_right (by simp), draws_length,
    Nat.sub_self, List.getElem?_cons_zero]

/-- What holds of every draw holds of all values drawn. -/
theorem forall_mem_draws {draw : Source → α × Source} {holds : α → Prop}
    (draw_holds : ∀ source, holds (draw source).1) (count : Nat) (source : Source) :
    ∀ value ∈ (draws draw count source).1, holds value := by
  induction count generalizing source with
  | zero => simp
  | succ count ih =>
      rw [draws_succ]
      exact List.forall_mem_cons.mpr ⟨draw_holds source, ih _⟩

end Draws
end Sampling
end ZeroTail
