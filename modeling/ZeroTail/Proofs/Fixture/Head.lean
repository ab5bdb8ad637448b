import ZeroTail.Proofs.Fixture.Tail

/-!
# The head of a fixture does not depend on its tail

As many elements are drawn as the fixture is long, one word for each, and only then the element
before the tail.  So the elements of the head are those of one sequence, which the seed alone
decides, and the element before the tail is decided by the seed and the length.  A longer tail
shortens the head and changes nothing else.
-/

namespace ZeroTail
namespace Fixture

open Sampling

/-- The infinite sequence of elements that a seed gives, one for each word of its keystream. -/
def sequenceOf (seed : UInt64) (index : Nat) : UInt16 :=
  ((Key.ofSeed seed).word index).toUInt16

/-- The element that is sampled after as many words as a fixture has elements. -/
def forcedAfter (seed : UInt64) (length : Nat) : UInt16 :=
  UInt16.ofNat (1 + sample greatestElement ((Key.ofSeed seed).word length)
    ((Key.ofSeed seed).word (length + 1)))

theorem nonzero_atPosition (seed : UInt64) (length : Nat) :
    (nonzero (Source.atPosition (Key.ofSeed seed) length)).1 = forcedAfter seed length := by
  have range_eq : greatestElement - 1 + 1 = greatestElement := by decide
  rw [nonzero, Source.between_value, range_eq, forcedAfter]

theorem forcedAfter_ne_zero (seed : UInt64) (length : Nat) : forcedAfter seed length ≠ 0 := by
  rw [← nonzero_atPosition]
  exact nonzero_ne_zero _

/-- Elements drawn one after the other are those of successive words. -/
theorem draws_element (key : Key) (count position : Nat) :
    draws Source.element count (Source.atPosition key position) =
      ((List.range' position count).map fun index => (key.word index).toUInt16,
        Source.atPosition key (position + count)) := by
  induction count generalizing position with
  | zero => rfl
  | succ count ih =>
      have element_eq : (Source.atPosition key position).element =
          ((key.word position).toUInt16, Source.atPosition key (position + 1)) := by
        rw [Source.element, Source.next_atPosition]
      rw [draws_succ, element_eq, ih, List.range'_succ, List.map_cons, Nat.add_assoc,
        Nat.add_comm 1]

theorem draws_element_ofSeed (seed : UInt64) (length : Nat) :
    draws Source.element length (Source.ofSeed seed) =
      ((List.range length).map (sequenceOf seed), Source.atPosition (Key.ofSeed seed) length) := by
  rw [Source.ofSeed, draws_element, Nat.zero_add, List.range_eq_range']
  rfl

theorem take_map_sequenceOf (seed : UInt64) {shorter longer : Nat} (le : shorter ≤ longer) :
    ((List.range longer).map (sequenceOf seed)).take shorter =
      (List.range shorter).map (sequenceOf seed) := by
  rw [← List.map_take, List.take_range, Nat.min_eq_left le]

section Made

variable {length zeros : Nat}

/-- A fixture whose tail leaves room is a part of the sequence of its seed, the element drawn last
and the tail. -/
theorem withTail_of_room (room : zeros < length) (small : length ≤ Buffer.maxLength)
    (seed : UInt64) :
    withTail length zeros seed =
      .ok ((List.range (length - zeros - 1)).map (sequenceOf seed) ++
        [forcedAfter seed length] ++ List.replicate zeros 0) := by
  have drawn_length : ((List.range length).map (sequenceOf seed)).length = length := by simp
  have shorter : length - zeros - 1 ≤ length := by omega
  rw [withTail_of_le (Nat.le_of_lt room) small, draws_element_ofSeed, closeWith_of_lt,
    drawn_length, take_map_sequenceOf seed shorter, List.append_assoc, List.singleton_append,
    nonzero_atPosition]
  rwa [drawn_length]

theorem withTail_self (small : length ≤ Buffer.maxLength) (seed : UInt64) :
    withTail length length seed = .ok (List.replicate length 0) := by
  have drawn_length : ((List.range length).map (sequenceOf seed)).length = length := by simp
  rw [withTail_of_le (Nat.le_refl _) small, draws_element_ofSeed,
    closeWith_of_le (Nat.le_of_eq drawn_length)]

section Room

variable {seed : UInt64} {buffer : Buffer} (room : zeros < length)
  (made : withTail length zeros seed = .ok buffer)
include room made

theorem eq_of_made : buffer = (List.range (length - zeros - 1)).map (sequenceOf seed) ++
    [forcedAfter seed length] ++ List.replicate zeros 0 := by
  obtain ⟨⟨-, small⟩, -⟩ := withTail_eq_ok_iff.mp made
  exact Except.ok.inj (made.symm.trans (withTail_of_room room small seed))

theorem take_of_made {count : Nat} (count_le : count ≤ length - zeros - 1) :
    buffer.take count = (List.range count).map (sequenceOf seed) := by
  rw [eq_of_made room made, List.append_assoc, List.take_append_of_le_length,
    take_map_sequenceOf seed count_le]
  simpa using count_le

theorem getElem?_of_made : buffer[length - zeros - 1]? = some (forcedAfter seed length) := by
  rw [eq_of_made room made, List.append_assoc, List.getElem?_append_right (by simp),
    List.length_map, List.length_range, Nat.sub_self, List.singleton_append,
    List.getElem?_cons_zero]

end Room

end Made

/-- The fixtures of a seed take their heads from one sequence, and those of one length end their
heads in one element. -/
structure SharedHeads (seed : UInt64) (sequence forced : Nat → UInt16) : Prop where
  /-- Each element of the sequence comes from one word. -/
  sequence_eq (index : Nat) : sequence index = ((Key.ofSeed seed).word index).toUInt16
  forced_ne (length : Nat) : forced length ≠ 0
  /-- The element before a tail comes from the words after those of all elements. -/
  forced_eq (length : Nat) : forced length =
    UInt16.ofNat (1 + sample 65535 ((Key.ofSeed seed).word length)
      ((Key.ofSeed seed).word (length + 1)))
  room_eq (length zeros : Nat) : length ≤ 2 ^ 62 - 1 → zeros < length →
    withTail length zeros seed = .ok ((List.range (length - zeros - 1)).map sequence ++
      [forced length] ++ List.replicate zeros 0)
  full_eq (length : Nat) : length ≤ 2 ^ 62 - 1 →
    withTail length length seed = .ok (List.replicate length 0)
  /-- A longer tail keeps what the shorter head has before its last element, and that element. -/
  longer_tail (length zeros more : Nat) (left right : Buffer) : zeros ≤ more → more < length →
    withTail length zeros seed = .ok left → withTail length more seed = .ok right →
      left.take (length - more - 1) = right.take (length - more - 1) ∧
        left[length - zeros - 1]? = right[length - more - 1]?

/-- The head of a fixture does not depend on its tail, except that a longer tail leaves less of
it. -/
theorem exists_shared_heads (seed : UInt64) :
    ∃ sequence forced : Nat → UInt16, SharedHeads seed sequence forced := by
  refine ⟨sequenceOf seed, forcedAfter seed, ?_⟩
  constructor
  case sequence_eq => exact fun index => rfl
  case forced_ne => exact forcedAfter_ne_zero seed
  case forced_eq => exact fun length => rfl
  case room_eq => exact fun length zeros small room => withTail_of_room room small seed
  case full_eq => exact fun length small => withTail_self small seed
  case longer_tail =>
    intro length zeros more left right zeros_le room left_made right_made
    have left_room : zeros < length := Nat.lt_of_le_of_lt zeros_le room
    have shorter : length - more - 1 ≤ length - zeros - 1 := by omega
    constructor
    · rw [take_of_made left_room left_made shorter, take_of_made room right_made (Nat.le_refl _)]
    · rw [getElem?_of_made left_room left_made, getElem?_of_made room right_made]

end Fixture
end ZeroTail
