/-!
# Buffers and their zero tails

A buffer is a list of 16-bit elements.  Its zero tail is the longest run of zeros that it ends in.
The length of the tail is found in two ways: element by element (`plainTailLength`), and by blocks
of sixteen elements taken from the end (`tailLength`), which is what the other operations use.
-/

namespace ZeroTail

/-- A finite sequence of 16-bit elements, the first element first. -/
abbrev Buffer := List UInt16

namespace Buffer

/-- The number of zeros that a list begins with. -/
def leadingZeros (elements : List UInt16) : Nat :=
  (elements.takeWhile (· == 0)).length

theorem leadingZeros_le (elements : List UInt16) : leadingZeros elements ≤ elements.length :=
  (List.takeWhile_prefix _).length_le

/-- The length of the zero tail, found element by element from the end. -/
def plainTailLength (buffer : Buffer) : Nat :=
  leadingZeros buffer.reverse

/-- The number of elements that are looked at together. -/
def blockLength : Nat := 16

/-- Scan a list that begins with a number of whole blocks. A block of zeros is counted and passed
over; the first other block ends the scan, and so does the part after the last whole block. -/
def scanBlocks : Nat → Nat → List UInt16 → Nat
  | 0, counted, elements => counted + leadingZeros elements
  | blocks + 1, counted, elements =>
      let block := elements.take blockLength
      if block.any (· != 0) then
        counted + leadingZeros block
      else
        scanBlocks blocks (counted + blockLength) (elements.drop blockLength)

/-- The length of the zero tail, found by blocks from the end. What is too short for a block stands
at the front and is scanned last. -/
def tailLength (buffer : Buffer) : Nat :=
  scanBlocks (buffer.length / blockLength) 0 buffer.reverse

/-- The buffer before its zero tail, and the zero tail. -/
def splitTail (buffer : Buffer) : Buffer × Buffer :=
  buffer.splitAt (buffer.length - buffer.tailLength)

/-- The buffer without its zero tail. -/
def trim (buffer : Buffer) : Buffer :=
  buffer.splitTail.1

/-- Whether the zero tail is the whole buffer. -/
def isZero (buffer : Buffer) : Bool :=
  buffer.tailLength == buffer.length

theorem splitTail_append (buffer : Buffer) : buffer.splitTail.1 ++ buffer.splitTail.2 = buffer := by
  simp [splitTail, List.splitAt_eq]

/-- The buffer with every element from index `start` up to index `stop`, which is excluded, set to
one value. -/
def overwrite (buffer : Buffer) (start stop : Nat) (value : UInt16) : Buffer :=
  buffer.take start ++ List.replicate (stop - start) value ++ buffer.drop stop

theorem overwrite_length {buffer : Buffer} {start stop : Nat} (start_le : start ≤ stop)
    (stop_le : stop ≤ buffer.length) (value : UInt16) :
    (buffer.overwrite start stop value).length = buffer.length := by
  simp only [overwrite, List.length_append, List.length_take, List.length_replicate,
    List.length_drop]
  omega

/-- Overwriting a range sets the elements in it and keeps all others. -/
theorem getElem?_overwrite {buffer : Buffer} {start stop index : Nat} (start_le : start ≤ stop)
    (index_lt : index < buffer.length) (value : UInt16) :
    (buffer.overwrite start stop value)[index]? =
      if start ≤ index ∧ index < stop then some value else buffer[index]? := by
  rw [overwrite, List.append_assoc]
  by_cases before : index < start
  · have in_front : index < (buffer.take start).length := by
      rw [List.length_take]
      omega
    have outside : ¬ (start ≤ index ∧ index < stop) := by omega
    rw [List.getElem?_append_left in_front, List.getElem?_take_of_lt before, if_neg outside]
  · have front_length : (buffer.take start).length = start :=
      List.length_take_of_le (by omega)
    rw [List.getElem?_append_right (by omega), front_length, List.getElem?_append,
      List.length_replicate]
    by_cases inside : index < stop
    · rw [if_pos (by omega), if_pos (by omega), List.getElem?_replicate_of_lt (by omega)]
    · have index_eq : stop + (index - start - (stop - start)) = index := by omega
      rw [if_neg (by omega), if_neg (by omega), List.getElem?_drop, index_eq]

end Buffer
end ZeroTail
