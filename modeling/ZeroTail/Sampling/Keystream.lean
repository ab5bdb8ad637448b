/-!
# The ChaCha keystream with eight rounds

A key of eight words determines an infinite sequence of 32-bit words.  The words come in blocks of
sixteen; block `n` is a function of the key and of the 64-bit counter `n` alone, so any word of the
sequence can be named by its position (`Key.word`).  A block is computed on four rows of four
words, and every operation of a round acts on the four lanes of its rows at once.
-/

namespace ZeroTail
namespace Sampling

/-- Turn the 32 bits of a word to the left; the amount counts modulo 32. -/
def rotateLeft (word amount : UInt32) : UInt32 :=
  (word <<< amount) ||| (word >>> (32 - amount))

/-- Turn the 32 bits of a word to the right; the amount counts modulo 32. -/
def rotateRight (word amount : UInt32) : UInt32 :=
  (word >>> amount) ||| (word <<< (32 - amount))

/-- Four words side by side. -/
structure Row where
  lane0 : UInt32
  lane1 : UInt32
  lane2 : UInt32
  lane3 : UInt32
  deriving DecidableEq

namespace Row

/-- Lane-wise sum, modulo `2^32`. -/
def add (left right : Row) : Row :=
  ⟨left.lane0 + right.lane0, left.lane1 + right.lane1,
    left.lane2 + right.lane2, left.lane3 + right.lane3⟩

/-- Lane-wise exclusive or, followed by a turn of every lane to the left. -/
def xorRotate (left right : Row) (amount : UInt32) : Row :=
  ⟨rotateLeft (left.lane0 ^^^ right.lane0) amount,
    rotateLeft (left.lane1 ^^^ right.lane1) amount,
    rotateLeft (left.lane2 ^^^ right.lane2) amount,
    rotateLeft (left.lane3 ^^^ right.lane3) amount⟩

/-- Move every word one lane down; lane 0 receives the word of lane 1. -/
def turn (row : Row) : Row :=
  ⟨row.lane1, row.lane2, row.lane3, row.lane0⟩

end Row

/-- The working square of a block: sixteen words in four rows. At the start these are the constants,
the two halves of the key and the counter. -/
structure Square where
  row0 : Row
  row1 : Row
  row2 : Row
  row3 : Row
  deriving DecidableEq

namespace Square

/-- Mix the four columns of the square, all at once. -/
def mixColumns (square : Square) : Square :=
  let row0 := square.row0.add square.row1
  let row3 := square.row3.xorRotate row0 16
  let row2 := square.row2.add row3
  let row1 := square.row1.xorRotate row2 12
  let row0 := row0.add row1
  let row3 := row3.xorRotate row0 8
  let row2 := row2.add row3
  let row1 := row1.xorRotate row2 7
  ⟨row0, row1, row2, row3⟩

/-- Bring the diagonals of the square into its columns. -/
def alignDiagonals (square : Square) : Square :=
  ⟨square.row0, square.row1.turn, square.row2.turn.turn, square.row3.turn.turn.turn⟩

/-- Bring the columns of the square back to its diagonals. -/
def restoreDiagonals (square : Square) : Square :=
  ⟨square.row0, square.row1.turn.turn.turn, square.row2.turn.turn, square.row3.turn⟩

/-- Two rounds: one on the columns and one on the diagonals. -/
def doubleRound (square : Square) : Square :=
  square.mixColumns.alignDiagonals.mixColumns.restoreDiagonals

/-- Row-wise sum. -/
def add (left right : Square) : Square :=
  ⟨left.row0.add right.row0, left.row1.add right.row1,
    left.row2.add right.row2, left.row3.add right.row3⟩

/-- The eight-round block of a square: four double rounds, then the square itself added. -/
def block (square : Square) : Square :=
  square.doubleRound.doubleRound.doubleRound.doubleRound.add square

/-- The sixteen words, row by row. -/
def words (square : Square) : Vector UInt32 16 :=
  ⟨#[square.row0.lane0, square.row0.lane1, square.row0.lane2, square.row0.lane3,
    square.row1.lane0, square.row1.lane1, square.row1.lane2, square.row1.lane3,
    square.row2.lane0, square.row2.lane1, square.row2.lane2, square.row2.lane3,
    square.row3.lane0, square.row3.lane1, square.row3.lane2, square.row3.lane3], rfl⟩

end Square

/-- The words `expa`, `nd 3`, `2-by` and `te k`, read with the least significant byte first. -/
def constants : Row := ⟨0x61707865, 0x3320646e, 0x79622d32, 0x6b206574⟩

/-- A key: eight words, four in each half. -/
structure Key where
  front : Row
  back : Row
  deriving DecidableEq

namespace Key

/-- The square that block `number` starts from: the counter's low word stands first. -/
def square (key : Key) (number : Nat) : Square :=
  ⟨constants, key.front, key.back,
    ⟨UInt32.ofNat number, UInt32.ofNat (number / UInt32.size), 0, 0⟩⟩

/-- The sixteen words of block `number`. -/
def block (key : Key) (number : Nat) : Vector UInt32 16 :=
  (key.square number).block.words

/-- The word of the keystream at a position. -/
def word (key : Key) (position : Nat) : UInt32 :=
  (key.block (position / 16))[position % 16]

end Key
end Sampling
end ZeroTail
