import ZeroTail.Sampling.Keystream

/-!
# Keys from 64-bit seeds

A seed is expanded to the eight words of a key by a congruential sequence on 64-bit states.  The
state moves before each word is read off, so no word depends on the bare seed.
-/

namespace ZeroTail
namespace Sampling
namespace Seed

/-- The next state of the congruential sequence, modulo `2^64`. -/
def advance (state : UInt64) : UInt64 :=
  state * 6364136223846793005 + 11634580027462260723

/-- The word read off a state: its upper half folded once and turned by its top five bits. -/
def output (state : UInt64) : UInt32 :=
  rotateRight (((state >>> 18) ^^^ state) >>> 27).toUInt32 (state >>> 59).toUInt32

/-- The state reached from a seed after a number of moves. -/
def state (seed : UInt64) : Nat → UInt64
  | 0 => seed
  | moves + 1 => advance (state seed moves)

/-- Word `index` of the expansion of a seed. -/
def word (seed : UInt64) (index : Nat) : UInt32 :=
  output (state seed (index + 1))

end Seed

/-- The key that a seed expands to. -/
def Key.ofSeed (seed : UInt64) : Key where
  front := ⟨Seed.word seed 0, Seed.word seed 1, Seed.word seed 2, Seed.word seed 3⟩
  back := ⟨Seed.word seed 4, Seed.word seed 5, Seed.word seed 6, Seed.word seed 7⟩

end Sampling
end ZeroTail
