import ZeroTail.Buffer.Limit
import ZeroTail.Fault
import ZeroTail.Sampling.Range
import ZeroTail.Sampling.Ratio

/-!
# Seeded fixtures

A fixture is a buffer made for a test.  It is a function of its parameters and a seed, so a failing
test can be repeated from them.  There are three kinds: elements drawn evenly from a range
(`uniform`), a zero tail of exact length behind random elements (`withTail`), and elements that are
zero with a given ratio (`sparse`).  Draws are made in the order of the elements.
-/

namespace ZeroTail
namespace Fixture

open Sampling

/-- The greatest element of an even fixture. -/
def greatestUniform : Nat := 65000

/-- The greatest element there is. -/
def greatestElement : Nat := UInt16.size - 1

/-- Refuse a length past the size limit. -/
def reserve (length : Nat) : Except Fault Unit :=
  if Buffer.byteLimit < length * Buffer.elementBytes then .error .capacityOverflow else .ok ()

/-- Elements drawn evenly from zero to `greatestUniform`. -/
def uniform (length : Nat) (seed : UInt64) : Except Fault Buffer := do
  reserve length
  return (draws (·.between 0 greatestUniform) length (Source.ofSeed seed)).1

/-- Draw an element other than zero. -/
def nonzero (source : Source) : UInt16 × Source :=
  source.between 1 greatestElement

/-- The elements before a zero tail of `zeros`, followed by that tail. The element just before the
tail, if there is one, is drawn anew from `source` and is not zero. -/
def closeWith (elements : Buffer) (zeros : Nat) (source : Source) : Buffer :=
  match elements.length - zeros with
  | 0 => List.replicate zeros 0
  | kept + 1 => elements.take kept ++ (nonzero source).1 :: List.replicate zeros 0

/-- Random elements with a zero tail of exactly `zeros`. As many elements are drawn as the buffer is
long, whatever the tail, and only then the element before the tail. -/
def withTail (length zeros : Nat) (seed : UInt64) : Except Fault Buffer :=
  if length < zeros then
    .error (.tailTooLong zeros length)
  else do
    reserve length
    let (elements, source) := draws Source.element length (Source.ofSeed seed)
    return closeWith elements zeros source

/-- Draw an element that is zero if an event happens and that is drawn from the others if not. -/
def zeroIf (chance : Chance) (source : Source) : UInt16 × Source :=
  let (happens, source) := chance.draw source
  if happens then (0, source) else nonzero source

/-- Elements that are zero with the chance of a ratio. A ratio that is not a number is met at the
first draw only, so it is no fault of an empty buffer. -/
def sparse (length : Nat) (ratio : Ratio) (seed : UInt64) : Except Fault Buffer := do
  reserve length
  match ratio.chance? with
  | some chance => return (draws (zeroIf chance) length (Source.ofSeed seed)).1
  | none => if length = 0 then return [] else throw .undefinedProbability

theorem reserve_eq (length : Nat) :
    reserve length =
      if Buffer.maxLength < length then .error .capacityOverflow else .ok () := by
  simp only [reserve, Buffer.byteLimit_lt_iff]

end Fixture
end ZeroTail
