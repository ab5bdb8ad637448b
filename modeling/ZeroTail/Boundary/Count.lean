import ZeroTail.Boundary.Memory
import ZeroTail.Buffer.Bits

/-!
# Counting calls

Each measure of a buffer can be asked for in two ways.  The plain call answers the count itself and
zero for an extent that is not valid.  The checked call writes the count to a slot of the caller and
answers a status, so that a count of zero can be told from a failure; it writes nothing unless it
succeeds.
-/

namespace ZeroTail
namespace Boundary

/-- A measure of a buffer: the length of its zero tail or the trailing zero bits of its elements. -/
inductive Kernel
  | tail
  | bits
  deriving DecidableEq

/-- The count of a measure, in 64 bits. -/
def Kernel.measure : Kernel → Buffer → UInt64
  | .tail, buffer => UInt64.ofNat buffer.tailLength
  | .bits, buffer => buffer.bitTotal

/-- Where a checked call writes its count: a place in the caller's slots. -/
structure Target where
  slot : Nat
  /-- Bytes past the start of the slot. -/
  shift : Fin 8
  deriving DecidableEq

/-- A target is aligned if it is the start of its slot. -/
def Target.Aligned (target : Target) : Prop :=
  target.shift = 0

instance (target : Target) : Decidable target.Aligned :=
  inferInstanceAs (Decidable (target.shift = 0))

/-- The plain call. -/
def count (kernel : Kernel) (memory : Memory) (extent : Extent) : UInt64 :=
  match extent.validate with
  | .ok () => kernel.measure (memory.window extent)
  | .error _ => 0

/-- The checked call: its status and the slots after it. The target is looked at before the
extent. -/
def countInto (kernel : Kernel) (memory : Memory) (extent : Extent) (target : Option Target)
    (slots : List UInt64) : Status × List UInt64 :=
  match target with
  | none => (.badTarget, slots)
  | some target =>
      if target.Aligned then
        match extent.validate with
        | .ok () =>
            (.success, slots.set target.slot (kernel.measure (memory.window extent)))
        | .error defect => (defect.status, slots)
      else
        (.badTarget, slots)

end Boundary
end ZeroTail
