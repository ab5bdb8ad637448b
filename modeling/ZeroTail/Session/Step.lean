import ZeroTail.Boundary.Count
import ZeroTail.Boundary.Guard
import ZeroTail.Boundary.Message
import ZeroTail.Fixture

/-!
# Steps of a session

A session is a sequence of steps on shared memory and shared slots, each made by one thread.  A step
either works on the memory itself or makes one call across the boundary, and it gets one reply.
-/

namespace ZeroTail
namespace Session

open Boundary

/-- Code to be run under a guard; its value is a 64-bit number. A body that makes a fixture measures
the zero tail of it. -/
inductive Body
  | value (number : UInt64)
  | raise (payload : Payload)
  | withTail (length zeros : Nat) (seed : UInt64)
  | sparse (length : Nat) (ratio : Sampling.Ratio) (seed : UInt64)
  deriving DecidableEq

/-- What running a body comes to. -/
def Body.outcome : Body → Except Fault UInt64
  | .value number => .ok number
  | .raise payload => .error (.raised payload)
  | .withTail length zeros seed =>
      (Fixture.withTail length zeros seed).map fun buffer => UInt64.ofNat buffer.tailLength
  | .sparse length ratio seed =>
      (Fixture.sparse length ratio seed).map fun buffer => UInt64.ofNat buffer.tailLength

/-- What a thread does in one step. A fill ends before `stop`; of the two guards the first answers a
status code and the second a number. -/
inductive Action
  | store (index : Nat) (value : UInt16)
  | fill (start stop : Nat) (value : UInt16)
  | contents
  | version
  | count (kernel : Kernel) (extent : Extent)
  | countInto (kernel : Kernel) (extent : Extent) (target : Option Target)
  | guard (body : Body)
  | guardOr (fallback : UInt64) (body : Body)
  | readMessage (destination : Option (List UInt8)) (capacity : Nat)
  deriving DecidableEq

/-- One step of a session. -/
structure Step where
  thread : Nat
  action : Action
  deriving DecidableEq

/-- What a step gets in reply. Setting an element gives the one that stood there, and reading a
message gives its length and the destination afterwards. -/
inductive Reply
  | done
  | element (value : UInt16)
  | contents (cells : Buffer)
  | version (number : UInt32)
  | number (value : UInt64)
  | code (value : Int32)
  | message (length : Nat) (destination : Option (List UInt8))
  deriving DecidableEq

end Session
end ZeroTail
