/-!
# Version and status codes

The numbers that callers across the boundary rely on.  The version packs a major and a minor number.
The outcome of a checked call is a small signed number: zero is success, every failure is negative.
-/

namespace ZeroTail
namespace Boundary

/-- The version of the boundary: major number one in the upper half, minor number zero. -/
def version : UInt32 := (1 : UInt32) <<< 16

/-- The outcome of a checked call. A bad target is missing or misaligned. -/
inductive Status
  | success
  | badTarget
  | nullAddress
  | oddAddress
  | lengthOverflow
  | faulted
  deriving DecidableEq

namespace Status

/-- All outcomes, success first and then in the order of the codes. -/
def all : List Status :=
  [.success, .badTarget, .nullAddress, .oddAddress, .lengthOverflow, .faulted]

/-- The number that a caller receives. -/
def code : Status → Int32
  | .success => 0
  | .badTarget => -1
  | .nullAddress => -2
  | .oddAddress => -3
  | .lengthOverflow => -4
  | .faulted => -128

/-- The name under which callers know an outcome. -/
def name : Status → String
  | .success => "Ok"
  | .badTarget => "InvalidArgument"
  | .nullAddress => "NullBuffer"
  | .oddAddress => "MisalignedBuffer"
  | .lengthOverflow => "LengthOverflow"
  | .faulted => "Panicked"

end Status
end Boundary
end ZeroTail
