/-!
# Faults

A computation that cannot go on stops with a fault.  A fault is a cause; its message is what a
caller gets to read.
-/

namespace ZeroTail

/-- What code under a guard may stop with: a text fixed in advance, a text composed at run time or a
value that is no text. -/
inductive Payload
  | literal (text : String)
  | composed (text : String)
  | other
  deriving DecidableEq

/-- Why a computation stopped: one of three reasons why a fixture cannot be made, or a payload that
the computation raised. -/
inductive Fault
  | tailTooLong (zeros length : Nat)
  | capacityOverflow
  | undefinedProbability
  | raised (payload : Payload)
  deriving DecidableEq

/-- The text of a payload; one that is no text has a fixed description. -/
def Payload.text : Payload → String
  | .literal text => text
  | .composed text => text
  | .other => "panic with non-string payload"

/-- The message of a fault. -/
def Fault.message : Fault → String
  | .tailTooLong zeros length =>
      "tail of " ++ toString zeros ++ " does not fit in " ++ toString length ++ " elements"
  | .capacityOverflow => "capacity overflow"
  | .undefinedProbability => "p=NaN is outside range [0.0, 1.0]"
  | .raised payload => payload.text

end ZeroTail
