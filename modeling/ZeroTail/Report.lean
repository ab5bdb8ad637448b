import ZeroTail.Boundary.Count
import ZeroTail.Fixture
import ZeroTail.Text.Numeral
import ZeroTail.Text.Quoted

/-!
# The report

The command line takes a length and a seed, both optional, makes the even fixture of that length and
seed, and reports its two measures as the boundary counts them.  Both arguments are read before
anything is made, and the first one that is not a numeral is named.
-/

namespace ZeroTail
namespace Report

open Boundary

/-- The fixture that a command line asks for. -/
structure Request where
  length : Nat
  seed : UInt64
  deriving DecidableEq

/-- An argument that is not a numeral. -/
structure BadArgument where
  /-- Its position among the arguments, counted from one. -/
  position : Nat
  /-- The text that stands there. -/
  text : String
  /-- Why it is not a numeral. -/
  defect : Text.Numeral.Defect
  deriving DecidableEq

/-- The measures of the fixture asked for. -/
structure Reading where
  request : Request
  tail : UInt64
  bits : UInt64
  deriving DecidableEq

/-- What a command line comes to. -/
inductive Outcome
  | reported (reading : Reading)
  | rejected (argument : BadArgument)
  | faulted (fault : Fault)
  deriving DecidableEq

/-- The length of the fixture if none is given. -/
def defaultLength : Nat := 1000000

/-- The seed of the fixture if none is given. -/
def defaultSeed : Nat := 0

/-- The number that an argument gives; a missing argument gives the default. -/
def readArgument (arguments : List String) (position default : Nat) : Except BadArgument Nat :=
  match arguments[position - 1]? with
  | none => .ok default
  | some text => (Text.Numeral.parse text.toList).mapError (⟨position, text, ·⟩)

/-- Read the two arguments; whatever comes after them is not looked at. -/
def readRequest (arguments : List String) : Except BadArgument Request := do
  let length ← readArgument arguments 1 defaultLength
  let seed ← readArgument arguments 2 defaultSeed
  return ⟨length, UInt64.ofNat seed⟩

/-- Make the fixture of a request, place it in memory and ask for its two counts. -/
def measure (request : Request) : Outcome :=
  match Fixture.uniform request.length request.seed with
  | .ok buffer =>
      let memory := Memory.ofBuffer buffer
      .reported ⟨request, count .tail memory memory.extent, count .bits memory memory.extent⟩
  | .error fault => .faulted fault

/-- What the arguments of a command line come to. -/
def ofArguments (arguments : List String) : Outcome :=
  match readRequest arguments with
  | .ok request => measure request
  | .error argument => .rejected argument

/-- The name that error reports begin with. -/
def programName : String := "random_tail"

/-- The four lines of a reading. -/
def Reading.lines (reading : Reading) : String :=
  "elements:           " ++ toString reading.request.length ++ "\n" ++
  "seed:               " ++ toString reading.request.seed.toNat ++ "\n" ++
  "tail zero elements: " ++ toString reading.tail.toNat ++ "\n" ++
  "trailing zero bits: " ++ toString reading.bits.toNat ++ "\n"

/-- The line that names a bad argument. -/
def BadArgument.line (argument : BadArgument) : String :=
  programName ++ ": argument " ++ toString argument.position ++ " (" ++
    Text.quote argument.text ++ "): " ++ argument.defect.message ++ "\n"

namespace Outcome

/-- The exit code: zero for a report, one for a bad argument, 101 for a fault. -/
def exitCode : Outcome → UInt32
  | .reported _ => 0
  | .rejected _ => 1
  | .faulted _ => 101

/-- The text for the standard output. -/
def output : Outcome → String
  | .reported reading => reading.lines
  | .rejected _ => ""
  | .faulted _ => ""

/-- The text for the standard error. Of a fault this is its message alone. -/
def errors : Outcome → String
  | .reported _ => ""
  | .rejected argument => argument.line
  | .faulted fault => fault.message ++ "\n"

end Outcome
end Report
end ZeroTail
