import ZeroTail.Boundary.Status
import ZeroTail.Buffer.Limit
import ZeroTail.Text.Hex
import ZeroTail.Text.Labelled

/-!
# Extents

A caller across the boundary names a buffer by an address and a length.  What can be seen from these
two numbers is checked before anything is read.  An extent of length zero names the empty buffer
whatever its address.
-/

namespace ZeroTail
namespace Boundary

/-- A buffer as a caller names it. -/
structure Extent where
  /-- Address of the first element; zero is no address. -/
  address : Nat
  length : Nat
  deriving DecidableEq

/-- What makes an extent with elements unreadable. -/
inductive Defect
  | nullAddress (length : Nat)
  | oddAddress (address : Nat)
  | tooLong (length : Nat)
  deriving DecidableEq

namespace Defect

/-- The word that names the kind of a defect. -/
def kind : Defect → String
  | .nullAddress _ => "NullBuffer"
  | .oddAddress _ => "Misaligned"
  | .tooLong _ => "TooLong"

/-- The sentence that reports a defect. -/
def message : Defect → String
  | .nullAddress length => "null buffer with length " ++ toString length
  | .oddAddress address =>
      "buffer address 0x" ++ String.ofList (Text.hexDigits address) ++ " is not aligned for u16"
  | .tooLong length => "length " ++ toString length ++ " exceeds the addressable range"

/-- The labelled form of a defect. -/
def describe (defect : Defect) : String :=
  Text.labelled defect.kind <|
    match defect with
    | .nullAddress length => [("len", length)]
    | .oddAddress address => [("addr", address)]
    | .tooLong length => [("len", length)]

/-- The outcome of a checked call on an extent with a defect. -/
def status : Defect → Status
  | .nullAddress _ => .nullAddress
  | .oddAddress _ => .oddAddress
  | .tooLong _ => .lengthOverflow

end Defect

/-- Accept an extent, or report the first of its defects in the order of `Defect`. -/
def Extent.validate (extent : Extent) : Except Defect Unit :=
  if extent.length = 0 then
    .ok ()
  else if extent.address = 0 then
    .error (.nullAddress extent.length)
  else if extent.address % 2 ≠ 0 then
    .error (.oddAddress extent.address)
  else if Buffer.maxLength < extent.length then
    .error (.tooLong extent.length)
  else
    .ok ()

end Boundary
end ZeroTail
