import ZeroTail.Fixture
import ZeroTail.Text.Labelled

/-!
# Profiles

A profile describes a fixture with an exact zero tail before it is made.  A profile is validated
first: its length must be within the size limit and its tail within its length, in this order.
-/

namespace ZeroTail

/-- The description of a fixture. -/
structure Profile where
  length : Nat
  tail : Nat
  /-- Seed of the elements before the tail. -/
  seed : UInt64
  deriving DecidableEq

namespace Profile

/-- What makes a profile invalid. -/
inductive Defect
  | tailTooLong (tail length : Nat)
  | tooLarge (length : Nat)
  deriving DecidableEq

/-- The word that names the kind of a defect. -/
def Defect.kind : Defect → String
  | .tailTooLong _ _ => "TailTooLong"
  | .tooLarge _ => "TooLarge"

/-- The sentence that reports a defect. -/
def Defect.message : Defect → String
  | .tailTooLong tail length =>
      "zero tail of " ++ toString tail ++ " exceeds buffer length " ++ toString length
  | .tooLarge length => "buffer of " ++ toString length ++ " elements is too large"

/-- The labelled form of a defect. -/
def Defect.describe (defect : Defect) : String :=
  Text.labelled defect.kind <|
    match defect with
    | .tailTooLong tail length => [("zero_tail", tail), ("len", length)]
    | .tooLarge length => [("len", length)]

/-- Why a profile gave no buffer: it is invalid, or its fixture could not be made. -/
inductive Refusal
  | invalid (defect : Defect)
  | faulted (fault : Fault)
  deriving DecidableEq

/-- Accept a profile whose fixture can be made. -/
def validate (profile : Profile) : Except Defect Unit :=
  if Buffer.maxLength < profile.length then
    .error (.tooLarge profile.length)
  else if profile.length < profile.tail then
    .error (.tailTooLong profile.tail profile.length)
  else
    .ok ()

/-- Validate a profile and make its fixture. -/
def build (profile : Profile) : Except Refusal Buffer := do
  profile.validate.mapError .invalid
  (Fixture.withTail profile.length profile.tail profile.seed).mapError .faulted

/-- The labelled form of a profile. -/
def describe (profile : Profile) : String :=
  Text.labelled "BufferProfile"
    [("len", profile.length), ("zero_tail", profile.tail), ("seed", profile.seed.toNat)]

/-- A million elements with a short tail. -/
def reference (seed : UInt64) : Profile := ⟨1000000, 7, seed⟩

/-- Sixteen times `2^20` elements, the second half of them zero. -/
def stress (seed : UInt64) : Profile :=
  let length := 16 * 1024 * 1024
  ⟨length, length / 2, seed⟩

/-- Nothing but zeros. -/
def allZero (length : Nat) : Profile := ⟨length, length, 0⟩

end Profile
end ZeroTail
