import ZeroTail.Sampling.Source

/-!
# Ratios and chances

A ratio is given by the 64 bits of a binary floating-point number.  Every finite such number is a
whole multiple of the least positive one, `2^-1074`, so a ratio is kept as that multiple and no
rounding arises.  The chance of a ratio is the event that it stands for: certain from one upwards,
and otherwise a 64-bit draw below a threshold.
-/

namespace ZeroTail
namespace Sampling

/-- The number that 64 bits denote. A finite one is a multiple of `2^-1074`, and both signed zeros
are the multiple zero. -/
inductive Ratio
  | notANumber
  | infinite (negative : Bool)
  | finite (units : Int)
  deriving DecidableEq

/-- An event: one that always happens, without a draw, or one that happens if a 64-bit draw lies
below a threshold. -/
inductive Chance
  | certain
  | below (threshold : Nat)
  deriving DecidableEq

/-- Draw whether the event happens. -/
def Chance.draw : Chance → Source → Bool × Source
  | .certain, source => (true, source)
  | .below threshold, source =>
      let (number, source) := source.nextPair
      (decide (number < threshold), source)

namespace Ratio

/-- A power of two. -/
def powerOfTwo (exponent : Nat) : Nat := Nat.pow 2 exponent

theorem powerOfTwo_pos (exponent : Nat) : 0 < powerOfTwo exponent := Nat.two_pow_pos exponent

/-- The number of times that one is halved to reach the unit. -/
def halvings : Nat := 1074

/-- The number of units in one. -/
def one : Nat := powerOfTwo halvings

theorem one_pos : 0 < one := powerOfTwo_pos halvings

/-- The number of values that the field of a fraction takes. -/
def fractions : Nat := powerOfTwo 52

/-- The number of values that the field of an exponent takes. -/
def exponents : Nat := powerOfTwo 11

/-- The size of a finite number in units of `2^-1074`, from its two magnitude fields. The field
value zero of the exponent marks a number without the leading bit. -/
def magnitude (exponent fraction : Nat) : Nat :=
  if exponent = 0 then fraction else (fractions + fraction) * powerOfTwo (exponent - 1)

/-- Decode a sign bit, eleven bits of exponent and 52 bits of fraction. -/
def ofBits (bits : UInt64) : Ratio :=
  let negative := exponents * fractions ≤ bits.toNat
  let exponent := bits.toNat / fractions % exponents
  let fraction := bits.toNat % fractions
  if exponent = exponents - 1 then
    if fraction = 0 then .infinite negative else .notANumber
  else if negative then
    .finite (-(magnitude exponent fraction : Int))
  else
    .finite (magnitude exponent fraction)

/-- The chance with the probability that a ratio denotes, after it is brought between zero and one.
The threshold is the whole part of `2^64` times the ratio. What is not a number has no chance. -/
def chance? : Ratio → Option Chance
  | .notANumber => none
  | .infinite negative => some (if negative then .below 0 else .certain)
  | .finite units =>
      some (if one ≤ units then .certain else .below (units.toNat * UInt64.size / one))

theorem chance?_eq_none_iff (ratio : Ratio) : ratio.chance? = none ↔ ratio = .notANumber := by
  cases ratio with
  | notANumber => exact ⟨fun _ => rfl, fun _ => rfl⟩
  | infinite negative => exact ⟨nofun, nofun⟩
  | finite units => exact ⟨nofun, nofun⟩

end Ratio
end Sampling
end ZeroTail
