import ZeroTail.Buffer.Basic

/-!
# Trailing zero bits

The second measure of a buffer adds up the trailing zero bits of its elements, wherever the elements
stand.  The total is kept in 64 bits and wraps; `exactBits` is the same sum without a bound.
-/

namespace ZeroTail

/-- The number of trailing zero bits of a number that is `width` bits wide; zero has all `width`. -/
def trailingZeros : Nat → Nat → Nat
  | 0, _ => 0
  | width + 1, number => if number % 2 = 1 then 0 else trailingZeros width (number / 2) + 1

theorem trailingZeros_le (width number : Nat) : trailingZeros width number ≤ width := by
  induction width generalizing number with
  | zero => simp [trailingZeros]
  | succ width ih =>
      simp only [trailingZeros]
      split
      · omega
      · exact Nat.succ_le_succ (ih (number / 2))

namespace Buffer

/-- The number of trailing zero bits of an element; a zero element counts sixteen. -/
def zeroBits (element : UInt16) : Nat :=
  trailingZeros 16 element.toNat

theorem zeroBits_le (element : UInt16) : zeroBits element ≤ 16 :=
  trailingZeros_le 16 element.toNat

@[simp]
theorem zeroBits_zero : zeroBits 0 = 16 := rfl

/-- The trailing zero bits of all elements together, modulo `2^64`. -/
def bitTotal (buffer : Buffer) : UInt64 :=
  buffer.foldl (fun total element => total + UInt64.ofNat (zeroBits element)) 0

/-- The trailing zero bits of all elements together. -/
def exactBits : Buffer → Nat
  | [] => 0
  | element :: later => zeroBits element + exactBits later

end Buffer
end ZeroTail
