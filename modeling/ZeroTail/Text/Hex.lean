/-!
# Hexadecimal digits

Numbers written to base sixteen with lower-case digits and without leading zeros.
-/

namespace ZeroTail
namespace Text

/-- The hexadecimal digits of a number, the most significant first; zero is one digit. -/
def hexDigits (number : Nat) : List Char :=
  if number < 16 then
    [number.digitChar]
  else
    hexDigits (number / 16) ++ [(number % 16).digitChar]

theorem hexDigits_of_lt {number : Nat} (small : number < 16) :
    hexDigits number = [number.digitChar] := by
  rw [hexDigits, if_pos small]

theorem hexDigits_of_le {number : Nat} (large : 16 ≤ number) :
    hexDigits number = hexDigits (number / 16) ++ [(number % 16).digitChar] := by
  rw [hexDigits, if_neg (Nat.not_lt.mpr large)]

end Text
end ZeroTail
