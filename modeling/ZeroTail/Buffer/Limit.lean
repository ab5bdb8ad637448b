import ZeroTail.Buffer.Basic

/-!
# The size limit of buffers

One buffer takes at most `2^63 - 1` bytes, and an element takes two.  The limit is used in two
forms, on bytes where a buffer is made and on elements where a length is announced; they agree.
-/

namespace ZeroTail
namespace Buffer

/-- The greatest number of bytes that one buffer may take. -/
def byteLimit : Nat := UInt64.size / 2 - 1

/-- The number of bytes of one element. -/
def elementBytes : Nat := 2

/-- The greatest number of elements of one buffer. -/
def maxLength : Nat := byteLimit / elementBytes

/-- A buffer takes too many bytes exactly if it has too many elements. -/
theorem byteLimit_lt_iff (length : Nat) :
    byteLimit < length * elementBytes ↔ maxLength < length := by
  simp only [maxLength, byteLimit, elementBytes]
  omega

end Buffer
end ZeroTail
