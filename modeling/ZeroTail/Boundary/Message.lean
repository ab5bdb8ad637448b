/-!
# Reading the last message

A caller reads the message kept for its thread by giving a destination and a capacity.  As many
bytes are copied as leave room for a closing zero byte; the rest of the destination stays as it was.
The answer is the length of the whole message, so the caller can see whether it was cut.
-/

namespace ZeroTail
namespace Boundary

/-- The bytes of a message. -/
def messageBytes (message : String) : List UInt8 :=
  message.toUTF8.toList

/-- The destination after a message was copied to it under a capacity. -/
def copyMessage (message : List UInt8) (capacity : Nat) (destination : List UInt8) : List UInt8 :=
  if capacity = 0 then
    destination
  else
    let copied := message.take (capacity - 1)
    copied ++ 0 :: destination.drop (copied.length + 1)

@[simp]
theorem copyMessage_zero (message destination : List UInt8) :
    copyMessage message 0 destination = destination := rfl

theorem copyMessage_length {message destination : List UInt8} {capacity : Nat}
    (room : min message.length (capacity - 1) < destination.length) :
    (copyMessage message capacity destination).length = destination.length := by
  unfold copyMessage
  split
  · rfl
  · simp only [List.length_append, List.length_cons, List.length_take, List.length_drop]
    omega

end Boundary
end ZeroTail
