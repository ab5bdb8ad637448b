import ZeroTail.Boundary.Message

/-!
# The copy of a message

The bytes of a message are the bytes of its UTF-8 form, so they determine its text.  A copy under a
capacity puts the front of them into the destination and a zero byte behind them.  Everything after
that byte stays, and the copy is whole exactly if the length of the message is below the capacity.
-/

namespace ZeroTail
namespace Boundary

/-! ## Bytes of a text -/

/-- The bytes are collected from an index on, behind those that are already there in reverse. -/
theorem toList_loop (bytes : ByteArray) (index : Nat) (front : List UInt8) :
    ByteArray.toList.loop bytes index front = front.reverse ++ bytes.data.toList.drop index := by
  induction index, front using ByteArray.toList.loop.induct bytes with
  | case1 index front inside ih =>
      have byte_eq : bytes.get! index = bytes.data.toList[index] :=
        getElem!_pos bytes.data index inside
      have rest_eq : bytes.data.toList.drop index =
          bytes.get! index :: bytes.data.toList.drop (index + 1) := by
        rw [byte_eq]
        exact List.drop_eq_getElem_cons inside
      rw [ByteArray.toList.loop, if_pos inside, ih, rest_eq, List.reverse_cons,
        List.append_assoc, List.singleton_append]
  | case2 index front past =>
      have none_left : bytes.data.toList.drop index = [] :=
        List.drop_eq_nil_of_le (Nat.le_of_not_lt past)
      rw [ByteArray.toList.loop, if_neg past, none_left, List.append_nil]

theorem messageBytes_eq (message : String) :
    messageBytes message = message.toUTF8.data.toList := by
  rw [messageBytes, ByteArray.toList, toList_loop, List.reverse_nil, List.nil_append,
    List.drop_zero]

theorem length_messageBytes (message : String) :
    (messageBytes message).length = message.utf8ByteSize := by
  rw [messageBytes_eq]
  rfl

theorem messageBytes_inj {left right : String} :
    messageBytes left = messageBytes right ↔ left = right := by
  rw [messageBytes_eq, messageBytes_eq, Array.toList_inj, ← ByteArray.ext_iff]
  exact String.toByteArray_inj

/-! ## The copy -/

/-- How many bytes of a message are copied under a capacity. -/
def copiedLength (message : List UInt8) (capacity : Nat) : Nat :=
  min message.length (capacity - 1)

section Copy

variable {message destination : List UInt8} {capacity : Nat}

theorem take_copiedLength (message : List UInt8) (capacity : Nat) :
    message.take (copiedLength message capacity) = message.take (capacity - 1) := by
  rw [List.take_eq_take_iff, copiedLength, Nat.min_comm message.length, Nat.min_assoc,
    Nat.min_self]

theorem copiedLength_of_lt (fits : message.length < capacity) :
    copiedLength message capacity = message.length :=
  Nat.min_eq_left (Nat.le_sub_one_of_lt fits)

theorem copyMessage_of_pos (positive : 0 < capacity) :
    copyMessage message capacity destination =
      message.take (copiedLength message capacity) ++
        0 :: destination.drop (copiedLength message capacity + 1) := by
  have copied_eq : (message.take (capacity - 1)).length = copiedLength message capacity := by
    rw [List.length_take, copiedLength, Nat.min_comm]
  simp only [copyMessage, if_neg (Nat.ne_of_gt positive), copied_eq, take_copiedLength]

theorem length_take_copiedLength (message : List UInt8) (capacity : Nat) :
    (message.take (copiedLength message capacity)).length = copiedLength message capacity := by
  rw [List.length_take]
  exact Nat.min_eq_left (Nat.min_le_left _ _)

theorem getElem?_copyMessage_self (positive : 0 < capacity) :
    (copyMessage message capacity destination)[copiedLength message capacity]? = some 0 := by
  rw [copyMessage_of_pos positive,
    List.getElem?_append_right (Nat.le_of_eq (length_take_copiedLength message capacity)),
    length_take_copiedLength, Nat.sub_self, List.getElem?_cons_zero]

theorem getElem?_copyMessage_of_gt {index : Nat}
    (beyond : copiedLength message capacity < index) :
    (copyMessage message capacity destination)[index]? = destination[index]? := by
  rcases Nat.eq_zero_or_pos capacity with rfl | positive
  · rw [copyMessage_zero]
  · obtain ⟨distance, rfl⟩ := Nat.exists_eq_add_of_lt beyond
    rw [copyMessage_of_pos positive,
      List.getElem?_append_right (by rw [length_take_copiedLength]; omega),
      length_take_copiedLength, Nat.add_assoc, Nat.add_sub_cancel_left, List.getElem?_cons_succ,
      List.getElem?_drop, Nat.add_assoc, Nat.add_comm 1]

/-- What a copy under a positive capacity makes of a destination. -/
structure Copied (message : List UInt8) (capacity : Nat) (before after : List UInt8) : Prop where
  length_eq : after.length = before.length
  front_eq : after.take (copiedLength message capacity) =
    message.take (copiedLength message capacity)
  closed : after[copiedLength message capacity]? = some 0
  kept (index : Nat) : copiedLength message capacity < index → after[index]? = before[index]?
  /-- No byte is touched at or beyond the capacity, or beyond the closing byte of a whole copy. -/
  touched (index : Nat) : after[index]? ≠ before[index]? →
    index < min capacity (message.length + 1)
  /-- The copy is whole exactly if the length that is answered is below the capacity. -/
  whole_iff : message.take (copiedLength message capacity) = message ↔ message.length < capacity

theorem take_copiedLength_eq_self_iff (positive : 0 < capacity) :
    message.take (copiedLength message capacity) = message ↔ message.length < capacity := by
  constructor
  · intro whole
    have length_eq := congrArg List.length whole
    rw [length_take_copiedLength, copiedLength] at length_eq
    omega
  · intro fits
    rw [copiedLength_of_lt fits, List.take_length]

theorem copied_copyMessage (positive : 0 < capacity)
    (room : copiedLength message capacity < destination.length) :
    Copied message capacity destination (copyMessage message capacity destination) where
  length_eq := copyMessage_length room
  front_eq := by
    rw [copyMessage_of_pos positive]
    exact List.take_left' (length_take_copiedLength message capacity)
  closed := getElem?_copyMessage_self positive
  kept _ := getElem?_copyMessage_of_gt
  touched index changed := by
    have copied : index ≤ copiedLength message capacity :=
      Nat.le_of_not_lt fun beyond => changed (getElem?_copyMessage_of_gt beyond)
    unfold copiedLength at copied
    omega
  whole_iff := take_copiedLength_eq_self_iff positive

end Copy

end Boundary
end ZeroTail
