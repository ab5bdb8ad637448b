import ZeroTail.Boundary.Status
import ZeroTail.Fault

/-!
# Containing faults

No fault crosses the boundary.  A computation runs under a guard that puts a fallback in place of
the value it did not give; the message of the fault is kept for the thread that made the call, in
place of the message kept before.  Without a fault the message stays as it is.
-/

namespace ZeroTail
namespace Boundary

/-- Run a computation under a guard: the value answered, and the message kept afterwards. -/
def contain {α : Type} (fallback : α) (outcome : Except Fault α) (message : String) :
    α × String :=
  match outcome with
  | .ok value => (value, message)
  | .error fault => (fallback, fault.message)

@[simp]
theorem contain_ok {α : Type} (fallback value : α) (message : String) :
    contain fallback (.ok value) message = (value, message) := rfl

@[simp]
theorem contain_error {α : Type} (fallback : α) (fault : Fault) (message : String) :
    contain fallback (.error fault) message = (fallback, fault.message) := rfl

/-- The low 32 bits of a number, as a signed code. -/
def narrow (number : UInt64) : Int32 :=
  number.toUInt32.toInt32

end Boundary
end ZeroTail
