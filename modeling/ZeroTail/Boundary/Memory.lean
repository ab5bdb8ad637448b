import ZeroTail.Boundary.Extent

/-!
# Memory

The memory that callers share with the boundary is one buffer that starts at an even address other
than zero.  An extent that the memory covers has a window: the elements it names.
-/

namespace ZeroTail
namespace Boundary

/-- A buffer that has an address. -/
structure Memory where
  /-- Address of the first element. -/
  base : Nat
  cells : Buffer
  base_ne_zero : base ≠ 0
  base_even : base % 2 = 0

namespace Memory

/-- The extent lies within the memory and starts at an element. -/
def Covers (memory : Memory) (extent : Extent) : Prop :=
  ∃ index, extent.address = memory.base + 2 * index ∧
    index + extent.length ≤ memory.cells.length

/-- The elements of the memory that an extent names; beyond the memory there are none. -/
def window (memory : Memory) (extent : Extent) : Buffer :=
  (memory.cells.drop ((extent.address - memory.base) / 2)).take extent.length

theorem window_of_address_eq {memory : Memory} {extent : Extent} {index : Nat}
    (address_eq : extent.address = memory.base + 2 * index) :
    memory.window extent = (memory.cells.drop index).take extent.length := by
  rw [window, address_eq]
  congr 2
  omega

theorem window_length {memory : Memory} {extent : Extent} (covered : memory.Covers extent) :
    (memory.window extent).length = extent.length := by
  obtain ⟨index, address_eq, length_le⟩ := covered
  rw [window_of_address_eq address_eq, List.length_take, List.length_drop]
  omega

theorem window_of_cells_eq {memory : Memory} {before buffer after : Buffer}
    (cells_eq : memory.cells = before ++ buffer ++ after) :
    memory.window ⟨memory.base + 2 * before.length, buffer.length⟩ = buffer := by
  rw [window_of_address_eq rfl, cells_eq, List.append_assoc, List.drop_left, List.take_left]

/-- The extent that names every element of the memory. -/
def extent (memory : Memory) : Extent :=
  ⟨memory.base, memory.cells.length⟩

theorem covers_extent (memory : Memory) : memory.Covers memory.extent :=
  ⟨0, rfl, Nat.le_of_eq (Nat.zero_add _)⟩

@[simp]
theorem window_extent (memory : Memory) : memory.window memory.extent = memory.cells := by
  have address_eq : memory.extent.address = memory.base + 2 * 0 := rfl
  rw [window_of_address_eq address_eq, extent, List.drop_zero, List.take_length]

/-- A memory that holds one buffer and nothing else, at the least address that an element can
have. -/
def ofBuffer (buffer : Buffer) : Memory where
  base := 2
  cells := buffer
  base_ne_zero := by decide
  base_even := by decide

/-- The memory with other elements at the same base. -/
def withCells (memory : Memory) (cells : Buffer) : Memory :=
  { memory with cells }

end Memory
end Boundary
end ZeroTail
