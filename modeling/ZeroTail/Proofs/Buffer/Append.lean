import ZeroTail.Proofs.Buffer.Split

/-!
# The zero tail of buffers joined together

A part that holds nothing but zeros lengthens the zero tail of what stands before it, and any other
part hides what stands before it.  So a buffer can be cut into pieces of any lengths and scanned
piece by piece from the end.  The cuts of the block scan are one choice among these, and the result
depends neither on the cuts nor on what stands before the last element other than zero.
-/

namespace ZeroTail
namespace Buffer

theorem zeros_or_exists_ne (buffer : Buffer) :
    (∀ element ∈ buffer, element = 0) ∨ ∃ element ∈ buffer, element ≠ 0 := by
  by_cases zeros : ∀ element ∈ buffer, element = 0
  · exact Or.inl zeros
  · push Not at zeros
    exact Or.inr zeros

theorem tailLength_append_of_zeros {back : Buffer} (zeros : ∀ element ∈ back, element = 0)
    (front : Buffer) : tailLength (front ++ back) = back.length + front.tailLength := by
  have back_eq : back = List.replicate back.length 0 := List.eq_replicate_iff.mpr ⟨rfl, zeros⟩
  calc
    tailLength (front ++ back) = plainTailLength (front ++ List.replicate back.length 0) := by
      rw [tailLength_eq, ← back_eq]
    _ = back.length + front.tailLength := by
      rw [plainTailLength_append_replicate, ← tailLength_eq, Nat.add_comm]

/-- A part with an element other than zero hides what stands before it. -/
theorem tailLength_append_of_exists_ne {back : Buffer} (other : ∃ element ∈ back, element ≠ 0)
    (front : Buffer) : tailLength (front ++ back) = back.tailLength := by
  obtain ⟨element, element_mem, element_ne⟩ := other
  rw [tailLength_eq, tailLength_eq, plainTailLength_append_of_mem_ne element_mem element_ne]

/-! ## Pieces -/

/-- Scan pieces of any lengths, the last piece first. A piece of zeros is counted and passed over,
and the first other piece ends the scan. -/
def scanPieces : List Buffer → Nat
  | [] => 0
  | piece :: earlier =>
      if piece.any (· != 0) then
        piece.plainTailLength
      else
        piece.length + scanPieces earlier

theorem scanPieces_cons_of_zeros {piece : Buffer} (zeros : ∀ element ∈ piece, element = 0)
    (earlier : List Buffer) : scanPieces (piece :: earlier) = piece.length + scanPieces earlier := by
  have no_other : ¬ piece.any (· != 0) = true := by simpa using zeros
  rw [scanPieces, if_neg no_other]

theorem scanPieces_cons_of_exists_ne {piece : Buffer} (other : ∃ element ∈ piece, element ≠ 0)
    (earlier : List Buffer) : scanPieces (piece :: earlier) = piece.plainTailLength := by
  have has_other : piece.any (· != 0) = true := by simpa using other
  rw [scanPieces, if_pos has_other]

/-- Wherever a buffer is cut, the scan of its pieces finds its zero tail. -/
theorem scanPieces_eq (pieces : List Buffer) :
    scanPieces pieces = tailLength pieces.reverse.flatten := by
  induction pieces with
  | nil => rfl
  | cons piece earlier ih =>
      rw [List.reverse_cons, List.flatten_append, List.flatten_singleton]
      rcases piece.zeros_or_exists_ne with zeros | other
      · rw [scanPieces_cons_of_zeros zeros, ih, tailLength_append_of_zeros zeros]
      · rw [scanPieces_cons_of_exists_ne other, tailLength_append_of_exists_ne other,
          tailLength_eq]

/-- The zero tail of joined buffers is found from the last part alone, or from both if the last part
is all zeros.  Scanned in pieces it is the same for all cuts, and nothing before an element other
than zero has an influence on it. -/
theorem tailLength_of_joined :
    (∀ front back : Buffer, (∀ element ∈ back, element = 0) →
      tailLength (front ++ back) = back.length + front.tailLength) ∧
      (∀ front back : Buffer, (∃ element ∈ back, element ≠ 0) →
        tailLength (front ++ back) = back.tailLength) ∧
      (∀ front other back : Buffer, (∃ element ∈ back, element ≠ 0) →
        tailLength (front ++ back) = tailLength (other ++ back)) ∧
      ∀ pieces : List Buffer, scanPieces pieces = tailLength pieces.reverse.flatten := by
  refine ⟨?_, ?_, ?_, scanPieces_eq⟩
  · exact fun front back zeros => tailLength_append_of_zeros zeros front
  · exact fun front back back_ne => tailLength_append_of_exists_ne back_ne front
  · intro front other back back_ne
    rw [tailLength_append_of_exists_ne back_ne, tailLength_append_of_exists_ne back_ne]

end Buffer
end ZeroTail
