import ZeroTail.Proofs.Fixture.Tail

/-!
# Elements of fixtures stay within their ranges

Every element that is drawn from a range lies in it, since the sample behind it never passes the
range and its sum with the least element never wraps.  So an even fixture stays below its greatest
element, and an element that is drawn from the others than zero is not zero: it ends the head of a
fixture with a tail, and in a sparse fixture it tells that the event of a zero did not happen.
-/

namespace ZeroTail
namespace Fixture

open Sampling

/-- An element other than zero. -/
structure Positive (element : UInt16) : Prop where
  one_le : 1 ≤ element.toNat
  le_greatest : element.toNat ≤ 65535

theorem positive_nonzero (source : Source) : Positive (nonzero source).1 :=
  ⟨one_le_nonzero source, Nat.le_of_lt_succ (nonzero source).1.toNat_lt⟩

theorem getElem?_closeWith {elements : Buffer} {zeros : Nat} (room : zeros < elements.length)
    (source : Source) :
    (closeWith elements zeros source)[elements.length - zeros - 1]? =
      some (nonzero source).1 := by
  have head_length : (elements.take (elements.length - zeros - 1)).length =
      elements.length - zeros - 1 := List.length_take_of_le (by omega)
  rw [closeWith_of_lt room, List.getElem?_append_right (Nat.le_of_eq head_length), head_length,
    Nat.sub_self, List.getElem?_cons_zero]

theorem zeroIf_value (chance : Chance) (source : Source) :
    (zeroIf chance source).1 =
      if (chance.draw source).1 then 0 else (nonzero (chance.draw source).2).1 := by
  rcases draw_eq : chance.draw source with ⟨happens, after⟩
  cases happens <;> simp [zeroIf, draw_eq]

/-- The source that an element of a sparse fixture is drawn from. -/
def elementSource (chance : Chance) (seed : UInt64) (index : Nat) : Source :=
  (draws (zeroIf chance) index (Source.ofSeed seed)).2

theorem zeroIf_eq_zero_iff (chance : Chance) (source : Source) :
    (zeroIf chance source).1 = 0 ↔ (chance.draw source).1 = true := by
  rw [zeroIf_value]
  split
  · rename_i happens
    exact iff_of_true rfl happens
  · rename_i fails
    exact iff_of_false (nonzero_ne_zero _) fails

section Made

variable {length : Nat} {seed : UInt64} {buffer : Buffer}

theorem uniform_le (made : uniform length seed = .ok buffer) :
    ∀ element ∈ buffer, element.toNat ≤ greatestUniform := by
  have drawn_le (source : Source) : (Source.between 0 greatestUniform source).1.toNat ≤
      greatestUniform :=
    (source.between_mem (by decide) (by decide)).2
  obtain ⟨-, rfl⟩ := uniform_eq_ok_iff.mp made
  exact @forall_mem_draws _ (Source.between 0 greatestUniform) (·.toNat ≤ greatestUniform)
    drawn_le length _

theorem exists_forced {zeros : Nat} (made : withTail length zeros seed = .ok buffer)
    (room : zeros < length) :
    ∃ element, buffer[length - zeros - 1]? = some element ∧ Positive element := by
  have drawn_length := draws_length Source.element length (Source.ofSeed seed)
  obtain ⟨-, rfl⟩ := withTail_eq_ok_iff.mp made
  generalize draws Source.element length (Source.ofSeed seed) = drawn at drawn_length ⊢
  subst drawn_length
  exact ⟨_, getElem?_closeWith room drawn.2, positive_nonzero drawn.2⟩

/-- An element of a sparse fixture is drawn from its own source, with the chance of the ratio. -/
theorem exists_chance {ratio : Ratio} (made : sparse length ratio seed = .ok buffer) {index : Nat}
    {element : UInt16} (element_eq : buffer[index]? = some element) :
    ∃ chance, ratio.chance? = some chance ∧
      (zeroIf chance (elementSource chance seed index)).1 = element := by
  obtain ⟨-, ⟨-, rfl⟩ | ⟨chance, chance_eq, rfl⟩⟩ := sparse_eq_ok_iff.mp made
  · simp at element_eq
  · obtain ⟨index_lt, -⟩ := List.getElem?_eq_some_iff.mp element_eq
    rw [draws_length] at index_lt
    rw [getElem?_draws _ index_lt, Option.some.injEq] at element_eq
    exact ⟨chance, chance_eq, element_eq⟩

end Made

/-- The elements of the fixtures of a seed lie in the ranges that they are drawn from. -/
structure DrawnInRange (seed : UInt64) : Prop where
  /-- No element of an even fixture passes the greatest. -/
  uniform_le (length : Nat) (buffer : Buffer) : uniform length seed = .ok buffer →
    ∀ element ∈ buffer, element.toNat ≤ 65000
  /-- The element just before a tail is not zero. -/
  forced (length zeros : Nat) (buffer : Buffer) : withTail length zeros seed = .ok buffer →
    zeros < length → ∃ element, buffer[length - zeros - 1]? = some element ∧ Positive element
  /-- An element of a sparse fixture is zero exactly if its event happened, and it was drawn from
  the other elements if not. -/
  sparse_eq_zero_iff (length : Nat) (ratio : Ratio) (buffer : Buffer) :
    sparse length ratio seed = .ok buffer →
      ∀ index element, buffer[index]? = some element →
        ∃ chance, ratio.chance? = some chance ∧
          (element = 0 ↔ (chance.draw (elementSource chance seed index)).1 = true) ∧
          ((chance.draw (elementSource chance seed index)).1 = false → Positive element)
  /-- All these fixtures are made within the limit. -/
  made (length zeros : Nat) (ratio : Ratio) : length ≤ 2 ^ 62 - 1 →
    (∃ buffer : Buffer, uniform length seed = .ok buffer ∧ buffer.length = length) ∧
      (zeros ≤ length →
        ∃ buffer : Buffer, withTail length zeros seed = .ok buffer ∧ buffer.length = length) ∧
      (ratio ≠ .notANumber →
        ∃ buffer : Buffer, sparse length ratio seed = .ok buffer ∧ buffer.length = length)

theorem drawnInRange (seed : UInt64) : DrawnInRange seed := by
  constructor
  case uniform_le => exact fun length buffer => uniform_le
  case forced => exact fun length zeros buffer => exists_forced
  case sparse_eq_zero_iff =>
    intro length ratio buffer made index element element_eq
    obtain ⟨chance, chance_eq, rfl⟩ := exists_chance made element_eq
    refine ⟨chance, chance_eq, zeroIf_eq_zero_iff chance _, ?_⟩
    intro fails
    rw [zeroIf_value, fails, if_neg Bool.false_ne_true]
    exact positive_nonzero _
  case made =>
    intro length zeros ratio small
    refine ⟨exists_uniform small seed, ?_, ?_⟩
    · intro fits
      obtain ⟨parts, made, -, length_eq⟩ := exists_parts_withTail fits small seed
      exact ⟨parts.join, made, length_eq⟩
    · intro number
      obtain ⟨chance, chance_eq⟩ :=
        Option.ne_none_iff_exists'.mp (mt ratio.chance?_eq_none_iff.mp number)
      exact ⟨_, sparse_of_chance chance_eq small seed, draws_length _ _ _⟩

/-- Every draw stays within its range.  A sample of a range of elements is below the range and can
be computed in words of 64 bits, an element drawn from a range is its sample above the least element
and does not wrap, and so the elements of all fixtures are drawn in range. -/
theorem draws_in_range :
    (∀ (range : UInt64) (first second : UInt32), 1 ≤ range → range ≤ 65536 →
      (sampleWord range first second).toNat = sample range.toNat first second ∧
        sample range.toNat first second ≤ range.toNat - 1) ∧
      (∀ (least greatest : Nat) (source : Source), least ≤ greatest → greatest ≤ 65535 →
        (source.between least greatest).1.toNat =
            least + sample (greatest - least + 1) (source.key.word source.position)
              (source.key.word (source.position + 1)) ∧
          (source.between least greatest).1.toNat ≤ greatest) ∧
      ∀ seed, DrawnInRange seed := by
  refine ⟨?_, ?_, drawnInRange⟩
  · intro range first second range_pos range_le
    exact ⟨toNat_sampleWord range_pos range_le first second,
      Nat.le_pred_of_lt (sample_lt range_pos first second)⟩
  · intro least greatest source least_le greatest_le
    have greatest_lt : greatest < UInt16.size := Nat.lt_of_le_of_lt greatest_le (by decide)
    exact ⟨source.toNat_between least_le greatest_lt, (source.between_mem least_le greatest_lt).2⟩

end Fixture
end ZeroTail
