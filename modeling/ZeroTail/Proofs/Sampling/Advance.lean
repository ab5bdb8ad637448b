import ZeroTail.Sampling.Range

/-!
# How far draws move along a keystream

A draw takes a number of words from its source and leaves the source so many words further on the
same keystream; the block that a source keeps plays no part in this.  How many words a draw takes
can depend on the words themselves, so only a bound is known of it beforehand.  The bounds of draws
that are made one after the other add up, and so do those of a run of draws.
-/

namespace ZeroTail
namespace Sampling

variable {α β : Type}

/-- A draw moves every source on by at most `most` words. -/
def Advances (draw : Source → α × Source) (most : Nat) : Prop :=
  ∀ source : Source, ∃ words ≤ most,
    (draw source).2 = Source.atPosition source.key (source.position + words)

namespace Advances

theorem next : Advances Source.next 1 := by
  intro source
  refine ⟨1, Nat.le_refl 1, ?_⟩
  rw [source.eq_atPosition, Source.next_atPosition]
  rfl

theorem pure (value : α) : Advances (fun source => (value, source)) 0 :=
  fun source => ⟨0, Nat.le_refl 0, source.eq_atPosition⟩

/-- A draw that goes on from where another one stopped takes the words of both. -/
theorem bind {draw : Source → α × Source} {following : α → Source → β × Source} {most more : Nat}
    (first : Advances draw most) (second : ∀ value, Advances (following value) more) :
    Advances (fun source => following (draw source).1 (draw source).2) (most + more) := by
  intro source
  obtain ⟨words, words_le, first_eq⟩ := first source
  obtain ⟨others, others_le, second_eq⟩ := second (draw source).1 (draw source).2
  refine ⟨words + others, Nat.add_le_add words_le others_le, ?_⟩
  rw [second_eq, first_eq, ← Nat.add_assoc]
  rfl

section Draw

variable {draw : Source → α × Source} {most : Nat} (advances : Advances draw most)
include advances

theorem map (change : α → β) :
    Advances (fun source => (change (draw source).1, (draw source).2)) most :=
  advances.bind fun value => .pure (change value)

theorem mono {more : Nat} (most_le : most ≤ more) : Advances draw more := by
  intro source
  obtain ⟨words, words_le, draw_eq⟩ := advances source
  exact ⟨words, Nat.le_trans words_le most_le, draw_eq⟩

theorem draws (count : Nat) : Advances (Sampling.draws draw count) (count * most) := by
  induction count with
  | zero =>
      rw [Nat.zero_mul]
      exact .pure []
  | succ count ih =>
      have draws_eq : Sampling.draws draw (count + 1) = fun source =>
          ((draw source).1 :: (Sampling.draws draw count (draw source).2).1,
            (Sampling.draws draw count (draw source).2).2) :=
        funext fun source => draws_succ draw count source
      rw [draws_eq, Nat.succ_mul, Nat.add_comm]
      exact advances.bind fun value => ih.map (value :: ·)

/-- A longer run is a shorter one, and then a run from the word at which the shorter one stopped. -/
theorem exists_draws_resumed {shorter longer : Nat} (le : shorter ≤ longer) (key : Key) :
    ∃ stop ≤ shorter * most,
      (Sampling.draws draw shorter (Source.atPosition key 0)).2 = Source.atPosition key stop ∧
        (Sampling.draws draw longer (Source.atPosition key 0)).1 =
          (Sampling.draws draw shorter (Source.atPosition key 0)).1 ++
            (Sampling.draws draw (longer - shorter) (Source.atPosition key stop)).1 := by
  obtain ⟨more, rfl⟩ := Nat.exists_eq_add_of_le le
  obtain ⟨stop, stop_le, stop_eq⟩ := advances.draws shorter (Source.atPosition key 0)
  have after_eq : (Sampling.draws draw shorter (Source.atPosition key 0)).2 =
      Source.atPosition key stop := by
    rw [stop_eq]
    exact congrArg (Source.atPosition key) (Nat.zero_add stop)
  refine ⟨stop, stop_le, after_eq, ?_⟩
  rw [draws_add, after_eq, Nat.add_sub_cancel_left]

end Draw

theorem nextPair : Advances Source.nextPair 2 :=
  next.bind fun low => next.map fun high => low.toNat + high.toNat * UInt32.size

/-- After its first word a draw from a range takes one more, if the first may carry. -/
theorem afterFirst (least range : Nat) (first : UInt32) :
    Advances (fun source : Source =>
      if MayCarry range first then
        (UInt16.ofNat (least + sample range first source.next.1), source.next.2)
      else
        (UInt16.ofNat (least + wholePart range first), source)) 1 := by
  by_cases may_carry : MayCarry range first
  · simp only [if_pos may_carry]
    exact next.map fun second => UInt16.ofNat (least + sample range first second)
  · simp only [if_neg may_carry]
    exact (pure _).mono (Nat.zero_le 1)

theorem between (least greatest : Nat) : Advances (·.between least greatest) 2 :=
  next.bind (afterFirst least (greatest - least + 1))

end Advances

end Sampling
end ZeroTail
