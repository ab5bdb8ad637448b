import ZeroTail.Proofs.Boundary.Count
import ZeroTail.Proofs.Fixture.Refusal
import ZeroTail.Proofs.Text.Numeral
import ZeroTail.Report

/-!
# What a command line comes to

The two arguments are read one by one, and a missing one has a default.  A command line is rejected
for the first argument that is not a numeral, it stops with a fault if the length it asks for is
past the size limit, and in all other cases it is reported.  So its answer is a function of the two
numbers read.
-/

namespace ZeroTail
namespace Report

open Boundary

/-- The argument at an index is read as a number; a missing one is read as the default. -/
inductive Reads (arguments : List String) (index default : Nat) : Nat → Prop
  | missing (absent : arguments[index]? = none) : Reads arguments index default default
  | numeral {text : String} {number : Nat} (present : arguments[index]? = some text)
      (read : Text.Numeral.parse text.toList = .ok number) : Reads arguments index default number

/-- There is an argument at an index, and it is no numeral. -/
def Rejects (arguments : List String) (index : Nat) (text : String)
    (defect : Text.Numeral.Defect) : Prop :=
  arguments[index]? = some text ∧ Text.Numeral.parse text.toList = .error defect

section Arguments

variable {arguments : List String} {index default number : Nat}

theorem reads_or_rejects (arguments : List String) (index default : Nat) :
    (∃ number, Reads arguments index default number) ∨
      ∃ text defect, Rejects arguments index text defect := by
  cases present : arguments[index]? with
  | none => exact Or.inl ⟨default, .missing present⟩
  | some text =>
      cases read : Text.Numeral.parse text.toList with
      | ok number => exact Or.inl ⟨number, .numeral present read⟩
      | error defect => exact Or.inr ⟨text, defect, present, read⟩

theorem readArgument_of_reads (reads : Reads arguments index default number) :
    readArgument arguments (index + 1) default = .ok number := by
  rw [readArgument, Nat.add_sub_cancel]
  cases reads with
  | missing absent => rw [absent]
  | numeral present read =>
      rw [present]
      simp only [read]
      rfl

theorem readArgument_of_rejects {text : String} {defect : Text.Numeral.Defect}
    (rejects : Rejects arguments index text defect) (default : Nat) :
    readArgument arguments (index + 1) default = .error ⟨index + 1, text, defect⟩ := by
  obtain ⟨present, rejected⟩ := rejects
  rw [readArgument, Nat.add_sub_cancel, present]
  simp only [rejected]
  rfl

theorem Reads.unique {other : Nat} (reads : Reads arguments index default number)
    (reads_other : Reads arguments index default other) : number = other := by
  have same := readArgument_of_reads reads
  rw [readArgument_of_reads reads_other] at same
  exact (Except.ok.inj same).symm

theorem Reads.not_rejects (reads : Reads arguments index default number) (text : String)
    (defect : Text.Numeral.Defect) : ¬ Rejects arguments index text defect := by
  intro rejects
  have same := readArgument_of_reads reads
  rw [readArgument_of_rejects rejects] at same
  cases same

theorem Reads.lt (reads : Reads arguments index default number)
    (default_lt : default < UInt64.size) : number < UInt64.size := by
  cases reads with
  | missing absent => exact default_lt
  | numeral present read => exact Text.Numeral.parse_lt read

end Arguments

/-! ## Outcomes -/

section Outcomes

variable {arguments : List String} {length seed : Nat}

theorem ofArguments_of_first {text : String} {defect : Text.Numeral.Defect}
    (rejects : Rejects arguments 0 text defect) :
    ofArguments arguments = .rejected ⟨1, text, defect⟩ := by
  rw [ofArguments, readRequest, readArgument_of_rejects rejects]
  rfl

theorem ofArguments_of_second {text : String} {defect : Text.Numeral.Defect}
    (length_read : Reads arguments 0 defaultLength length)
    (rejects : Rejects arguments 1 text defect) :
    ofArguments arguments = .rejected ⟨2, text, defect⟩ := by
  rw [ofArguments, readRequest, readArgument_of_reads length_read,
    readArgument_of_rejects rejects]
  rfl

/-- If both arguments are read, the outcome depends on the two numbers alone. -/
theorem ofArguments_of_reads (length_read : Reads arguments 0 defaultLength length)
    (seed_read : Reads arguments 1 defaultSeed seed) :
    ofArguments arguments = measure ⟨length, UInt64.ofNat seed⟩ := by
  rw [ofArguments, readRequest, readArgument_of_reads length_read,
    readArgument_of_reads seed_read]
  rfl

theorem measure_of_large {request : Request} (large : Buffer.maxLength < request.length) :
    measure request = .faulted .capacityOverflow := by
  rw [measure, Fixture.uniform_of_large large]

/-- Both counts of a fixture are those of its elements, although they are asked for at an
address. -/
theorem measure_of_made {request : Request} {buffer : Buffer}
    (made : Fixture.uniform request.length request.seed = .ok buffer)
    (length_le : buffer.length ≤ Buffer.maxLength) :
    measure request =
      .reported ⟨request, Kernel.tail.measure buffer, Kernel.bits.measure buffer⟩ := by
  have counts_eq (kernel : Kernel) : count kernel (Memory.ofBuffer buffer)
      (Memory.ofBuffer buffer).extent = kernel.measure buffer := count_extent length_le kernel
  rw [measure, made]
  simp only [counts_eq]

end Outcomes

/-- What a command line can come to: its first argument is rejected, only its second one is, the
length read is past the limit, or the fixture can be made. -/
inductive Verdict (arguments : List String) : Prop
  | first {text : String} {defect : Text.Numeral.Defect} (rejects : Rejects arguments 0 text defect)
  | second {length : Nat} {text : String} {defect : Text.Numeral.Defect}
      (length_read : Reads arguments 0 defaultLength length)
      (rejects : Rejects arguments 1 text defect)
  | large {length seed : Nat} (length_read : Reads arguments 0 defaultLength length)
      (seed_read : Reads arguments 1 defaultSeed seed) (large : Buffer.maxLength < length)
  | small {length seed : Nat} (length_read : Reads arguments 0 defaultLength length)
      (seed_read : Reads arguments 1 defaultSeed seed) (small : length ≤ Buffer.maxLength)

theorem verdict (arguments : List String) : Verdict arguments := by
  rcases reads_or_rejects arguments 0 defaultLength with
    ⟨length, length_read⟩ | ⟨text, defect, rejects⟩
  · rcases reads_or_rejects arguments 1 defaultSeed with
      ⟨seed, seed_read⟩ | ⟨text, defect, rejects⟩
    · by_cases large : Buffer.maxLength < length
      · exact .large length_read seed_read large
      · exact .small length_read seed_read (Nat.not_lt.mp large)
    · exact .second length_read rejects
  · exact .first rejects

/-! ## Answers -/

/-- A command line is reported: both arguments are read, the fixture is made, and the four lines
show the two numbers and the two measures. -/
structure Reported (arguments : List String) (length seed : Nat) (buffer : Buffer) : Prop where
  length_read : Reads arguments 0 1000000 length
  seed_read : Reads arguments 1 0 seed
  made : Fixture.uniform length (UInt64.ofNat seed) = .ok buffer
  exit_eq : (ofArguments arguments).exitCode = 0
  errors_eq : (ofArguments arguments).errors = ""
  output_eq : (ofArguments arguments).output =
    "elements:           " ++ toString length ++ "\n" ++
    "seed:               " ++ toString seed ++ "\n" ++
    "tail zero elements: " ++ toString buffer.plainTailLength ++ "\n" ++
    "trailing zero bits: " ++ toString buffer.bitTotal.toNat ++ "\n"
  /-- The boundary counts the same two numbers wherever the fixture stands. -/
  counts_eq (memory : Memory) : memory.cells = buffer →
    (count .tail memory memory.extent).toNat = buffer.plainTailLength ∧
      count .bits memory memory.extent = buffer.bitTotal

theorem reported_of_small {arguments : List String} {length seed : Nat}
    (length_read : Reads arguments 0 defaultLength length)
    (seed_read : Reads arguments 1 defaultSeed seed) (small : length ≤ Buffer.maxLength) :
    ∃ buffer, Reported arguments length seed buffer := by
  obtain ⟨buffer, made, length_eq⟩ := Fixture.exists_uniform small (UInt64.ofNat seed)
  have buffer_small : buffer.length ≤ Buffer.maxLength := by
    rw [length_eq]
    exact small
  have outcome_eq : ofArguments arguments = .reported ⟨⟨length, UInt64.ofNat seed⟩,
      Kernel.tail.measure buffer, Kernel.bits.measure buffer⟩ := by
    rw [ofArguments_of_reads length_read seed_read, measure_of_made made buffer_small]
  have seed_eq : (UInt64.ofNat seed).toNat = seed :=
    UInt64.toNat_ofNat_of_lt' (seed_read.lt (by decide))
  have tail_eq : (Kernel.tail.measure buffer).toNat = buffer.plainTailLength := by
    have tail_le := buffer.tailLength_le
    have limit : Buffer.maxLength < UInt64.size := by decide
    rw [Kernel.measure, UInt64.toNat_ofNat_of_lt' (by omega), buffer.tailLength_eq]
  have bits_eq : Kernel.bits.measure buffer = buffer.bitTotal := rfl
  refine ⟨buffer, length_read, seed_read, made, ?_, ?_, ?_, ?_⟩
  · rw [outcome_eq]
    rfl
  · rw [outcome_eq]
    rfl
  · rw [outcome_eq, Outcome.output]
    unfold Reading.lines
    rw [seed_eq, tail_eq, bits_eq]
  · rintro memory rfl
    rw [count_extent buffer_small, count_extent buffer_small]
    exact ⟨tail_eq, bits_eq⟩

theorem BadArgument.line_eq {argument : BadArgument} {start : String}
    (start_eq : programName ++ ": argument " ++ toString argument.position ++ " (" = start) :
    argument.line =
      start ++ Text.quote argument.text ++ "): " ++ argument.defect.message ++ "\n" := by
  unfold BadArgument.line
  rw [start_eq]

/-- The answer to a command line. -/
structure Answered (arguments : List String) : Prop where
  /-- One is the exit code exactly if one of the first two arguments is there and is no numeral. -/
  rejected_iff : (ofArguments arguments).exitCode = 1 ↔
    (∃ text defect, Rejects arguments 0 text defect) ∨
      ∃ text defect, Rejects arguments 1 text defect
  /-- The first argument is named if it is rejected, whatever the second one is. -/
  first_named (text : String) (defect : Text.Numeral.Defect) : Rejects arguments 0 text defect →
    (ofArguments arguments).errors =
      "random_tail: argument 1 (" ++ Text.quote text ++ "): " ++ defect.message ++ "\n"
  /-- The second argument is named if only it is rejected. -/
  second_named (text : String) (defect : Text.Numeral.Defect) :
    (∀ other reason, ¬ Rejects arguments 0 other reason) → Rejects arguments 1 text defect →
      (ofArguments arguments).errors =
        "random_tail: argument 2 (" ++ Text.quote text ++ "): " ++ defect.message ++ "\n"
  /-- A fault is the exit exactly if both numbers are read and the length is past the limit. -/
  faulted_iff : (ofArguments arguments).exitCode = 101 ↔
    ∃ length seed, Reads arguments 0 1000000 length ∧ Reads arguments 1 0 seed ∧
      2 ^ 62 - 1 < length
  /-- Nothing is printed in either case. -/
  silent : (ofArguments arguments).exitCode ≠ 0 → (ofArguments arguments).output = ""
  /-- In all other cases the fixture is reported. -/
  reported : (ofArguments arguments).exitCode ≠ 1 → (ofArguments arguments).exitCode ≠ 101 →
    ∃ length seed buffer, Reported arguments length seed buffer

section Answers

variable {arguments : List String}

theorem not_rejected_of_reads {length seed : Nat}
    (length_read : Reads arguments 0 defaultLength length)
    (seed_read : Reads arguments 1 defaultSeed seed) :
    ¬ ((∃ text defect, Rejects arguments 0 text defect) ∨
      ∃ text defect, Rejects arguments 1 text defect) := by
  rintro (⟨text, defect, rejects⟩ | ⟨text, defect, rejects⟩)
  · exact length_read.not_rejects text defect rejects
  · exact seed_read.not_rejects text defect rejects

theorem exitCode_eq_one_iff : (ofArguments arguments).exitCode = 1 ↔
    (∃ text defect, Rejects arguments 0 text defect) ∨
      ∃ text defect, Rejects arguments 1 text defect := by
  cases verdict arguments with
  | first rejects =>
      rw [ofArguments_of_first rejects]
      exact iff_of_true rfl (Or.inl ⟨_, _, rejects⟩)
  | second length_read rejects =>
      rw [ofArguments_of_second length_read rejects]
      exact iff_of_true rfl (Or.inr ⟨_, _, rejects⟩)
  | large length_read seed_read large =>
      rw [ofArguments_of_reads length_read seed_read, measure_of_large large]
      exact iff_of_false (by decide) (not_rejected_of_reads length_read seed_read)
  | small length_read seed_read small =>
      obtain ⟨buffer, reported⟩ := reported_of_small length_read seed_read small
      rw [reported.exit_eq]
      exact iff_of_false (by decide) (not_rejected_of_reads length_read seed_read)

theorem exitCode_eq_faulted_iff : (ofArguments arguments).exitCode = 101 ↔
    ∃ length seed, Reads arguments 0 defaultLength length ∧ Reads arguments 1 defaultSeed seed ∧
      Buffer.maxLength < length := by
  have one_ne : (1 : UInt32) ≠ 101 := by decide
  cases verdict arguments with
  | first rejects =>
      rw [ofArguments_of_first rejects]
      refine iff_of_false one_ne ?_
      rintro ⟨length, seed, length_read, -, -⟩
      exact length_read.not_rejects _ _ rejects
  | second length_read rejects =>
      rw [ofArguments_of_second length_read rejects]
      refine iff_of_false one_ne ?_
      rintro ⟨length, seed, -, seed_read, -⟩
      exact seed_read.not_rejects _ _ rejects
  | large length_read seed_read large =>
      rw [ofArguments_of_reads length_read seed_read, measure_of_large large]
      exact iff_of_true rfl ⟨_, _, length_read, seed_read, large⟩
  | small length_read seed_read small =>
      obtain ⟨buffer, reported⟩ := reported_of_small length_read seed_read small
      rw [reported.exit_eq]
      refine iff_of_false (by decide) ?_
      rintro ⟨length, seed, other_read, -, large⟩
      rw [other_read.unique length_read] at large
      exact Nat.not_lt.mpr small large

theorem errors_of_first {text : String} {defect : Text.Numeral.Defect}
    (rejects : Rejects arguments 0 text defect) :
    (ofArguments arguments).errors =
      "random_tail: argument 1 (" ++ Text.quote text ++ "): " ++ defect.message ++ "\n" := by
  have start_eq : programName ++ ": argument " ++ toString 1 ++ " (" =
      "random_tail: argument 1 (" := by decide
  rw [ofArguments_of_first rejects]
  exact BadArgument.line_eq start_eq

theorem errors_of_second {text : String} {defect : Text.Numeral.Defect}
    (first_fine : ∀ other reason, ¬ Rejects arguments 0 other reason)
    (rejects : Rejects arguments 1 text defect) :
    (ofArguments arguments).errors =
      "random_tail: argument 2 (" ++ Text.quote text ++ "): " ++ defect.message ++ "\n" := by
  have start_eq : programName ++ ": argument " ++ toString 2 ++ " (" =
      "random_tail: argument 2 (" := by decide
  rcases reads_or_rejects arguments 0 defaultLength with
    ⟨length, length_read⟩ | ⟨other, reason, other_rejects⟩
  · rw [ofArguments_of_second length_read rejects]
    exact BadArgument.line_eq start_eq
  · exact absurd other_rejects (first_fine other reason)

theorem output_of_failed (failed : (ofArguments arguments).exitCode ≠ 0) :
    (ofArguments arguments).output = "" := by
  cases outcome_eq : ofArguments arguments with
  | reported reading =>
      rw [outcome_eq] at failed
      exact absurd rfl failed
  | rejected argument => rfl
  | faulted fault => rfl

theorem exists_reported (not_rejected : (ofArguments arguments).exitCode ≠ 1)
    (not_faulted : (ofArguments arguments).exitCode ≠ 101) :
    ∃ length seed buffer, Reported arguments length seed buffer := by
  cases verdict arguments with
  | first rejects =>
      exact absurd (exitCode_eq_one_iff.mpr (Or.inl ⟨_, _, rejects⟩)) not_rejected
  | second length_read rejects =>
      exact absurd (exitCode_eq_one_iff.mpr (Or.inr ⟨_, _, rejects⟩)) not_rejected
  | large length_read seed_read large =>
      exact absurd (exitCode_eq_faulted_iff.mpr ⟨_, _, length_read, seed_read, large⟩) not_faulted
  | small length_read seed_read small =>
      obtain ⟨buffer, reported⟩ := reported_of_small length_read seed_read small
      exact ⟨_, _, buffer, reported⟩

end Answers

theorem answered (arguments : List String) : Answered arguments where
  rejected_iff := exitCode_eq_one_iff
  first_named _ _ := errors_of_first
  second_named _ _ := errors_of_second
  faulted_iff := exitCode_eq_faulted_iff
  silent := output_of_failed
  reported := exists_reported

theorem ofArguments_take_two (arguments : List String) :
    ofArguments (arguments.take 2) = ofArguments arguments := by
  have first_eq : readArgument (arguments.take 2) 1 = readArgument arguments 1 := by
    funext default
    rw [readArgument, readArgument, List.getElem?_take_of_lt (by decide)]
  have second_eq : readArgument (arguments.take 2) 2 = readArgument arguments 2 := by
    funext default
    rw [readArgument, readArgument, List.getElem?_take_of_lt (by decide)]
  rw [ofArguments, ofArguments, readRequest, readRequest, first_eq, second_eq]

/-- Every command line is answered, by what its first two arguments are read as.  The last part says
which texts are read as a number: its decimal digits after any number of zeros, with or without a
plus sign. -/
theorem command_line_answered :
    (∀ arguments, Answered arguments) ∧
    (∀ arguments, ofArguments (arguments.take 2) = ofArguments arguments) ∧
    (∀ left right length seed, Reads left 0 1000000 length → Reads right 0 1000000 length →
      Reads left 1 0 seed → Reads right 1 0 seed → ofArguments left = ofArguments right) ∧
    (∀ text number, Text.Numeral.parse text = .ok number ↔
      number < 2 ^ 64 ∧ ∃ plus zeros, text = Text.Numeral.spell plus zeros number) := by
  refine ⟨answered, ofArguments_take_two, ?_, fun _ _ => Text.Numeral.parse_eq_ok_iff⟩
  intro left right length seed left_length right_length left_seed right_seed
  rw [ofArguments_of_reads left_length left_seed, ofArguments_of_reads right_length right_seed]

/-- Every text is read as its grammar tells, a number that fits is read from its own digits, and an
argument that is there is read as its text. -/
theorem arguments_read_by_grammar :
    (∀ text : String, Text.Numeral.ReadByGrammar text.toList) ∧
    (∀ number, number < 2 ^ 64 → Text.Numeral.parse (toString number).toList = .ok number) ∧
    ∀ (arguments : List String) (index default : Nat) (text : String),
      arguments[index]? = some text →
        (∀ number, readArgument arguments (index + 1) default = .ok number ↔
          Text.Numeral.parse text.toList = .ok number) ∧
        ∀ defect, readArgument arguments (index + 1) default = .error ⟨index + 1, text, defect⟩ ↔
          Text.Numeral.parse text.toList = .error defect := by
  refine ⟨fun text => Text.Numeral.readByGrammar _, fun _ => Text.Numeral.parse_toString, ?_⟩
  intro arguments index default text present
  cases read : Text.Numeral.parse text.toList with
  | ok value =>
      rw [readArgument_of_reads (.numeral present read)]
      simp
  | error reason =>
      rw [readArgument_of_rejects ⟨present, read⟩]
      simp

end Report
end ZeroTail
