import ZeroTail.Proofs.Report
import ZeroTail.Proofs.Text.Quoted

/-!
# The error line

A rejected command line is answered by one line about one argument.  Every character of the line
shows, up to the line feed that ends it, whatever the argument holds; and the line can be read back:
it tells the position of the argument and the text that stands there.  So an argument can neither
add a line to the report nor pass for another argument.
-/

namespace ZeroTail
namespace Report

/-! ## Every character shows -/

theorem message_shows (defect : Text.Numeral.Defect) :
    ∀ character ∈ defect.message.toList, Text.isHidden character = false := by
  apply Text.forall_shows_of_all_isPlain
  cases defect with
  | empty => decide
  | invalidDigit => decide
  | overflow => decide

theorem position_shows (position : Nat) :
    ∀ character ∈ (toString position).toList, Text.isHidden character = false := by
  intro digit digit_mem
  rw [Nat.toString_eq_ofList_toDigits, String.toList_ofList] at digit_mem
  have is_digit := Nat.isDigit_of_mem_toDigits (by decide) (by decide) digit_mem
  obtain ⟨zero_le, le_nine⟩ := Char.isDigit_iff_toNat.mp is_digit
  have zero_eq : '0'.toNat = 48 := rfl
  have nine_eq : '9'.toNat = 57 := rfl
  apply Text.isHidden_of_isPlain
  rw [Text.isPlain, Bool.and_eq_true, decide_eq_true_eq, decide_eq_true_eq]
  omega

/-- An error line consists of characters that show and a line feed behind them. -/
theorem BadArgument.exists_line_eq (argument : BadArgument) :
    ∃ front, argument.line.toList = front ++ ['\n'] ∧
      ∀ character ∈ front, Text.isHidden character = false := by
  refine ⟨_, String.toList_append, ?_⟩
  simp only [String.toList_append, List.forall_mem_append, and_assoc]
  refine ⟨?program, ?word, position_shows argument.position, ?opened,
    Text.quote_shows argument.text, ?closed, message_shows argument.defect⟩
  case program => exact Text.forall_shows_of_all_isPlain (by decide)
  case word => exact Text.forall_shows_of_all_isPlain (by decide)
  case opened => exact Text.forall_shows_of_all_isPlain (by decide)
  case closed => exact Text.forall_shows_of_all_isPlain (by decide)

theorem BadArgument.count_line (argument : BadArgument) : argument.line.toList.count '\n' = 1 := by
  obtain ⟨front, line_eq, front_shows⟩ := argument.exists_line_eq
  have not_in_front : '\n' ∉ front := by
    intro feed_mem
    exact absurd (front_shows '\n' feed_mem) (by decide)
  rw [line_eq, List.count_append, List.count_eq_zero.mpr not_in_front]
  rfl

theorem BadArgument.getLast?_line (argument : BadArgument) :
    argument.line.toList.getLast? = some '\n' := by
  obtain ⟨front, line_eq, -⟩ := argument.exists_line_eq
  rw [line_eq, List.getLast?_concat]

theorem BadArgument.shows_of_mem_line {argument : BadArgument} {character : Char}
    (character_mem : character ∈ argument.line.toList) (not_feed : character ≠ '\n') :
    Text.isHidden character = false := by
  obtain ⟨front, line_eq, front_shows⟩ := argument.exists_line_eq
  rw [line_eq] at character_mem
  rcases List.mem_append.mp character_mem with front_mem | feed_mem
  · exact front_shows character front_mem
  · exact absurd (List.mem_singleton.mp feed_mem) not_feed

/-! ## Reading the line -/

/-- The words that every error line begins with. -/
def opening : List Char := "random_tail: argument ".toList

/-- What stands between the position and the characters of the quoted argument. -/
def divider : List Char := " (\"".toList

/-- The position and the text that an error line gives. -/
def readLine? (line : String) : Option (Nat × String) :=
  let named := line.toList.drop opening.length
  let digits := Text.Numeral.leadingDigits named
  let quoted := (named.drop digits.length).drop divider.length
  (Text.readQuoted .between quoted).map fun read =>
    (Text.Numeral.placeValue digits, String.ofList read.1)

theorem BadArgument.line_parts (argument : BadArgument) :
    ∃ later, argument.line.toList =
      opening ++ (Nat.toDigits 10 argument.position ++
        (divider ++ (argument.text.toList.flatMap Text.escape ++ '\"' :: later))) := by
  have opening_eq : programName.toList ++ ": argument ".toList = opening := by decide
  have divider_eq : divider = " (".toList ++ ['\"'] := by decide
  refine ⟨"): ".toList ++ argument.defect.message.toList ++ "\n".toList, ?_⟩
  rw [divider_eq, ← opening_eq]
  simp only [BadArgument.line, Text.quote, String.toList_append, String.toList_ofList,
    Nat.toString_eq_ofList_toDigits, List.append_assoc, List.cons_append, List.nil_append]

theorem leadingDigits_toDigits (position : Nat) (later : List Char) :
    Text.Numeral.leadingDigits (Nat.toDigits 10 position ++ (divider ++ later)) =
      Nat.toDigits 10 position := by
  have all_digits : ∀ digit ∈ Nat.toDigits 10 position, digit.isDigit = true :=
    fun digit => Nat.isDigit_of_mem_toDigits (by decide) (by decide)
  have divider_eq : divider ++ later = ' ' :: '(' :: '\"' :: later := rfl
  rw [Text.Numeral.leadingDigits, List.takeWhile_append_of_pos all_digits, divider_eq,
    List.takeWhile_cons_of_neg (by decide), List.append_nil]

/-- The line of a bad argument gives back its position and its text. -/
theorem readLine?_line (argument : BadArgument) :
    readLine? argument.line = some (argument.position, argument.text) := by
  obtain ⟨later, line_eq⟩ := argument.line_parts
  have position_eq : Text.Numeral.placeValue (Nat.toDigits 10 argument.position) =
      argument.position := Text.Numeral.placeValue_zeros 0 argument.position
  simp only [readLine?]
  rw [line_eq, List.drop_left, leadingDigits_toDigits, List.drop_left, List.drop_left,
    Text.readQuoted_quoted, position_eq]
  simp

-- A quote mark within the argument is not taken for the one that closes it.
example : readLine? "random_tail: argument 2 (\"1\\\"): \"): invalid digit found in string\n" =
    some (2, "1\"): ") := by decide

/-! ## The argument that is named -/

/-- The argument that a command line is rejected for: the first one, or the second one if the first
one is read. -/
inductive Blames (arguments : List String) : Nat → String → Prop
  | first {text : String} {defect : Text.Numeral.Defect}
      (rejects : Rejects arguments 0 text defect) : Blames arguments 1 text
  | second {length : Nat} {text : String} {defect : Text.Numeral.Defect}
      (length_read : Reads arguments 0 1000000 length)
      (rejects : Rejects arguments 1 text defect) : Blames arguments 2 text

section Blame

variable {arguments : List String} {position : Nat} {text : String}

theorem Blames.exists_rejected (blames : Blames arguments position text) :
    ∃ defect, ofArguments arguments = .rejected ⟨position, text, defect⟩ := by
  cases blames with
  | first rejects => exact ⟨_, ofArguments_of_first rejects⟩
  | second length_read rejects => exact ⟨_, ofArguments_of_second length_read rejects⟩

theorem exists_blames (rejected : (ofArguments arguments).exitCode = 1) :
    ∃ position text, Blames arguments position text := by
  rcases exitCode_eq_one_iff.mp rejected with ⟨text, defect, rejects⟩ | ⟨text, defect, rejects⟩
  · exact ⟨1, text, .first rejects⟩
  · rcases reads_or_rejects arguments 0 defaultLength with
      ⟨length, length_read⟩ | ⟨other, reason, other_rejects⟩
    · exact ⟨2, text, .second length_read rejects⟩
    · exact ⟨1, other, .first other_rejects⟩

theorem readLine?_of_blames (blames : Blames arguments position text) :
    readLine? (ofArguments arguments).errors = some (position, text) := by
  obtain ⟨defect, outcome_eq⟩ := blames.exists_rejected
  rw [outcome_eq]
  exact readLine?_line ⟨position, text, defect⟩

end Blame

/-- The errors of a command line are one line, which tells the argument that is to blame. -/
structure TellsOnOneLine (arguments : List String) : Prop where
  feed_once : (ofArguments arguments).errors.toList.count '\n' = 1
  feed_last : (ofArguments arguments).errors.toList.getLast? = some '\n'
  no_return : '\r' ∉ (ofArguments arguments).errors.toList
  no_tab : '\t' ∉ (ofArguments arguments).errors.toList
  no_null : '\x00' ∉ (ofArguments arguments).errors.toList
  /-- Neither is there any other character that does not show. -/
  shows (character : Char) : character ∈ (ofArguments arguments).errors.toList →
    character ≠ '\n' → Text.isHidden character = false
  blamed : ∃ position text, Blames arguments position text
  /-- What is read back is the argument that is to blame, and nothing else. -/
  blames_iff (position : Nat) (text : String) : Blames arguments position text ↔
    readLine? (ofArguments arguments).errors = some (position, text)

theorem tellsOnOneLine {arguments : List String}
    (rejected : (ofArguments arguments).exitCode = 1) : TellsOnOneLine arguments := by
  obtain ⟨position, text, blames⟩ := exists_blames rejected
  obtain ⟨defect, outcome_eq⟩ := blames.exists_rejected
  have errors_eq : (ofArguments arguments).errors = BadArgument.line ⟨position, text, defect⟩ := by
    rw [outcome_eq, Outcome.errors]
  have shows (character : Char) (character_mem : character ∈ (ofArguments arguments).errors.toList)
      (not_feed : character ≠ '\n') : Text.isHidden character = false := by
    rw [errors_eq] at character_mem
    exact BadArgument.shows_of_mem_line character_mem not_feed
  have absent {control : Char} (hidden : Text.isHidden control = true) (not_feed : control ≠ '\n') :
      control ∉ (ofArguments arguments).errors.toList := by
    intro control_mem
    have control_shows := shows control control_mem not_feed
    rw [hidden] at control_shows
    contradiction
  constructor
  case feed_once => rw [errors_eq, BadArgument.count_line]
  case feed_last => rw [errors_eq, BadArgument.getLast?_line]
  case no_return => exact absent (by decide) (by decide)
  case no_tab => exact absent (by decide) (by decide)
  case no_null => exact absent (by decide) (by decide)
  case shows => exact shows
  case blamed => exact ⟨position, text, blames⟩
  case blames_iff =>
    intro other otherText
    refine ⟨readLine?_of_blames, ?_⟩
    intro read
    rw [readLine?_of_blames blames, Option.some.injEq, Prod.mk.injEq] at read
    obtain ⟨rfl, rfl⟩ := read
    exact blames

/-- Whatever its arguments hold, a rejected command line is answered by one line of characters that
show, from which the position and the text of the argument to blame can be read back.  So two
command lines with different arguments to blame are answered by different lines. -/
theorem rejection_tells_argument :
    (∀ arguments, (ofArguments arguments).exitCode = 1 → TellsOnOneLine arguments) ∧
      ∀ left right leftPosition rightPosition leftText rightText,
        Blames left leftPosition leftText → Blames right rightPosition rightText →
          (leftPosition, leftText) ≠ (rightPosition, rightText) →
            (ofArguments left).errors ≠ (ofArguments right).errors := by
  refine ⟨fun _ => tellsOnOneLine, ?_⟩
  intro left right leftPosition rightPosition leftText rightText left_blames right_blames differ
    same
  have read := readLine?_of_blames left_blames
  rw [same, readLine?_of_blames right_blames] at read
  exact differ (Option.some.inj read).symm

/-- An argument with a line feed in it is told from one with the two characters that a line feed is
written by. -/
theorem rejection_tells_argument_escaped :
    (ofArguments ["1\n"]).exitCode = 1 ∧ TellsOnOneLine ["1\n"] ∧
      Blames ["1\n"] 1 "1\n" ∧ Blames ["1\\n"] 1 "1\\n" ∧
      (ofArguments ["1\n"]).errors ≠ (ofArguments ["1\\n"]).errors := by
  have rejected : (ofArguments ["1\n"]).exitCode = 1 := by decide
  have feed_blamed : Blames ["1\n"] 1 "1\n" := .first ⟨rfl, rfl⟩
  have letter_blamed : Blames ["1\\n"] 1 "1\\n" := .first ⟨rfl, rfl⟩
  obtain ⟨tells, different⟩ := rejection_tells_argument
  exact ⟨rejected, tells _ rejected, feed_blamed, letter_blamed,
    different _ _ _ _ _ _ feed_blamed letter_blamed (by decide)⟩

end Report
end ZeroTail
