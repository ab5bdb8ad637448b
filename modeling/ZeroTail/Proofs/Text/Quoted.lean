import ZeroTail.Text.Quoted

/-!
# Quoted text is read back

Every character of a quoted text shows, so the text can break no line.  The quoted form is also
self-delimiting: a reader that goes through it once, without looking ahead, stops at the quote that
closes it and has the text by then, whatever stands behind that quote.
-/

namespace ZeroTail
namespace Text

/-! ## Characters that show -/

/-- Whether a character stands between the space and the tilde. -/
def isPlain (character : Char) : Bool :=
  decide (0x20 ≤ character.toNat) && decide (character.toNat ≤ 0x7e)

theorem hiddenRanges_outside : ∀ range ∈ hiddenRanges, range.2 < 0x20 ∨ 0x7e < range.1 := by
  decide +kernel

theorem isHidden_of_isPlain {character : Char} (plain : isPlain character = true) :
    isHidden character = false := by
  rw [isPlain, Bool.and_eq_true, decide_eq_true_eq, decide_eq_true_eq] at plain
  rw [isHidden, List.any_eq_false]
  rintro ⟨first, last⟩ range_mem
  have outside : last < 0x20 ∨ 0x7e < first := hiddenRanges_outside _ range_mem
  simp only [Bool.and_eq_true, decide_eq_true_eq, not_and]
  omega

theorem forall_shows_of_all_isPlain {characters : List Char}
    (plain : characters.all isPlain = true) :
    ∀ character ∈ characters, isHidden character = false := by
  intro character character_mem
  exact isHidden_of_isPlain (List.all_eq_true.mp plain character character_mem)

theorem exists_digitChar_of_mem_hexDigits {number : Nat} {digit : Char}
    (digit_mem : digit ∈ hexDigits number) : ∃ value < 16, digit = value.digitChar := by
  induction number using hexDigits.induct with
  | case1 number small =>
      rw [hexDigits_of_lt small, List.mem_singleton] at digit_mem
      exact ⟨number, small, digit_mem⟩
  | case2 number large ih =>
      rw [hexDigits_of_le (Nat.not_lt.mp large)] at digit_mem
      rcases List.mem_append.mp digit_mem with earlier_mem | last_mem
      · exact ih earlier_mem
      · exact ⟨number % 16, Nat.mod_lt _ (by decide), List.mem_singleton.mp last_mem⟩

theorem hexDigits_show (number : Nat) : ∀ digit ∈ hexDigits number, isHidden digit = false := by
  have plain : ∀ value < 16, isPlain value.digitChar = true := by decide
  intro digit digit_mem
  obtain ⟨value, value_lt, rfl⟩ := exists_digitChar_of_mem_hexDigits digit_mem
  exact isHidden_of_isPlain (plain value value_lt)

/-! ## Characters written by a letter -/

/-- The characters that are written by a letter, each with its letter. -/
def escapeLetters : List (Char × Char) :=
  [('\"', '\"'), ('\\', '\\'), ('\t', 't'), ('\r', 'r'), ('\n', 'n'), ('\x00', '0')]

theorem mem_escapeLetters {character letter : Char}
    (letter_eq : escapeLetter? character = some letter) : (character, letter) ∈ escapeLetters := by
  unfold escapeLetter? at letter_eq
  grind [escapeLetters]

/-- The character that a letter after a backslash stands for, if it stands for one. -/
def ofEscapeLetter? (letter : Char) : Option Char :=
  (escapeLetters.find? fun pair => pair.2 == letter).map fun pair => pair.1

theorem ofEscapeLetter?_of_mem {character letter : Char}
    (pair_mem : (character, letter) ∈ escapeLetters) :
    ofEscapeLetter? letter = some character := by
  have inverse : ∀ pair ∈ escapeLetters, ofEscapeLetter? pair.2 = some pair.1 := by decide
  exact inverse _ pair_mem

theorem ne_u_of_mem {character letter : Char} (pair_mem : (character, letter) ∈ escapeLetters) :
    letter ≠ 'u' := by
  have others : ∀ pair ∈ escapeLetters, pair.2 ≠ 'u' := by decide
  exact others _ pair_mem

/-! ## Quoted text shows -/

theorem code_shows (number : Nat) :
    ∀ written ∈ ['\\', 'u', '\x7b'] ++ hexDigits number ++ ['\x7d'], isHidden written = false := by
  rw [List.forall_mem_append, List.forall_mem_append]
  exact ⟨⟨forall_shows_of_all_isPlain rfl, hexDigits_show number⟩,
    forall_shows_of_all_isPlain rfl⟩

/-- No written form has a character that does not show. -/
theorem escape_shows (character : Char) :
    ∀ written ∈ escape character, isHidden written = false := by
  unfold escape
  cases letter_eq : escapeLetter? character with
  | some letter =>
      have plain : ∀ pair ∈ escapeLetters, ['\\', pair.2].all isPlain = true := by decide
      exact forall_shows_of_all_isPlain (plain _ (mem_escapeLetters letter_eq))
  | none =>
      by_cases hidden : isHidden character = true
      · simp only [if_pos hidden]
        exact code_shows character.toNat
      · simp only [if_neg hidden]
        rw [List.forall_mem_singleton]
        exact eq_false_of_ne_true hidden

theorem quote_shows (text : String) :
    ∀ written ∈ (quote text).toList, isHidden written = false := by
  have quote_mark_shows : isHidden '\"' = false := isHidden_of_isPlain rfl
  intro written written_mem
  rw [quote, String.toList_ofList, List.cons_append, List.mem_cons, List.mem_append,
    List.mem_singleton, List.mem_flatMap] at written_mem
  rcases written_mem with rfl | ⟨character, -, form_mem⟩ | rfl
  · exact quote_mark_shows
  · exact escape_shows character written form_mem
  · exact quote_mark_shows

/-! ## Reading -/

/-- Where a reader stands within a quoted text. -/
inductive Place
  /-- Between two written forms. -/
  | between
  /-- Behind a backslash. -/
  | marked
  /-- Behind the letter that code points are written with. -/
  | announced
  /-- Behind digits of a code point, which make up a number. -/
  | within (number : Nat)

/-- The value of a hexadecimal digit. -/
def hexValue? (digit : Char) : Option Nat :=
  (List.range 16).find? fun value => value.digitChar == digit

/-- Put a character before the text that was read, and leave the rest. -/
def putBefore (character : Char) : List Char × List Char → List Char × List Char
  | (text, rest) => (character :: text, rest)

/-- Read a quoted text from a place in it on, up to the quote that closes it. The reader gives the
text and what stands behind that quote. -/
def readQuoted : Place → List Char → Option (List Char × List Char)
  | _, [] => none
  | .between, first :: later =>
      if first = '\"' then some ([], later)
      else if first = '\\' then readQuoted .marked later
      else (readQuoted .between later).map (putBefore first)
  | .marked, letter :: later =>
      if letter = 'u' then
        readQuoted .announced later
      else
        match ofEscapeLetter? letter with
        | some character => (readQuoted .between later).map (putBefore character)
        | none => none
  | .announced, brace :: later => if brace = '\x7b' then readQuoted (.within 0) later else none
  | .within number, digit :: later =>
      if digit = '\x7d' then
        (readQuoted .between later).map (putBefore (Char.ofNat number))
      else
        match hexValue? digit with
        | some value => readQuoted (.within (number * 16 + value)) later
        | none => none

theorem readQuoted_closed (later : List Char) :
    readQuoted .between ('\"' :: later) = some ([], later) := rfl

theorem readQuoted_letter {character letter : Char}
    (pair_mem : (character, letter) ∈ escapeLetters) (later : List Char) :
    readQuoted .between ('\\' :: letter :: later) =
      (readQuoted .between later).map (putBefore character) := by
  rw [readQuoted, if_neg (by decide), if_pos rfl, readQuoted, if_neg (ne_u_of_mem pair_mem),
    ofEscapeLetter?_of_mem pair_mem]

theorem readQuoted_itself {character : Char} (unlettered : escapeLetter? character = none)
    (later : List Char) :
    readQuoted .between (character :: later) =
      (readQuoted .between later).map (putBefore character) := by
  have not_quote : character ≠ '\"' := by
    rintro rfl
    exact absurd unlettered (by decide)
  have not_backslash : character ≠ '\\' := by
    rintro rfl
    exact absurd unlettered (by decide)
  rw [readQuoted, if_neg not_quote, if_neg not_backslash]

theorem readQuoted_digit {value : Nat} (value_lt : value < 16) (number : Nat) (later : List Char) :
    readQuoted (.within number) (value.digitChar :: later) =
      readQuoted (.within (number * 16 + value)) later := by
  have not_brace : ∀ value < 16, value.digitChar ≠ '\x7d' := by decide
  have value_eq : ∀ value < 16, hexValue? value.digitChar = some value := by decide
  rw [readQuoted, if_neg (not_brace value value_lt), value_eq value value_lt]

theorem readQuoted_hexDigits (number : Nat) (later : List Char) :
    readQuoted (.within 0) (hexDigits number ++ later) = readQuoted (.within number) later := by
  induction number using hexDigits.induct generalizing later with
  | case1 number small =>
      rw [hexDigits_of_lt small, List.singleton_append, readQuoted_digit small, Nat.zero_mul,
        Nat.zero_add]
  | case2 number large ih =>
      have number_eq : number / 16 * 16 + number % 16 = number := Nat.div_add_mod' number 16
      rw [hexDigits_of_le (Nat.not_lt.mp large), List.append_assoc, ih, List.singleton_append,
        readQuoted_digit (Nat.mod_lt _ (by decide)), number_eq]

theorem readQuoted_code (character : Char) (later : List Char) :
    readQuoted .between ('\\' :: 'u' :: '\x7b' :: hexDigits character.toNat ++ '\x7d' :: later) =
      (readQuoted .between later).map (putBefore character) := by
  rw [List.cons_append, List.cons_append, List.cons_append, readQuoted, if_neg (by decide),
    if_pos rfl, readQuoted, if_pos rfl, readQuoted, if_pos rfl, readQuoted_hexDigits, readQuoted,
    if_pos rfl, Char.ofNat_toNat]

/-- The written form of a character is read as the character. -/
theorem readQuoted_escape (character : Char) (later : List Char) :
    readQuoted .between (escape character ++ later) =
      (readQuoted .between later).map (putBefore character) := by
  unfold escape
  cases letter_eq : escapeLetter? character with
  | some letter => exact readQuoted_letter (mem_escapeLetters letter_eq) later
  | none =>
      by_cases hidden : isHidden character = true
      · simp only [if_pos hidden]
        rw [List.append_assoc, List.singleton_append]
        exact readQuoted_code character later
      · simp only [if_neg hidden]
        exact readQuoted_itself letter_eq later

/-- Read from behind the quote that opens it, a quoted text gives back its characters and what
follows it, whatever that is. -/
theorem readQuoted_quoted (text later : List Char) :
    readQuoted .between (text.flatMap escape ++ '\"' :: later) = some (text, later) := by
  induction text with
  | nil => exact readQuoted_closed later
  | cons character text ih =>
      rw [List.flatMap_cons, List.append_assoc, readQuoted_escape, ih]
      rfl

end Text
end ZeroTail
