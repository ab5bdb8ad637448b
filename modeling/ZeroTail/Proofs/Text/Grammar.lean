import Mathlib.Algebra.Group.Nat.Defs
import Mathlib.Data.List.TakeWhile
import ZeroTail.Text.Numeral

/-!
# The grammar of numerals

What reading comes to is decided by the text alone.  A text is read if it consists of digits, with
or without a plus sign before them, and their value fits in 64 bits.  The digits that stand before
the first other character decide between the two errors of all other texts with something in them:
too large a value of these digits is found before the other character is met.
-/

namespace ZeroTail
namespace Text
namespace Numeral

/-! ## Digits -/

/-- The value of digits, each counted at its place. -/
def placeValue : List Char → Nat
  | [] => 0
  | digit :: later => digitValue digit * 10 ^ later.length + placeValue later

theorem ofDigitChars_eq_placeValue (digits : List Char) :
    Nat.ofDigitChars 10 digits 0 = placeValue digits := by
  induction digits with
  | nil => rfl
  | cons digit later ih =>
      rw [Nat.ofDigitChars_cons, Nat.ofDigitChars_eq_ofDigitChars_zero, ih, Nat.mul_zero,
        Nat.zero_add, Nat.mul_comm, placeValue, digitValue]

theorem le_ofDigitChars (number : Nat) (digits : List Char) :
    number ≤ Nat.ofDigitChars 10 digits number := by
  induction digits generalizing number with
  | nil => exact Nat.le_refl number
  | cons digit later ih =>
      rw [Nat.ofDigitChars_cons]
      have longer_le := ih (10 * number + (digit.toNat - '0'.toNat))
      omega

/-- The digits that a text begins with. -/
def leadingDigits (text : List Char) : List Char :=
  text.takeWhile Char.isDigit

theorem leadingDigits_eq_self_iff {text : List Char} :
    leadingDigits text = text ↔ ∀ digit ∈ text, digit.isDigit = true :=
  List.takeWhile_eq_self_iff

/-- Too large a value of the leading digits is found before what follows them is met. -/
theorem readDigits_eq {number : Nat} (fits : number < bound) (text : List Char) :
    readDigits number text =
      if bound ≤ Nat.ofDigitChars 10 (leadingDigits text) number then .error .overflow
      else if leadingDigits text = text then .ok (Nat.ofDigitChars 10 text number)
      else .error .invalidDigit := by
  induction text generalizing number with
  | nil => simp [readDigits, leadingDigits, Nat.not_le.mpr fits]
  | cons digit later ih =>
      by_cases is_digit : digit.isDigit = true
      · have leading_eq : leadingDigits (digit :: later) = digit :: leadingDigits later :=
          List.takeWhile_cons_of_pos is_digit
        have longer_eq : 10 * number + (digit.toNat - '0'.toNat) =
            number * 10 + digitValue digit := by
          rw [Nat.mul_comm, digitValue]
        rw [leading_eq, Nat.ofDigitChars_cons, Nat.ofDigitChars_cons, longer_eq, readDigits,
          if_pos is_digit]
        simp only [List.cons.injEq, true_and]
        rcases Nat.lt_or_ge (number * 10 + digitValue digit) bound with longer_lt | longer_ge
        · rw [if_pos longer_lt, ih longer_lt]
        · -- The digits that follow only make the number larger.
          have value_ge := Nat.le_trans longer_ge (le_ofDigitChars _ (leadingDigits later))
          rw [if_neg (Nat.not_lt.mpr longer_ge), if_pos value_ge]
      · have leading_eq : leadingDigits (digit :: later) = [] :=
          List.takeWhile_cons_of_neg is_digit
        simp [leading_eq, readDigits, is_digit, Nat.not_le.mpr fits]

/-! ## Signs -/

/-- A text without one plus sign at its front. -/
def unsigned : List Char → List Char
  | '+' :: later => later
  | text => text

theorem unsigned_of_ne {first : Char} (no_sign : first ≠ '+') (later : List Char) :
    unsigned (first :: later) = first :: later := by
  unfold unsigned
  split
  · rename_i same
    exact absurd (List.cons.inj same).1 no_sign
  · rfl

theorem eq_unsigned_or_eq_cons (text : List Char) :
    text = unsigned text ∨ text = '+' :: unsigned text := by
  unfold unsigned
  split
  · exact Or.inr rfl
  · exact Or.inl rfl

theorem parse_of_unsigned_ne_nil {text : List Char} (some_after : unsigned text ≠ []) :
    parse text = readDigits 0 (unsigned text) := by
  cases text with
  | nil => contradiction
  | cons first later =>
      by_cases sign : first = '+'
      · subst sign
        cases later with
        | nil => contradiction
        | cons second later => rfl
      · rw [unsigned_of_ne sign, parse]
        · exact List.cons_ne_nil _ _
        · intro same
          exact sign (List.cons.inj same).1
        · intro _ same
          exact sign (List.cons.inj same).1

/-- A text consists of one or more digits, with at most one plus sign before them. -/
structure Spells (text digits : List Char) : Prop where
  nonempty : digits ≠ []
  all_digits : ∀ digit ∈ digits, digit.isDigit = true
  text_eq : text = digits ∨ text = '+' :: digits

theorem Spells.unsigned_eq {text digits : List Char} (spells : Spells text digits) :
    unsigned text = digits := by
  obtain ⟨nonempty, all_digits, rfl | rfl⟩ := spells
  · cases text with
    | nil => contradiction
    | cons first later =>
        apply unsigned_of_ne
        rintro rfl
        exact absurd (all_digits '+' List.mem_cons_self) (by decide)
  · rfl

/-! ## Outcomes -/

section Outcomes

variable {text digits : List Char}

theorem parse_of_spells (spells : Spells text digits) (fits : placeValue digits < bound) :
    parse text = .ok (placeValue digits) := by
  obtain rfl := spells.unsigned_eq
  have all_leading := leadingDigits_eq_self_iff.mpr spells.all_digits
  rw [parse_of_unsigned_ne_nil spells.nonempty, readDigits_eq (by decide), all_leading, if_pos rfl,
    ofDigitChars_eq_placeValue, if_neg (Nat.not_le.mpr fits)]

theorem parse_of_large (large : bound ≤ placeValue (leadingDigits (unsigned text))) :
    parse text = .error .overflow := by
  have some_after : unsigned text ≠ [] := by
    intro none_after
    rw [none_after] at large
    exact absurd large (by decide)
  rw [parse_of_unsigned_ne_nil some_after, readDigits_eq (by decide), ofDigitChars_eq_placeValue,
    if_pos large]

theorem parse_of_misspelt (nonempty : text ≠ [])
    (small : placeValue (leadingDigits (unsigned text)) < bound)
    (misspelt : ¬ ∃ digits, Spells text digits) : parse text = .error .invalidDigit := by
  rcases eq_or_ne (unsigned text) [] with none_after | some_after
  · -- The text is a plus sign with nothing after it.
    rcases eq_unsigned_or_eq_cons text with same | same
    · exact absurd (same.trans none_after) nonempty
    · rw [same, none_after]
      rfl
  · have not_leading : leadingDigits (unsigned text) ≠ unsigned text := by
      intro all_leading
      exact misspelt ⟨_, some_after, leadingDigits_eq_self_iff.mp all_leading,
        eq_unsigned_or_eq_cons text⟩
    rw [parse_of_unsigned_ne_nil some_after, readDigits_eq (by decide), ofDigitChars_eq_placeValue,
      if_neg (Nat.not_le.mpr small), if_neg not_leading]

end Outcomes

/-- What the grammar owes to a text: the number that it spells, or the error that tells why it
spells none. -/
inductive Owes (text : List Char) : Except Defect Nat → Prop
  | numeral {digits : List Char} (spells : Spells text digits) (fits : placeValue digits < bound) :
      Owes text (.ok (placeValue digits))
  | empty (text_eq : text = []) : Owes text (.error .empty)
  | large (large : bound ≤ placeValue (leadingDigits (unsigned text))) :
      Owes text (.error .overflow)
  | misspelt (nonempty : text ≠ []) (small : placeValue (leadingDigits (unsigned text)) < bound)
      (misspelt : ¬ ∃ digits, Spells text digits) : Owes text (.error .invalidDigit)

theorem exists_owes (text : List Char) : ∃ outcome, Owes text outcome := by
  rcases eq_or_ne text [] with text_eq | nonempty
  · exact ⟨_, .empty text_eq⟩
  · rcases Nat.lt_or_ge (placeValue (leadingDigits (unsigned text))) bound with small | large
    · by_cases spelt : ∃ digits, Spells text digits
      · obtain ⟨digits, spells⟩ := spelt
        rw [spells.unsigned_eq, leadingDigits_eq_self_iff.mpr spells.all_digits] at small
        exact ⟨_, .numeral spells small⟩
      · exact ⟨_, .misspelt nonempty small spelt⟩
    · exact ⟨_, .large large⟩

/-- Reading gives what is owed, and nothing else is. -/
theorem owes_iff {text : List Char} {outcome : Except Defect Nat} :
    Owes text outcome ↔ parse text = outcome := by
  have parse_eq {owed : Except Defect Nat} (owes : Owes text owed) : parse text = owed := by
    cases owes with
    | numeral spells fits => exact parse_of_spells spells fits
    | empty text_eq => rw [text_eq, parse]
    | large large => exact parse_of_large large
    | misspelt nonempty small misspelt => exact parse_of_misspelt nonempty small misspelt
  refine ⟨parse_eq, ?_⟩
  rintro rfl
  obtain ⟨owed, owes⟩ := exists_owes text
  rwa [parse_eq owes]

/-- What reading a text comes to, told by its grammar. -/
structure ReadByGrammar (text : List Char) : Prop where
  ok_iff (number : Nat) : parse text = .ok number ↔
    (∃ digits, Spells text digits ∧ placeValue digits = number) ∧ number < 2 ^ 64
  empty_iff : parse text = .error .empty ↔ text = []
  /-- What follows leading digits of too large a value is not looked at. -/
  overflow_iff : parse text = .error .overflow ↔
    2 ^ 64 ≤ placeValue (leadingDigits (unsigned text))
  /-- All other texts have a character out of place, or lack a digit after their sign. -/
  invalidDigit_iff : parse text = .error .invalidDigit ↔
    text ≠ [] ∧ placeValue (leadingDigits (unsigned text)) < 2 ^ 64 ∧ ¬ ∃ digits, Spells text digits

theorem readByGrammar (text : List Char) : ReadByGrammar text := by
  constructor
  case ok_iff =>
    intro number
    rw [← owes_iff]
    constructor
    · intro owes
      cases owes with
      | numeral spells fits => exact ⟨⟨_, spells, rfl⟩, fits⟩
    · rintro ⟨⟨digits, spells, rfl⟩, fits⟩
      exact .numeral spells fits
  case empty_iff =>
    rw [← owes_iff]
    constructor
    · intro owes
      cases owes with
      | empty text_eq => exact text_eq
    · exact .empty
  case overflow_iff =>
    rw [← owes_iff]
    constructor
    · intro owes
      cases owes with
      | large large => exact large
    · exact .large
  case invalidDigit_iff =>
    rw [← owes_iff]
    constructor
    · intro owes
      cases owes with
      | misspelt nonempty small misspelt => exact ⟨nonempty, small, misspelt⟩
    · rintro ⟨nonempty, small, misspelt⟩
      exact .misspelt nonempty small misspelt

-- A digit too many is found before a character that is no digit, but not after it.
example : parse "0018446744073709551616-".toList = .error .overflow := by rfl
example : parse "001844674407370955161-6".toList = .error .invalidDigit := by rfl

end Numeral
end Text
end ZeroTail
