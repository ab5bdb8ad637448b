import ZeroTail.Text.Hex
import ZeroTail.Text.Hidden

/-!
# Quoted text

A text is quoted so that it stays on one line and every character of it can be told.  Quotes and
backslashes are marked by a backslash, four control characters have a letter, any other character
that does not show is written by its code point, and all others stand for themselves.
-/

namespace ZeroTail
namespace Text

/-- The letter that stands after a backslash for a character, if it has one. -/
def escapeLetter? (character : Char) : Option Char :=
  if character = '\"' then some '\"'
  else if character = '\\' then some '\\'
  else if character = '\t' then some 't'
  else if character = '\r' then some 'r'
  else if character = '\n' then some 'n'
  else if character = '\x00' then some '0'
  else none

/-- The written form of a character between quotes. -/
def escape (character : Char) : List Char :=
  match escapeLetter? character with
  | some letter => ['\\', letter]
  | none =>
      if isHidden character then
        '\\' :: 'u' :: '\x7b' :: hexDigits character.toNat ++ ['\x7d']
      else
        [character]

/-- A text between quotes, every character in its written form. -/
def quote (text : String) : String :=
  String.ofList ('\"' :: text.toList.flatMap escape ++ ['\"'])

end Text
end ZeroTail
