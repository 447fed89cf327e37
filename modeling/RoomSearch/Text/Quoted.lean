import RoomSearch.Text.Hex
import RoomSearch.Unicode.Printable

/-!
# Quoted text for a reader

A text is shown between double quotes so that every character can be told apart: quotes,
backslashes and the usual controls have short escapes, and characters that show nothing of their
own or join the one before them are written by their numbers.

## Main definitions

* `quotedChar` — how one character stands between the quotes.
* `quoted` — the whole text with its quotes.
-/

namespace RoomSearch.Text

open Unicode

/-- The character by its number, as in `\u{301}`. -/
def numberEscape (c : Char) : List Char :=
  ['\\', 'u', '\x7b'] ++ hexNumeral c.toNat ++ ['\x7d']

/-- How a character stands between double quotes. -/
def quotedChar (c : Char) : List Char :=
  if c = '\x00' then ['\\', '0']
  else if c = '\t' then ['\\', 't']
  else if c = '\r' then ['\\', 'r']
  else if c = '\n' then ['\\', 'n']
  else if c = '\"' || c = '\\' then ['\\', c]
  else if isGraphemeExtend c || !isPrintable c then numberEscape c
  else [c]

/-- The text between double quotes, every character readable. -/
def quoted (s : String) : String :=
  String.ofList ('\"' :: s.toList.flatMap quotedChar ++ ['\"'])

end RoomSearch.Text
