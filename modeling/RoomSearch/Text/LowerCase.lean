import RoomSearch.Unicode.Cased
import RoomSearch.Unicode.LowerCase

/-!
# Text in lower case

A text is lowered character by character, with two exceptions.  The capital I with a dot above
becomes two characters, the small i and a combining dot.  The capital sigma has two lower case
forms: the final one ends a word, the other one stands everywhere else.  Whether a word ends is
decided from the neighbours in the *unlowered* text: the nearest character before that is not
case-ignorable must be cased, and the nearest one after must not be.

Since a text is lowered as a whole, lowering does not commute with taking initial segments: a
sigma that ends a segment may stand inside the whole text.

## Main definitions

* `lowered` — the text in lower case.
* `sigmaForm` — the form of the sigma between two given neighbourhoods.
-/

namespace RoomSearch.Text

open Unicode

/-- Whether the first character that is not case-ignorable is there and is cased. -/
def meetsCased (cs : List Char) : Bool :=
  match cs.dropWhile isCaseIgnorable with
  | c :: _ => isCased c
  | [] => false

/-- The lower case form of a capital sigma.  `before` holds the characters before it, the nearest
first, and `after` the characters behind it. -/
def sigmaForm (before after : List Char) : Char :=
  if meetsCased before && !meetsCased after then 'ς' else 'σ'

/-- The lower case form of `c` between its neighbours; `before` has the nearest first. -/
def loweredChar (before : List Char) (c : Char) (after : List Char) : List Char :=
  if c = 'Σ' then [sigmaForm before after]
  else if c = 'İ' then ['i', '\u0307']
  else [lowerCase c]

/-- The rest of a text in lower case, `before` being what precedes it, the nearest first. -/
def loweredFrom (before : List Char) : List Char → List Char
  | [] => []
  | c :: after => loweredChar before c after ++ loweredFrom (c :: before) after

/-- The text in lower case. -/
def lowered (s : String) : String := String.ofList (loweredFrom [] s.toList)

end RoomSearch.Text
