import RoomSearch.Json.Value

/-!
# The compact text of a value

A value is written without blanks.  In a quoted text only the quote, the backslash and the
characters below the space are escaped, the latter by a letter where there is one and by a number
of four digits where there is none; everything else stands for itself.

## Main definitions

* `Token.written` — the text of one token.
* `Value.compact` — the text of a value.
-/

namespace RoomSearch.Json

open Text

/-- How a character stands in a quoted text. -/
def writtenChar (c : Char) : List Char :=
  if c = '\"' then ['\\', '\"']
  else if c = '\\' then ['\\', '\\']
  else if c = '\x08' then ['\\', 'b']
  else if c = '\x0c' then ['\\', 'f']
  else if c = '\n' then ['\\', 'n']
  else if c = '\r' then ['\\', 'r']
  else if c = '\t' then ['\\', 't']
  else if c < ' ' then
    ['\\', 'u', '0', '0', hexDigit (lastHexDigit (c.toNat / 16)), hexDigit (lastHexDigit c.toNat)]
  else [c]

/-- The text between its quotes.  A text with an unpaired surrogate is written as one. -/
def writtenText (s : Option String) : List Char :=
  match s with
  | some s => '\"' :: s.toList.flatMap writtenChar ++ ['\"']
  | none => ['\"', '\\', 'u', 'd', '8', '0', '0', '\"']

/-- The digits of a number: at least one stands before the point. -/
def Number.writtenDigits (n : Number) : List Char :=
  let ds := Nat.toDigits 10 n.digits
  match n.places with
  | none => ds
  | some places =>
    let padded := List.replicate (places + 1 - ds.length) '0' ++ ds
    padded.take (padded.length - places) ++ '.' :: padded.drop (padded.length - places)

/-- The exponent of a number. -/
def Number.writtenExponent (n : Number) : List Char :=
  match n.exponent with
  | none => []
  | some (.ofNat e) => 'e' :: Nat.toDigits 10 e
  | some (.negSucc e) => 'e' :: '-' :: Nat.toDigits 10 (e + 1)

/-- A text of the number. -/
def Number.written (n : Number) : List Char :=
  (if n.negative then ['-'] else []) ++ n.writtenDigits ++ n.writtenExponent

/-- A text of the token. -/
def Token.written : Token → List Char
  | .openObject => ['\x7b']
  | .closeObject => ['\x7d']
  | .openArray => ['[']
  | .closeArray => [']']
  | .colon => [':']
  | .comma => [',']
  | .null => "null".toList
  | .bool true => "true".toList
  | .bool false => "false".toList
  | .number n => n.written
  | .text s => writtenText s

/-- The compact text of a value. -/
def Value.compact (v : Value) : String := String.ofList (v.tokens.flatMap Token.written)

end RoomSearch.Json
