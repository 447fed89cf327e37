import RoomSearch.Text.Hex

/-!
# Universally unique identifiers

An identifier is thirty-two hexadecimal digits.  It is written in lower case in five groups joined
by hyphens.  It is read in either case, also without hyphens, between braces, or with the resource
name `urn:uuid:` in front.

## Main definitions

* `Uuid` — thirty-two hexadecimal digits.
* `Uuid.toText` — the written form.
* `Uuid.ofText?` — reads any of the four forms.

## Main results

* `Uuid.ofText?_toText` — reading the written form gives the identifier back.
-/

namespace RoomSearch

open Text

/-- An identifier of thirty-two hexadecimal digits. -/
structure Uuid where
  /-- The digits, the most significant first. -/
  digits : List (Fin 16)
  /-- There are thirty-two of them. -/
  length_digits : digits.length = 32
deriving DecidableEq, Repr

namespace Uuid

/-- The lengths of the groups before the last one. -/
def groupLengths : List Nat := [8, 4, 4, 4]

/-- Joins groups of the given lengths, and the rest as a last group, by hyphens. -/
def hyphenate (lengths : List Nat) (cs : List Char) : List Char :=
  match lengths with
  | [] => cs
  | n :: rest => cs.take n ++ '-' :: hyphenate rest (cs.drop n)

/-- Takes the hyphens out that follow groups of the given lengths. -/
def unhyphenate? (lengths : List Nat) (cs : List Char) : Option (List Char) :=
  match lengths with
  | [] => some cs
  | n :: rest =>
    match cs.drop n with
    | '-' :: tail => (unhyphenate? rest tail).map (cs.take n ++ ·)
    | _ => none

/-- The identifier with these digits, of either case. -/
def ofDigits? (cs : List Char) : Option Uuid := do
  let digits ← cs.mapM hexValue?
  if h : digits.length = 32 then some ⟨digits, h⟩ else none

/-- The digits and hyphens inside the braces or behind the resource name, if there are any. -/
def unwrap (cs : List Char) : List Char :=
  match cs with
  | '\x7b' :: rest => if rest.getLast? = some '\x7d' then rest.dropLast else cs
  | 'u' :: 'r' :: 'n' :: ':' :: 'u' :: 'u' :: 'i' :: 'd' :: ':' :: rest => rest
  | _ => cs

/-- Reads an identifier: thirty-two digits in a row, or in hyphenated groups, which may stand
between braces or behind the resource name. -/
def ofText? (s : String) : Option Uuid :=
  let cs := s.toList
  -- thirty-two characters are digits in a row: with hyphens there would be more
  if cs.length = 32 then ofDigits? cs
  else (unhyphenate? groupLengths (unwrap cs)).bind ofDigits?

/-- The written form: lower case digits in five hyphenated groups. -/
def toText (u : Uuid) : String :=
  String.ofList (hyphenate groupLengths (u.digits.map hexDigit))

/-! ### Reading the written form -/

theorem length_hyphenate (lengths : List Nat) (cs : List Char) :
    (hyphenate lengths cs).length = cs.length + lengths.length := by
  induction lengths generalizing cs with
  | nil => rfl
  | cons n rest ih =>
    simp only [hyphenate, List.length_append, List.length_cons, ih, List.length_take,
      List.length_drop]
    omega

theorem unhyphenate?_hyphenate {lengths : List Nat} {cs : List Char}
    (h : lengths.foldr Nat.add 0 ≤ cs.length) :
    unhyphenate? lengths (hyphenate lengths cs) = some cs := by
  induction lengths generalizing cs with
  | nil => rfl
  | cons n rest ih =>
    have hsum : n + rest.foldr Nat.add 0 ≤ cs.length := h
    have hlength : (cs.take n).length = n := List.length_take_of_le (by omega)
    have hrest : rest.foldr Nat.add 0 ≤ (cs.drop n).length := by
      rw [List.length_drop]
      omega
    simp only [hyphenate, unhyphenate?, List.drop_left' hlength, List.take_left' hlength, ih hrest,
      Option.map_some, List.take_append_drop]

/-- Digits stand neither between braces nor behind the resource name. -/
theorem unwrap_hexDigit (d : Fin 16) (rest : List Char) :
    unwrap (hexDigit d :: rest) = hexDigit d :: rest := by
  have hbrace : hexDigit d ≠ '\x7b' := by revert d; decide
  have hname : hexDigit d ≠ 'u' := by revert d; decide
  unfold unwrap
  split
  · rename_i heq
    exact absurd (List.cons.inj heq).1 hbrace
  · rename_i heq
    exact absurd (List.cons.inj heq).1 hname
  · rfl

theorem mapM_hexValue? (digits : List (Fin 16)) :
    (digits.map hexDigit).mapM hexValue? = some digits := by
  induction digits with
  | nil => rfl
  | cons d digits ih => simp [List.mapM_cons, ih]

/-- **Reading the written form** gives the identifier back. -/
@[simp] theorem ofText?_toText (u : Uuid) : ofText? u.toText = some u := by
  obtain ⟨digits, hlength⟩ := u
  have hdigits : ofDigits? (digits.map hexDigit) = some ⟨digits, hlength⟩ := by
    simp only [ofDigits?, mapM_hexValue?, Option.bind_eq_bind, Option.bind_some, hlength, dite_true]
  have hsum : groupLengths.foldr Nat.add 0 ≤ (digits.map hexDigit).length := by
    rw [List.length_map, hlength]
    decide
  have hne : (hyphenate groupLengths (digits.map hexDigit)).length ≠ 32 := by
    rw [length_hyphenate, List.length_map, hlength]
    decide
  have hwrapped : unwrap (hyphenate groupLengths (digits.map hexDigit)) =
      hyphenate groupLengths (digits.map hexDigit) := by
    cases digits with
    | nil => cases hlength
    | cons d digits => exact unwrap_hexDigit d _
  simp only [ofText?, toText, String.toList_ofList, if_neg hne, hwrapped,
    unhyphenate?_hyphenate hsum, Option.bind_some, hdigits]

end Uuid

end RoomSearch
