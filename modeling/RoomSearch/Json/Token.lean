import RoomSearch.Json.Number
import RoomSearch.Text.Hex

/-!
# Tokens of the data format

A data text is a sequence of tokens with blanks between them.  The blanks are the space, the
tabulator, the line feed and the carriage return.

A quoted text is a sequence of characters and of sixteen-bit units given by their numbers.  Two
units that form a surrogate pair stand for one character.  A surrogate that is not part of a pair
stands for no character at all; such a token is still a token, and it is up to its reader whether
the text in it is needed.

## Main definitions

* `Token` — brackets, separators, names, numbers and quoted texts.
* `Token.next?` — the token at the head of a text.
* `Token.scan?` — all tokens of a text.

## Main results

* `Token.length_next?` — what is left behind a token is shorter, which is why scanning ends.
-/

namespace RoomSearch.Json

open Text

/-- A token.  The payload of a quoted text is absent if it holds an unpaired surrogate. -/
inductive Token where
  /-- The brace that opens an object. -/
  | openObject
  /-- The brace that closes an object. -/
  | closeObject
  /-- The bracket that opens an array. -/
  | openArray
  /-- The bracket that closes an array. -/
  | closeArray
  /-- The colon between a key and its value. -/
  | colon
  /-- The comma between two items or two members. -/
  | comma
  /-- The absent value. -/
  | null
  /-- A truth value. -/
  | bool (value : Bool)
  /-- A number. -/
  | number (value : Number)
  /-- A quoted text. -/
  | text (value : Option String)
deriving DecidableEq, Repr

namespace Token

/-- The characters that may stand between tokens. -/
def isBlank (c : Char) : Bool := c = ' ' || c = '\t' || c = '\n' || c = '\r'

/-! ### Numbers -/

/-- A nonempty run of digits at the head of the text, and what follows it. -/
def digits? (cs : List Char) : Option (List Char × List Char) :=
  match cs.takeWhile Char.isDigit with
  | [] => none
  | ds => some (ds, cs.dropWhile Char.isDigit)

/-- The numeral that digits make. -/
def numeral (ds : List Char) : Nat := Nat.ofDigitChars 10 ds 0

/-- The digits before the point: a zero alone, or a run that begins with another digit. -/
def whole? (cs : List Char) : Option (List Char × List Char) :=
  match cs with
  | '0' :: rest => some (['0'], rest)
  | _ => digits? cs

/-- The digits behind the point, if there is a point. -/
def fraction? (cs : List Char) : Option (Option (List Char) × List Char) :=
  match cs with
  | '.' :: rest => (digits? rest).map fun (ds, rest) => (some ds, rest)
  | _ => some (none, cs)

/-- The exponent, if there is one. -/
def exponent? (cs : List Char) : Option (Option Int × List Char) :=
  match cs with
  | e :: rest =>
    if e = 'e' || e = 'E' then
      match rest with
      | '-' :: rest => (digits? rest).map fun (ds, rest) => (some (-(numeral ds : Int)), rest)
      | '+' :: rest => (digits? rest).map fun (ds, rest) => (some (numeral ds : Int), rest)
      | _ => (digits? rest).map fun (ds, rest) => (some (numeral ds : Int), rest)
    else some (none, cs)
  | [] => some (none, cs)

/-- The number at the head of the text, its sign having been read. -/
def unsigned? (negative : Bool) (cs : List Char) : Option (Number × List Char) := do
  let (whole, cs) ← whole? cs
  let (fraction, cs) ← fraction? cs
  let (exponent, cs) ← exponent? cs
  some (⟨negative, numeral (whole ++ fraction.getD []), fraction.map List.length, exponent⟩, cs)

/-- The number at the head of the text, and what follows it. -/
def number? (cs : List Char) : Option (Number × List Char) :=
  match cs with
  | '-' :: rest => unsigned? true rest
  | _ => unsigned? false cs

/-! ### Quoted texts -/

/-- A part of a quoted text: a character, or a sixteen-bit unit given by its number. -/
inductive Part where
  /-- A character. -/
  | char (c : Char)
  /-- A unit. -/
  | unit (n : Nat)

/-- The character that a one-letter escape stands for. -/
def escaped? (c : Char) : Option Char :=
  match c with
  | '\"' => some '\"'
  | '\\' => some '\\'
  | '/' => some '/'
  | 'b' => some '\x08'
  | 'f' => some '\x0c'
  | 'n' => some '\n'
  | 'r' => some '\r'
  | 't' => some '\t'
  | _ => none

/-- The number of four hexadecimal digits. -/
def unit? (a b c d : Char) : Option Nat := do
  let a ← hexValue? a
  let b ← hexValue? b
  let c ← hexValue? c
  let d ← hexValue? d
  some (((a.val * 16 + b.val) * 16 + c.val) * 16 + d.val)

/-- The parts up to the closing quote, and what follows it.  A character below the space does not
stand for itself. -/
def parts? (cs : List Char) : Option (List Part × List Char) :=
  match cs with
  | [] => none
  | '\"' :: rest => some ([], rest)
  | '\\' :: 'u' :: a :: b :: c :: d :: rest => do
    let n ← unit? a b c d
    let (parts, rest) ← parts? rest
    some (.unit n :: parts, rest)
  | '\\' :: e :: rest => do
    let c ← escaped? e
    let (parts, rest) ← parts? rest
    some (.char c :: parts, rest)
  | c :: rest =>
    if c < ' ' || c = '\\' then none
    else do
      let (parts, rest) ← parts? rest
      some (.char c :: parts, rest)

/-- Whether the unit is the first half of a surrogate pair. -/
def isLeading (n : Nat) : Bool := 0xD800 ≤ n && n ≤ 0xDBFF

/-- Whether the unit is the second half of a surrogate pair. -/
def isTrailing (n : Nat) : Bool := 0xDC00 ≤ n && n ≤ 0xDFFF

/-- The character that a surrogate pair stands for. -/
def pairChar (leading trailing : Nat) : Char :=
  Char.ofNat (0x10000 + (leading - 0xD800) * 0x400 + (trailing - 0xDC00))

/-- The characters the parts stand for; none if a surrogate is unpaired. -/
def joined? : List Part → Option (List Char)
  | [] => some []
  | .char c :: rest => (joined? rest).map (c :: ·)
  | .unit n :: rest =>
    if isLeading n then
      match rest with
      | .unit m :: rest => if isTrailing m then (joined? rest).map (pairChar n m :: ·) else none
      | _ => none
    else if isTrailing n then none
    else (joined? rest).map (Char.ofNat n :: ·)

/-- The quoted text whose opening quote has been read, and what follows it. -/
def text? (cs : List Char) : Option (Option String × List Char) :=
  (parts? cs).map fun (parts, rest) => ((joined? parts).map String.ofList, rest)

/-! ### Scanning -/

/-- The token at the head of the text, and what follows it. -/
def next? (cs : List Char) : Option (Token × List Char) :=
  match cs with
  | '\x7b' :: rest => some (.openObject, rest)
  | '\x7d' :: rest => some (.closeObject, rest)
  | '[' :: rest => some (.openArray, rest)
  | ']' :: rest => some (.closeArray, rest)
  | ':' :: rest => some (.colon, rest)
  | ',' :: rest => some (.comma, rest)
  | 'n' :: 'u' :: 'l' :: 'l' :: rest => some (.null, rest)
  | 't' :: 'r' :: 'u' :: 'e' :: rest => some (.bool true, rest)
  | 'f' :: 'a' :: 'l' :: 's' :: 'e' :: rest => some (.bool false, rest)
  | '\"' :: rest => (text? rest).map fun (value, rest) => (.text value, rest)
  | _ => (number? cs).map fun (value, rest) => (.number value, rest)

/-! ### What is left is shorter

Every reader above takes something off the head of the text, which is why scanning ends. -/

/-- A run of digits takes at least one character. -/
theorem length_digits? {cs ds rest : List Char} (h : digits? cs = some (ds, rest)) :
    rest.length < cs.length := by
  unfold digits? at h
  split at h
  · cases h
  · rename_i hne
    cases h
    -- the run and what follows it make up the text, and the run is not empty
    have hsplit := congrArg List.length
      (List.takeWhile_append_dropWhile (p := Char.isDigit) (l := cs))
    have hpos := List.length_pos_iff.mpr hne
    simp only [List.length_append] at hsplit
    omega

/-- The digits before the point take at least one character. -/
theorem length_whole? {cs ds rest : List Char} (h : whole? cs = some (ds, rest)) :
    rest.length < cs.length := by
  unfold whole? at h
  split at h
  · cases h; simp
  · exact length_digits? h

/-- The digits behind the point take no character back. -/
theorem length_fraction? {cs rest : List Char} {ds : Option (List Char)}
    (h : fraction? cs = some (ds, rest)) : rest.length ≤ cs.length := by
  unfold fraction? at h
  split at h
  · obtain ⟨⟨ds, r⟩, hd, hr⟩ := Option.map_eq_some_iff.mp h
    cases hr
    have := length_digits? hd
    simp only [List.length_cons]
    omega
  · cases h; exact Nat.le_refl _

/-- The exponent takes no character back. -/
theorem length_exponent? {cs rest : List Char} {e : Option Int}
    (h : exponent? cs = some (e, rest)) : rest.length ≤ cs.length := by
  unfold exponent? at h
  split at h
  · split at h
    · split at h <;>
      · obtain ⟨⟨ds, r⟩, hd, hr⟩ := Option.map_eq_some_iff.mp h
        cases hr
        have := length_digits? hd
        simp only [List.length_cons] at this ⊢
        omega
    · cases h; exact Nat.le_refl _
  · cases h; exact Nat.le_refl _

/-- A number without its sign takes at least one character. -/
theorem length_unsigned? {b : Bool} {cs rest : List Char} {n : Number}
    (h : unsigned? b cs = some (n, rest)) : rest.length < cs.length := by
  simp only [unsigned?, Option.bind_eq_bind, Option.bind_eq_some_iff] at h
  -- what is left behind each of the three parts
  obtain ⟨⟨whole, r₁⟩, hw, ⟨fraction, r₂⟩, hf, ⟨exponent, r₃⟩, he, hr⟩ := h
  cases hr
  have : r₁.length < cs.length := length_whole? hw
  have : r₂.length ≤ r₁.length := length_fraction? hf
  have : r₃.length ≤ r₂.length := length_exponent? he
  show r₃.length < cs.length
  omega

/-- A number takes at least one character. -/
theorem length_number? {cs rest : List Char} {n : Number} (h : number? cs = some (n, rest)) :
    rest.length < cs.length := by
  unfold number? at h
  split at h
  · have := length_unsigned? h
    simp only [List.length_cons]
    omega
  · exact length_unsigned? h

/-- The parts of a quoted text take at least the closing quote. -/
theorem length_parts? {cs rest : List Char} {ps : List Part} (h : parts? cs = some (ps, rest)) :
    rest.length < cs.length := by
  fun_induction parts? cs generalizing ps with
  | case1 => cases h
  | case2 => cases h; simp
  | case3 a b c d tail ih =>
    simp only [Option.bind_eq_bind, Option.bind_eq_some_iff] at h
    obtain ⟨n, -, ⟨parts, r⟩, hp, hr⟩ := h
    cases hr
    have : r.length < tail.length := ih hp
    simp only [List.length_cons]
    omega
  | case4 e tail _ ih =>
    simp only [Option.bind_eq_bind, Option.bind_eq_some_iff] at h
    obtain ⟨c, -, ⟨parts, r⟩, hp, hr⟩ := h
    cases hr
    have : r.length < tail.length := ih hp
    simp only [List.length_cons]
    omega
  | case5 => cases h
  | case6 c tail _ _ _ _ ih =>
    simp only [Option.bind_eq_bind, Option.bind_eq_some_iff] at h
    obtain ⟨⟨parts, r⟩, hp, hr⟩ := h
    cases hr
    have : r.length < tail.length := ih hp
    simp only [List.length_cons]
    omega

/-- A token takes at least one character. -/
theorem length_next? {cs rest : List Char} {t : Token} (h : next? cs = some (t, rest)) :
    rest.length < cs.length := by
  unfold next? at h
  split at h
  case h_10 =>
    obtain ⟨⟨value, r⟩, hp, hr⟩ := Option.map_eq_some_iff.mp h
    cases hr
    obtain ⟨⟨parts, r'⟩, hp, hr⟩ := Option.map_eq_some_iff.mp hp
    cases hr
    have := length_parts? hp
    simp only [List.length_cons]
    omega
  case h_11 =>
    obtain ⟨⟨value, r⟩, hn, hr⟩ := Option.map_eq_some_iff.mp h
    cases hr
    exact length_number? hn
  all_goals
    cases h
    simp only [List.length_cons]
    omega

/-- All tokens of a text; none if something in it is no token. -/
def scan? (cs : List Char) : Option (List Token) :=
  match cs with
  | [] => some []
  | c :: tail =>
    if isBlank c then scan? tail
    else
      match h : next? (c :: tail) with
      | none => none
      | some (token, rest) =>
        have := length_next? h
        (scan? rest).map (token :: ·)
termination_by cs.length
decreasing_by
  · exact Nat.lt_succ_self tail.length
  · exact this

end Token

end RoomSearch.Json
