import RoomSearch.Json.Text

/-!
# Scanning what is written

A token that is written is scanned as itself, whatever follows; only a number must not be followed
by a character that could belong to it.  So the tokens of a value may be written with any blanks
between them, and the text stands for that value: wherever a number stands in a value, a bracket, a
comma or the end follows.

## Main definitions

* `Token.Spaced` — a text in which tokens stand with blanks between them.
* `Value.Spells` — a text in which a value is written with any blanks.
* `Value.IsNatural` — all numbers in a value are natural ones.

## Main results

* `Token.text?_written` — **a quoted text** is read as what was quoted.
* `Token.next?_written` — a token is scanned as itself.
* `Token.scan?_of_spaced` — so are tokens with blanks between them.
* `Value.parse?_of_spells` — **a written value** stands for itself, whatever blanks it has.
-/

namespace RoomSearch.Json

open Text

namespace Token

/-! ### Quoted texts -/

/-- A part of a quoted text is read as the character, whatever follows. -/
def Part.IsRead (p : Part) (c : Char) : Prop :=
  ∀ rest, joined? (p :: rest) = (joined? rest).map (c :: ·)

theorem Part.isRead_char (c : Char) : (Part.char c).IsRead c := fun _ => rfl

/-- The number of a character that is no surrogate is read as this character. -/
theorem Part.isRead_unit {c : Char} (h : c.toNat < 0xD800) : (Part.unit c.toNat).IsRead c := by
  intro rest
  have hleading : isLeading c.toNat = false := by
    simp only [isLeading, Bool.and_eq_false_iff, decide_eq_false_iff_not]
    omega
  have htrailing : isTrailing c.toNat = false := by
    simp only [isTrailing, Bool.and_eq_false_iff, decide_eq_false_iff_not]
    omega
  rw [joined?.eq_def]
  simp only [hleading, htrailing, Bool.false_eq_true, if_false, Char.ofNat_toNat]

/-- The number of a character below the space is read back from its last two digits. -/
theorem unit?_control {c : Char} (h : c.toNat < 0x20) :
    unit? '0' '0' (hexDigit (lastHexDigit (c.toNat / 16))) (hexDigit (lastHexDigit c.toNat)) =
      some c.toNat := by
  have hzero : hexValue? '0' = some 0 := by decide
  have hvalue : ((0 * 16 + 0) * 16 + (lastHexDigit (c.toNat / 16)).val) * 16 +
      (lastHexDigit c.toNat).val = c.toNat := by
    simp only [lastHexDigit]
    omega
  simp only [unit?, hzero, hexValue?_hexDigit, Option.bind_eq_bind, Option.bind_some]
  exact congrArg some hvalue

/-- One more part at the head of the parts of a quoted text. -/
def withPart (p : Part) (found : List Part × List Char) : List Part × List Char :=
  (p :: found.1, found.2)

theorem parts?_letter {e c : Char} (h : escaped? e = some c) (rest : List Char) :
    parts? ('\\' :: e :: rest) = (parts? rest).map (withPart (.char c)) := by
  have hu : e ≠ 'u' := by
    rintro rfl
    cases h
  rw [parts?.eq_4 e rest fun _ _ _ _ _ heq _ => hu heq, h]
  cases parts? rest <;> rfl

theorem parts?_unit {a b c d : Char} {n : Nat} (h : unit? a b c d = some n) (rest : List Char) :
    parts? ('\\' :: 'u' :: a :: b :: c :: d :: rest) = (parts? rest).map (withPart (.unit n)) := by
  rw [parts?, h]
  cases parts? rest <;> rfl

theorem parts?_char {c : Char} (hquote : c ≠ '\"') (hescape : c ≠ '\\') (hcontrol : ¬ c < ' ')
    (rest : List Char) : parts? (c :: rest) = (parts? rest).map (withPart (.char c)) := by
  rw [parts?.eq_5 c rest hquote (fun _ _ _ _ _ heq _ => hescape heq)
    fun _ _ heq _ => hescape heq]
  simp only [hcontrol, hescape, decide_false, Bool.or_self, Bool.false_eq_true, if_false]
  cases parts? rest <;> rfl

/-- **A written character** is one part of a quoted text, which is read as this character. -/
theorem exists_parts?_writtenChar (c : Char) : ∃ p : Part, p.IsRead c ∧
    ∀ rest, parts? (writtenChar c ++ rest) = (parts? rest).map (withPart p) := by
  -- the characters with a letter of their own
  have hletter : ∀ e, escaped? e = some c → writtenChar c = ['\\', e] →
      ∃ p : Part, p.IsRead c ∧
        ∀ rest, parts? (writtenChar c ++ rest) = (parts? rest).map (withPart p) := by
    intro e he hwritten
    exact ⟨.char c, Part.isRead_char c, fun rest => by rw [hwritten]; exact parts?_letter he rest⟩
  by_cases hquote : c = '\"'
  · subst hquote; exact hletter '\"' rfl rfl
  by_cases hescape : c = '\\'
  · subst hescape; exact hletter '\\' rfl rfl
  by_cases hback : c = '\x08'
  · subst hback; exact hletter 'b' rfl rfl
  by_cases hfeed : c = '\x0c'
  · subst hfeed; exact hletter 'f' rfl rfl
  by_cases hline : c = '\n'
  · subst hline; exact hletter 'n' rfl rfl
  by_cases hreturn : c = '\r'
  · subst hreturn; exact hletter 'r' rfl rfl
  by_cases htab : c = '\t'
  · subst htab; exact hletter 't' rfl rfl
  simp only [writtenChar, hquote, hescape, hback, hfeed, hline, hreturn, htab, if_false]
  split
  · rename_i hcontrol
    have hbelow : c.toNat < 0x20 := hcontrol
    exact ⟨.unit c.toNat, Part.isRead_unit (by omega), parts?_unit (unit?_control hbelow)⟩
  · rename_i hcontrol
    exact ⟨.char c, Part.isRead_char c, parts?_char hquote hescape hcontrol⟩

/-- The parts of a written text are read as its characters. -/
theorem exists_parts?_written (cs rest : List Char) : ∃ ps : List Part, joined? ps = some cs ∧
    parts? (cs.flatMap writtenChar ++ '\"' :: rest) = some (ps, rest) := by
  induction cs with
  | nil => exact ⟨[], rfl, rfl⟩
  | cons c cs ih =>
    obtain ⟨ps, hps, hparts⟩ := ih
    obtain ⟨p, hp, hread⟩ := exists_parts?_writtenChar c
    refine ⟨p :: ps, by rw [hp, hps]; rfl, ?_⟩
    rw [List.flatMap_cons, List.append_assoc, hread, hparts]
    rfl

/-- **A quoted text** is read as what was quoted. -/
theorem text?_written (s : String) (rest : List Char) :
    text? (s.toList.flatMap writtenChar ++ '\"' :: rest) = some (some s, rest) := by
  obtain ⟨ps, hps, hparts⟩ := exists_parts?_written s.toList rest
  simp only [text?, hparts, Option.map_some, hps, String.ofList_toList]

/-! ### Numbers -/

/-- No number goes on with the characters. -/
def EndsNumber (cs : List Char) : Prop :=
  ∀ c tail, cs = c :: tail → c.isDigit = false ∧ c ≠ '.' ∧ c ≠ 'e' ∧ c ≠ 'E'

theorem endsNumber_of_isBlank {c : Char} (h : isBlank c = true) (rest : List Char) :
    EndsNumber (c :: rest) := by
  intro _ _ heq
  cases heq
  simp only [isBlank, Bool.or_eq_true, decide_eq_true_eq] at h
  rcases h with ((rfl | rfl) | rfl) | rfl <;> decide

theorem digits?_append {ds rest : List Char} (hne : ds ≠ []) (hdigits : ∀ c ∈ ds, c.isDigit = true)
    (hrest : EndsNumber rest) : digits? (ds ++ rest) = some (ds, rest) := by
  have htake : (ds ++ rest).takeWhile Char.isDigit = ds := by
    rw [List.takeWhile_append_of_pos hdigits]
    cases rest with
    | nil => simp
    | cons c tail => simp [(hrest c tail rfl).1]
  have hdrop : (ds ++ rest).dropWhile Char.isDigit = rest := by
    rw [List.dropWhile_append_of_pos hdigits]
    cases rest with
    | nil => rfl
    | cons c tail => simp [(hrest c tail rfl).1]
  rw [digits?, htake, hdrop]
  cases ds with
  | nil => exact absurd rfl hne
  | cons d ds => rfl

/-- A numeral begins with a digit. -/
theorem exists_toDigits_cons (n : Nat) :
    ∃ c ds, Nat.toDigits 10 n = c :: ds ∧ c.isDigit = true := by
  obtain ⟨c, ds, hdigits⟩ := List.exists_cons_of_ne_nil (Nat.toDigits_ne_nil (b := 10) (n := n))
  exact ⟨c, ds, hdigits,
    Nat.isDigit_of_mem_toDigits (by decide) (by decide) (hdigits ▸ List.mem_cons_self)⟩

/-- A numeral other than zero does not begin with a zero. -/
theorem head_toDigits {n : Nat} (h : 0 < n) :
    ∃ c tail, Nat.toDigits 10 n = c :: tail ∧ c ≠ '0' := by
  induction n using Nat.strongRecOn with
  | ind n ih =>
    by_cases hlt : n < 10
    · refine ⟨n.digitChar, [], Nat.toDigits_of_lt_base hlt, ?_⟩
      -- the digits from one to nine
      have hdigit : ∀ k : Fin 10, 0 < k.val → Nat.digitChar k.val ≠ '0' := by decide
      exact hdigit ⟨n, hlt⟩ h
    · have hle : 10 ≤ n := Nat.not_lt.mp hlt
      obtain ⟨c, tail, hdigits, hc⟩ := ih (n / 10) (by omega) (by omega)
      refine ⟨c, tail ++ [(n % 10).digitChar], ?_, hc⟩
      rw [Nat.toDigits_of_base_le (by decide) hle, hdigits, List.cons_append]

theorem whole?_toDigits (n : Nat) {rest : List Char} (hrest : EndsNumber rest) :
    whole? (Nat.toDigits 10 n ++ rest) = some (Nat.toDigits 10 n, rest) := by
  rcases Nat.eq_zero_or_pos n with rfl | hpos
  · rfl
  · obtain ⟨c, tail, hdigits, hc⟩ := head_toDigits hpos
    have hread := digits?_append (Nat.toDigits_ne_nil (b := 10) (n := n))
      (fun c hmem => Nat.isDigit_of_mem_toDigits (by decide) (by decide) hmem) hrest
    rw [hdigits] at hread ⊢
    unfold whole?
    split
    · rename_i heq
      exact absurd (List.cons.inj heq).1 hc
    · exact hread

theorem fraction?_of_endsNumber {rest : List Char} (h : EndsNumber rest) :
    fraction? rest = some (none, rest) := by
  unfold fraction?
  split
  · exact absurd rfl (h _ _ rfl).2.1
  · rfl

theorem exponent?_of_endsNumber {rest : List Char} (h : EndsNumber rest) :
    exponent? rest = some (none, rest) := by
  cases rest with
  | nil => rfl
  | cons c tail =>
    obtain ⟨-, -, he, hE⟩ := h c tail rfl
    simp only [exponent?, he, hE, decide_false, Bool.or_self, Bool.false_eq_true, if_false]

/-- **A natural number** is read back. -/
theorem number?_toDigits (n : Nat) {rest : List Char} (hrest : EndsNumber rest) :
    number? (Nat.toDigits 10 n ++ rest) = some (.ofNat n, rest) := by
  have hunsigned : unsigned? false (Nat.toDigits 10 n ++ rest) = some (.ofNat n, rest) := by
    simp only [unsigned?, whole?_toDigits n hrest, fraction?_of_endsNumber hrest,
      exponent?_of_endsNumber hrest, Option.bind_eq_bind, Option.bind_some, Option.getD_none,
      List.append_nil, Option.map_none, numeral, Nat.ofDigitChars_ten_toDigits]
    rfl
  unfold number?
  split
  · rename_i tail heq
    -- a numeral does not begin with a sign
    obtain ⟨c, ds, hdigits, hdigit⟩ := exists_toDigits_cons n
    rw [hdigits] at heq
    rw [(List.cons.inj heq).1] at hdigit
    exact absurd hdigit (by decide)
  · exact hunsigned

/-! ### Tokens -/

/-- Whether the token is a number. -/
def isNumber : Token → Bool
  | number _ => true
  | _ => false

/-- The token is not a number, or a natural one. -/
def IsNatural : Token → Prop
  | number n => ∃ k, n = .ofNat k
  | _ => True

theorem written_number_ofNat (n : Nat) : (number (.ofNat n)).written = Nat.toDigits 10 n := by
  simp [written, Number.written, Number.writtenDigits, Number.writtenExponent, Number.ofNat]

theorem next?_of_isDigit {c : Char} (h : c.isDigit = true) (cs : List Char) :
    next? (c :: cs) = (number? (c :: cs)).map fun (value, rest) => (.number value, rest) := by
  unfold next?
  split
  case h_11 => rfl
  -- no other token begins with a digit
  all_goals
    rename_i heq
    cases heq
    exact absurd h (by decide)

/-- **A written token** is scanned as itself. -/
theorem next?_written {t : Token} (ht : t.IsNatural) {rest : List Char}
    (hrest : t.isNumber = true → EndsNumber rest) : next? (t.written ++ rest) = some (t, rest) := by
  cases t with
  | openObject | closeObject | openArray | closeArray | colon | comma | null => rfl
  | bool b => cases b <;> rfl
  | number n =>
    obtain ⟨k, rfl⟩ := ht
    have hread := number?_toDigits k (hrest rfl)
    obtain ⟨c, ds, hdigits, hdigit⟩ := exists_toDigits_cons k
    rw [written_number_ofNat]
    rw [hdigits, List.cons_append] at hread ⊢
    rw [next?_of_isDigit hdigit, hread]
    rfl
  | text s =>
    cases s with
    | none => rfl
    | some s =>
      have hread := text?_written s rest
      show (text? (s.toList.flatMap writtenChar ++ ['\"'] ++ rest)).map _ = _
      rw [List.append_assoc, List.singleton_append, hread]
      rfl

/-- A written token does not begin with a blank, and a number does not go on with it unless it is a
number itself. -/
theorem exists_written_cons {t : Token} (ht : t.IsNatural) : ∃ c cs, t.written = c :: cs ∧
    isBlank c = false ∧ (t.isNumber = false → ∀ rest, EndsNumber (c :: rest)) := by
  have hends : ∀ c : Char, (c.isDigit = false ∧ c ≠ '.' ∧ c ≠ 'e' ∧ c ≠ 'E') →
      ∀ rest, EndsNumber (c :: rest) := by
    rintro c hc rest _ _ ⟨⟩
    exact hc
  cases t with
  | openObject | closeObject | openArray | closeArray | colon | comma | null =>
    exact ⟨_, _, rfl, by decide, fun _ => hends _ (by decide)⟩
  | bool b => cases b <;> exact ⟨_, _, rfl, by decide, fun _ => hends _ (by decide)⟩
  | text s => cases s <;> exact ⟨_, _, rfl, by decide, fun _ => hends _ (by decide)⟩
  | number n =>
    obtain ⟨k, rfl⟩ := ht
    obtain ⟨c, ds, hdigits, hdigit⟩ := exists_toDigits_cons k
    refine ⟨c, ds, by rw [written_number_ofNat, hdigits], ?_, nofun⟩
    refine Bool.eq_false_iff.mpr fun hblank => ?_
    rw [(endsNumber_of_isBlank hblank [] c [] rfl).1] at hdigit
    cases hdigit

/-! ### Tokens with blanks between them -/

/-- A text in which tokens stand with any blanks before, between and behind them. -/
inductive Spaced : List Token → List Char → Prop where
  /-- Only blanks are left. -/
  | blanks {gap : List Char} (hgap : ∀ c ∈ gap, isBlank c = true) : Spaced [] gap
  /-- Blanks, and then a token. -/
  | token {gap : List Char} {t : Token} {ts : List Token} {cs : List Char}
    (hgap : ∀ c ∈ gap, isBlank c = true) (h : Spaced ts cs) :
    Spaced (t :: ts) (gap ++ (t.written ++ cs))

/-- Tokens without any blanks. -/
theorem spaced_flatMap (ts : List Token) : Spaced ts (ts.flatMap written) := by
  have hgap : ∀ c ∈ ([] : List Char), isBlank c = true := nofun
  induction ts with
  | nil => exact .blanks hgap
  | cons t ts ih => exact .token hgap ih

theorem scan?_blank {c : Char} (h : isBlank c = true) (cs : List Char) :
    scan? (c :: cs) = scan? cs := by
  rw [scan?, if_pos h]

theorem scan?_blanks {gap : List Char} (h : ∀ c ∈ gap, isBlank c = true) (cs : List Char) :
    scan? (gap ++ cs) = scan? cs := by
  induction gap with
  | nil => rfl
  | cons c gap ih =>
    rw [List.cons_append, scan?_blank (h c List.mem_cons_self),
      ih fun c hc => h c (List.mem_cons_of_mem _ hc)]

theorem scan?_token {c : Char} {cs rest : List Char} {t : Token} (hblank : isBlank c = false)
    (h : next? (c :: cs) = some (t, rest)) : scan? (c :: cs) = (scan? rest).map (t :: ·) := by
  rw [scan?, if_neg (by rw [hblank]; decide)]
  split
  · rename_i hnone
    rw [h] at hnone
    cases hnone
  · rename_i hsome
    rw [h] at hsome
    cases hsome
    rfl

/-- Whether the first token is a number. -/
def startsWithNumber : List Token → Bool
  | t :: _ => t.isNumber
  | [] => false

/-- No number follows directly upon a number. -/
def Separated : List Token → Prop
  | [] => True
  | t :: ts => (t.isNumber = true → startsWithNumber ts = false) ∧ Separated ts

theorem Spaced.endsNumber {ts : List Token} {cs : List Char} (h : Spaced ts cs)
    (hnatural : ∀ t ∈ ts, t.IsNatural) (hstart : startsWithNumber ts = false) : EndsNumber cs := by
  cases h with
  | blanks hgap =>
    cases cs with
    | nil => exact fun _ _ heq => nomatch heq
    | cons c gap => exact endsNumber_of_isBlank (hgap c List.mem_cons_self) gap
  | @token gap t ts cs hgap h =>
    cases gap with
    | nil =>
      obtain ⟨c, tail, hwritten, -, hends⟩ :=
        exists_written_cons (hnatural t List.mem_cons_self)
      rw [hwritten]
      exact hends hstart _
    | cons c gap => exact endsNumber_of_isBlank (hgap c List.mem_cons_self) _

/-- **Tokens with blanks between them** are scanned as themselves. -/
theorem scan?_of_spaced {ts : List Token} {cs : List Char} (h : Spaced ts cs)
    (hnatural : ∀ t ∈ ts, t.IsNatural) (hseparated : Separated ts) : scan? cs = some ts := by
  induction h with
  | blanks hgap =>
    have hscan := scan?_blanks hgap []
    rw [List.append_nil] at hscan
    rw [hscan, scan?]
  | @token gap t ts cs hgap h ih =>
    have ht := hnatural t List.mem_cons_self
    have hts : ∀ t ∈ ts, t.IsNatural := fun t ht => hnatural t (List.mem_cons_of_mem _ ht)
    obtain ⟨c, tail, hwritten, hblank, -⟩ := exists_written_cons ht
    have hnext := next?_written ht fun hnumber => h.endsNumber hts (hseparated.1 hnumber)
    rw [hwritten, List.cons_append] at hnext
    rw [scan?_blanks hgap, hwritten, List.cons_append, scan?_token hblank hnext,
      ih hts hseparated.2]
    rfl

end Token

/-! ### Values -/

namespace Value

open Token

/-- All numbers in the value are natural ones. -/
def IsNatural (v : Value) : Prop := ∀ t ∈ v.tokens, t.IsNatural

theorem isNatural_number (n : Nat) : (number (.ofNat n)).IsNatural := by
  intro t ht
  cases List.mem_singleton.mp ht
  exact ⟨n, rfl⟩

/-- A token that is no number does not count. -/
theorem isNatural_cons (t : Token) (h : t.isNumber = false) (ts : List Token) :
    (∀ u ∈ t :: ts, u.IsNatural) ↔ ∀ u ∈ ts, u.IsNatural := by
  have ht : t.IsNatural := by
    cases t with
    | number => cases h
    | _ => trivial
  rw [List.forall_mem_cons, and_iff_right ht]

theorem isNatural_laterItemTokens (items : List Value) :
    (∀ t ∈ laterItemTokens items, t.IsNatural) ↔ ∀ item ∈ items, item.IsNatural := by
  induction items with
  | nil => simp [laterItemTokens, Token.IsNatural]
  | cons item items ih =>
    rw [laterItemTokens, List.cons_append, isNatural_cons comma rfl, List.forall_mem_append, ih,
      List.forall_mem_cons, IsNatural]

theorem isNatural_laterMemberTokens (members : List (Option String × Value)) :
    (∀ t ∈ laterMemberTokens members, t.IsNatural) ↔ ∀ member ∈ members, member.2.IsNatural := by
  induction members with
  | nil => simp [laterMemberTokens, Token.IsNatural]
  | cons member members ih =>
    obtain ⟨key, v⟩ := member
    rw [laterMemberTokens, List.cons_append, List.cons_append, List.cons_append,
      isNatural_cons comma rfl, isNatural_cons (Token.text key) rfl, isNatural_cons colon rfl,
      List.forall_mem_append, ih, List.forall_mem_cons, IsNatural]

/-- The numbers in an array are those in its items. -/
@[simp] theorem isNatural_array (items : List Value) :
    (array items).IsNatural ↔ ∀ item ∈ items, item.IsNatural := by
  cases items with
  | nil => simp [IsNatural, tokens, Token.IsNatural]
  | cons item items =>
    rw [IsNatural, tokens, List.cons_append, isNatural_cons openArray rfl, List.forall_mem_append,
      isNatural_laterItemTokens, List.forall_mem_cons, IsNatural]

/-- The numbers in an object are those in its members. -/
@[simp] theorem isNatural_object (members : List (Option String × Value)) :
    (object members).IsNatural ↔ ∀ member ∈ members, member.2.IsNatural := by
  cases members with
  | nil => simp [IsNatural, tokens, Token.IsNatural]
  | cons member members =>
    obtain ⟨key, v⟩ := member
    rw [IsNatural, tokens, List.cons_append, List.cons_append, List.cons_append,
      isNatural_cons openObject rfl, isNatural_cons (Token.text key) rfl, isNatural_cons colon rfl,
      List.forall_mem_append, isNatural_laterMemberTokens, List.forall_mem_cons, IsNatural]

/-- The text is the value's, with any blanks between the tokens. -/
def Spells (v : Value) (s : String) : Prop := Spaced v.tokens s.toList

/-- The compact text has no blanks. -/
theorem spells_compact (v : Value) : v.Spells v.compact := by
  rw [Spells, compact, String.toList_ofList]
  exact spaced_flatMap v.tokens

theorem startsWithNumber_laterItemTokens (items : List Value) (rest : List Token) :
    startsWithNumber (laterItemTokens items ++ rest) = false := by cases items <;> rfl

theorem startsWithNumber_laterMemberTokens (members : List (Option String × Value))
    (rest : List Token) : startsWithNumber (laterMemberTokens members ++ rest) = false := by
  cases members <;> rfl

mutual

/-- A number in a value is followed by a bracket, a comma or the end. -/
theorem separated_tokens (v : Value) {rest : List Token} (h : Separated rest)
    (hstart : startsWithNumber rest = false) : Separated (v.tokens ++ rest) := by
  cases v with
  | null | bool | text => exact ⟨nofun, h⟩
  | number => exact ⟨fun _ => hstart, h⟩
  | array items =>
    cases items with
    | nil => exact ⟨nofun, nofun, h⟩
    | cons item items =>
      simp only [tokens, List.cons_append, List.append_assoc]
      exact ⟨nofun, separated_tokens item (separated_laterItemTokens items h)
        (startsWithNumber_laterItemTokens ..)⟩
  | object members =>
    cases members with
    | nil => exact ⟨nofun, nofun, h⟩
    | cons member members =>
      obtain ⟨key, value⟩ := member
      simp only [tokens, List.cons_append, List.append_assoc]
      exact ⟨nofun, nofun, nofun, separated_tokens value (separated_laterMemberTokens members h)
        (startsWithNumber_laterMemberTokens ..)⟩

theorem separated_laterItemTokens (items : List Value) {rest : List Token} (h : Separated rest) :
    Separated (laterItemTokens items ++ rest) := by
  cases items with
  | nil => exact ⟨nofun, h⟩
  | cons item items =>
    simp only [laterItemTokens, List.cons_append, List.append_assoc]
    exact ⟨nofun, separated_tokens item (separated_laterItemTokens items h)
      (startsWithNumber_laterItemTokens ..)⟩

theorem separated_laterMemberTokens (members : List (Option String × Value)) {rest : List Token}
    (h : Separated rest) : Separated (laterMemberTokens members ++ rest) := by
  cases members with
  | nil => exact ⟨nofun, h⟩
  | cons member members =>
    obtain ⟨key, value⟩ := member
    simp only [laterMemberTokens, List.cons_append, List.append_assoc]
    exact ⟨nofun, nofun, nofun, separated_tokens value (separated_laterMemberTokens members h)
      (startsWithNumber_laterMemberTokens ..)⟩

end

/-- **A written value** stands for itself, whatever blanks stand between its tokens. -/
theorem parse?_of_spells {v : Value} {s : String} (h : v.Spells s) (hnatural : v.IsNatural) :
    parse? s = some v := by
  have hseparated : Separated v.tokens := by
    have hall : Separated (v.tokens ++ []) := separated_tokens v trivial rfl
    rwa [List.append_nil] at hall
  rw [parse?, scan?_of_spaced h hnatural hseparated, Option.bind_some, ofTokens?_tokens]

end Value

end RoomSearch.Json
