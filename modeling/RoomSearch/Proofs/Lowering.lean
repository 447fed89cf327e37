import Mathlib.Data.List.Induction
import RoomSearch.Matcher

/-!
# Initial segments in lower case

A text is lowered as a whole, so what becomes of an initial segment depends on what follows it.  It
depends on very little: only the capital sigma looks at what follows, and it looks no further than
the first character that is not case-ignorable.  So a segment that is lowered by itself differs from
the same segment inside a text only if it breaks off in the middle of a word, right behind a sigma:
by itself the segment ends in a final sigma, inside the text it does not.

## Main definitions

* `Text.loweredBetween` — what a piece of a text becomes between its neighbours.
* `Text.closesWord` — a text ends in a sigma that ends a word.
* `Text.splitsWord` — an initial segment breaks off right behind a sigma, in the middle of a word.

## Main results

* `Text.loweredBetween_eq_iff` — what follows a segment matters only if a word is split.
* `begins_lowered` — lowering keeps that a text begins with another, unless a word is split.
* `Matcher.relaxed_accepts` — **the relaxed mode accepts what the exact one accepts**, unless the
  query splits a word.
* `Matcher.relaxed_rejects_split` — a query that splits a word.
-/

namespace RoomSearch

namespace Text

open Unicode

/-! ### What the neighbours matter -/

/-- What a piece of a text becomes in lower case between its neighbours; `before` has the nearest
first. -/
def loweredBetween (before : List Char) : List Char → List Char → List Char
  | [], _ => []
  | c :: rest, after =>
    loweredChar before c (rest ++ after) ++ loweredBetween (c :: before) rest after

@[simp] theorem loweredBetween_nil (before after : List Char) :
    loweredBetween before [] after = [] := rfl

@[simp] theorem loweredBetween_cons (before rest after : List Char) (c : Char) :
    loweredBetween before (c :: rest) after =
      loweredChar before c (rest ++ after) ++ loweredBetween (c :: before) rest after := rfl

/-- A text is lowered piece by piece. -/
theorem loweredFrom_append (before cs after : List Char) :
    loweredFrom before (cs ++ after) =
      loweredBetween before cs after ++ loweredFrom (cs.reverse ++ before) after := by
  induction cs generalizing before with
  | nil => rfl
  | cons c rest ih => simp [loweredFrom, ih]

/-- A text that nothing follows. -/
theorem loweredFrom_eq (before cs : List Char) :
    loweredFrom before cs = loweredBetween before cs [] := by
  simpa [loweredFrom] using loweredFrom_append before cs []

theorem loweredBetween_append (before cs ds after : List Char) :
    loweredBetween before (cs ++ ds) after =
      loweredBetween before cs (ds ++ after) ++ loweredBetween (cs.reverse ++ before) ds after := by
  induction cs generalizing before with
  | nil => rfl
  | cons c rest ih => simp [ih]

@[simp] theorem meetsCased_nil : meetsCased [] = false := rfl

theorem meetsCased_cons (c : Char) (cs : List Char) :
    meetsCased (c :: cs) = if isCaseIgnorable c then meetsCased cs else isCased c := by
  by_cases h : isCaseIgnorable c = true <;> simp [meetsCased, h]

/-- Of what follows a piece, it only matters whether a cased character is met there. -/
theorem meetsCased_append {after after' : List Char} (cs : List Char)
    (h : meetsCased after = meetsCased after') :
    meetsCased (cs ++ after) = meetsCased (cs ++ after') := by
  induction cs with
  | nil => exact h
  | cons c rest ih => simp only [List.cons_append, meetsCased_cons, ih]

theorem loweredChar_congr {before after after' : List Char} (c : Char)
    (h : meetsCased after = meetsCased after') :
    loweredChar before c after = loweredChar before c after' := by
  simp only [loweredChar, sigmaForm, h]

/-- Only the capital sigma looks at what follows. -/
theorem loweredChar_of_ne {before after after' : List Char} {c : Char} (h : c ≠ 'Σ') :
    loweredChar before c after = loweredChar before c after' := by
  simp only [loweredChar, if_neg h]

theorem loweredChar_sigma (before after : List Char) :
    loweredChar before 'Σ' after = [sigmaForm before after] := rfl

theorem length_loweredChar (before after after' : List Char) (c : Char) :
    (loweredChar before c after).length = (loweredChar before c after').length := by
  unfold loweredChar
  split <;> rfl

theorem loweredBetween_congr {before after after' : List Char} (cs : List Char)
    (h : meetsCased after = meetsCased after') :
    loweredBetween before cs after = loweredBetween before cs after' := by
  induction cs generalizing before with
  | nil => rfl
  | cons c rest ih =>
    rw [loweredBetween_cons, loweredBetween_cons, ih,
      loweredChar_congr c (meetsCased_append rest h)]

/-- What follows a piece does not change its length. -/
theorem length_loweredBetween (before after after' cs : List Char) :
    (loweredBetween before cs after).length = (loweredBetween before cs after').length := by
  induction cs generalizing before with
  | nil => rfl
  | cons c rest ih =>
    rw [loweredBetween_cons, loweredBetween_cons, List.length_append, List.length_append, ih,
      length_loweredChar]

/-! ### Words that are split -/

/-- Whether a text ends in a capital sigma that ends a word; `back` is the text read backwards.  The
characters behind the sigma are case-ignorable, and a cased character is met before it. -/
def closesWord (back : List Char) : Bool :=
  match back.dropWhile isCaseIgnorable with
  | c :: earlier => c == 'Σ' && meetsCased earlier
  | [] => false

@[simp] theorem closesWord_nil : closesWord [] = false := rfl

theorem closesWord_cons (c : Char) (back : List Char) :
    closesWord (c :: back) =
      if isCaseIgnorable c then closesWord back else c == 'Σ' && meetsCased back := by
  by_cases h : isCaseIgnorable c = true <;> simp [closesWord, h]

/-- The sigma is not passed over when a neighbour is looked for. -/
theorem ne_sigma_of_isCaseIgnorable {c : Char} (h : isCaseIgnorable c = true) : c ≠ 'Σ' := by
  rintro rfl
  exact absurd h (by decide)

/-- The two forms of a sigma before which a cased character is met, or is not. -/
theorem sigmaForm_eq_iff (before after : List Char) :
    sigmaForm before [] = sigmaForm before after ↔
      (meetsCased before && meetsCased after) = false := by
  unfold sigmaForm
  cases meetsCased before <;> cases meetsCased after <;> decide

/-- **What follows a text** matters for it only if the text ends in a sigma that ends a word, while
the word goes on. -/
theorem loweredBetween_eq_iff (cs after : List Char) :
    loweredBetween [] cs [] = loweredBetween [] cs after ↔
      (closesWord cs.reverse && meetsCased after) = false := by
  induction cs using List.reverseRecOn with
  | nil => simp
  | append_singleton cs c ih =>
    -- the pieces before the last character, and what becomes of that character
    have hpieces : loweredBetween [] (cs ++ [c]) [] = loweredBetween [] (cs ++ [c]) after ↔
        loweredBetween [] cs [c] = loweredBetween [] cs (c :: after) ∧
          loweredChar cs.reverse c [] = loweredChar cs.reverse c after := by
      simp only [loweredBetween_append, loweredBetween_cons, loweredBetween_nil, List.append_nil,
        List.cons_append, List.nil_append]
      exact ⟨fun h => List.append_inj h (length_loweredBetween ..), fun h => by rw [h.1, h.2]⟩
    rw [hpieces, List.reverse_concat, closesWord_cons]
    by_cases hskip : isCaseIgnorable c = true
    · -- a character that is passed over changes nothing
      have hmeets : ∀ rest, meetsCased (c :: rest) = meetsCased rest := fun rest => by
        rw [meetsCased_cons, if_pos hskip]
      have hend : loweredBetween [] cs [c] = loweredBetween [] cs [] :=
        loweredBetween_congr cs (hmeets [])
      have hgoes : loweredBetween [] cs (c :: after) = loweredBetween [] cs after :=
        loweredBetween_congr cs (hmeets after)
      rw [if_pos hskip, ← ih, hend, hgoes]
      exact and_iff_left (loweredChar_of_ne (ne_sigma_of_isCaseIgnorable hskip))
    · -- nothing behind any other character is looked at from before it
      have hmeets : meetsCased [c] = meetsCased (c :: after) := by
        rw [meetsCased_cons, meetsCased_cons, if_neg hskip, if_neg hskip]
      rw [if_neg hskip, and_iff_right (loweredBetween_congr cs hmeets)]
      by_cases hsigma : c = 'Σ'
      · subst hsigma
        simp only [loweredChar_sigma, List.cons.injEq, and_true, beq_self_eq_true, Bool.true_and]
        exact sigmaForm_eq_iff cs.reverse after
      · rw [beq_eq_false_iff_ne.mpr hsigma]
        simpa using loweredChar_of_ne hsigma

/-- Whether the initial segment `start` of a text breaks off in the middle of a word, right behind a
sigma. -/
def splitsWord (start s : String) : Bool :=
  closesWord start.toList.reverse && meetsCased (s.toList.drop start.toList.length)

end Text

open Text

/-! ### Matching in lower case -/

theorem begins_iff {start s : String} : begins start s = true ↔ start.toList <+: s.toList :=
  List.isPrefixOf_iff_prefix

/-- **Initial segments in lower case.**  If a text begins with another, it still does so in lower
case, unless a word is split. -/
theorem begins_lowered {start s : String} (h : begins start s = true) :
    begins (lowered start) (lowered s) = !splitsWord start s := by
  obtain ⟨rest, hrest⟩ := begins_iff.mp h
  have hsplits : splitsWord start s = (closesWord start.toList.reverse && meetsCased rest) := by
    rw [splitsWord, ← hrest, List.drop_left]
  -- both lowered segments have one length, so one begins with the other only if they are equal
  have hlength := length_loweredBetween [] [] rest start.toList
  rw [Bool.eq_iff_iff, begins_iff, hsplits, Bool.not_eq_true', ← loweredBetween_eq_iff, lowered,
    lowered, String.toList_ofList, String.toList_ofList, ← hrest, loweredFrom_eq,
    loweredFrom_append]
  constructor
  · intro hprefix
    exact (List.prefix_of_prefix_length_le hprefix (List.prefix_append ..)
      (Nat.le_of_eq hlength)).eq_of_length hlength
  · intro heq
    rw [heq]
    exact List.prefix_append ..

namespace Matcher

/-- A matcher accepts a room if its name or its identifier begins with the query; the empty query
needs no rule of its own, since every text begins with it. -/
theorem accepts_iff (m : Matcher) (name identifier : String) :
    m.accepts name identifier = true ↔
      ∃ s ∈ [name, identifier], begins (m.folded m.query) (m.folded s) = true := by
  have hempty : (m.folded m.query).isEmpty = true →
      begins (m.folded m.query) (m.folded name) = true := by
    intro h
    rw [String.isEmpty_iff.mp h]
    rfl
  simp only [accepts, matchesExactly, Bool.or_eq_true, List.mem_cons, List.not_mem_nil, or_false,
    exists_eq_or_imp, exists_eq_left, or_assoc]
  exact ⟨fun h => h.elim (fun h => .inl (hempty h)) id, .inr⟩

/-- **The relaxed mode accepts what the exact one accepts**, unless the query splits a word.  A room
is accepted as it stands if its name or its identifier begins with the query.  In lower case, either
of them that begins with the query counts unless the query splits a word of it, and then it does not
count; and either of them counts that begins with the query in lower case only. -/
theorem relaxed_accepts (query name identifier : String) :
    ((⟨query, .exact⟩ : Matcher).accepts name identifier = true ↔
      ∃ s ∈ [name, identifier], begins query s = true) ∧
    ((⟨query, .ignoreCase⟩ : Matcher).accepts name identifier = true ↔
      ∃ s ∈ [name, identifier],
        if begins query s then splitsWord query s = false
        else begins (lowered query) (lowered s) = true) := by
  refine ⟨accepts_iff _ name identifier, (accepts_iff _ name identifier).trans ?_⟩
  refine exists_congr fun s => and_congr_right fun _ => ?_
  show begins (lowered query) (lowered s) = true ↔ _
  split
  · rename_i hbegins
    rw [begins_lowered hbegins, Bool.not_eq_true']
  · exact Iff.rfl

/-- **A query that splits a word**: the first two letters of the room's name, of which the second
one, a sigma, ends the query but not the word. -/
theorem relaxed_rejects_split :
    ¬ ∀ query name identifier : String,
      (⟨query, .exact⟩ : Matcher).accepts name identifier = true →
        (⟨query, .ignoreCase⟩ : Matcher).accepts name identifier = true := by
  intro h
  have hexact : (⟨"ΑΣ", .exact⟩ : Matcher).accepts "ΑΣΑ" "x" = true := by decide +kernel
  have hrelaxed : (⟨"ΑΣ", .ignoreCase⟩ : Matcher).accepts "ΑΣΑ" "x" = false := by decide +kernel
  exact absurd (h _ _ _ hexact) (by rw [hrelaxed]; decide)

end Matcher

end RoomSearch
