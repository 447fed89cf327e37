/-!
# Lists in increasing order of a text key

Every value has a text key, and a list holds its values in increasing order of their keys, at most
one for each key.  Keys are compared character by character, by code points.

Looking up needs no order: the equations for `find?` below hold of any list.  The order decides
where a value stands, so two lists in order with the same values at all keys are equal.

## Main definitions

* `Keyed.Sorted` — the keys increase strictly along the list.
* `Keyed.find?` — the value with a given key.
* `Keyed.insert` — puts a value in its place, in place of the one that has its key.
* `Keyed.insertNew` — puts a value in its place unless its key is taken.
* `Keyed.erase` — takes the value with a given key out.

## Main results

* `Keyed.find?_insert`, `Keyed.find?_erase` — what is found after a change.
* `Keyed.sorted_insert`, `Keyed.sorted_erase` — changes keep the order.
-/

namespace RoomSearch.Keyed

variable {α : Type}

/-- The keys increase strictly along the list, so no key occurs twice. -/
def Sorted (key : α → String) (l : List α) : Prop := l.Pairwise fun x y => key x < key y

/-- The value with the given key. -/
def find? (key : α → String) (k : String) (l : List α) : Option α := l.find? fun x => key x == k

/-- Puts `x` in its place; a value with the same key gives way. -/
def insert (key : α → String) (x : α) : List α → List α
  | [] => [x]
  | y :: ys =>
    if key x < key y then x :: y :: ys
    else if key x = key y then x :: ys
    else y :: insert key x ys

/-- Puts `x` in its place; a value with the same key stays instead. -/
def insertNew (key : α → String) (x : α) (l : List α) : List α :=
  if (find? key (key x) l).isSome then l else insert key x l

/-- Takes the value with the given key out. -/
def erase (key : α → String) (k : String) (l : List α) : List α := l.filter fun x => key x != k

variable {key : α → String} {k : String} {x y : α} {l : List α}

/-! ### What is found -/

@[simp] theorem find?_nil : find? key k [] = none := rfl

theorem find?_cons : find? key k (y :: l) = if key y = k then some y else find? key k l := by
  by_cases h : key y = k <;> simp [find?, h]

/-- The value that is found has the key. -/
theorem key_eq_of_find? (h : find? key k l = some x) : key x = k := by
  simpa using List.find?_some h

/-- The value that is found is in the list. -/
theorem mem_of_find? (h : find? key k l = some x) : x ∈ l := List.mem_of_find?_eq_some h

/-- After an insertion the value is found at its key, and elsewhere what was found before. -/
theorem find?_insert :
    find? key k (insert key x l) = if key x = k then some x else find? key k l := by
  induction l with
  | nil => simp [insert, find?_cons]
  | cons y ys ih =>
    by_cases hlt : key x < key y
    · simp [insert, hlt, find?_cons]
    · by_cases heq : key x = key y
      · rw [insert, if_neg hlt, if_pos heq, find?_cons, find?_cons, ← heq]
        split <;> rfl
      · simp only [insert, hlt, heq, if_false, find?_cons, ih]
        by_cases hx : key x = k
        · subst hx
          simp [Ne.symm heq]
        · simp [hx]

/-- After an erasure nothing is found at the key, and elsewhere what was found before. -/
theorem find?_erase {k' : String} :
    find? key k (erase key k' l) = if k = k' then none else find? key k l := by
  simp only [erase]
  induction l with
  | nil => simp
  | cons y ys ih =>
    by_cases hy : key y = k'
    · rw [List.filter_cons_of_neg (by simp [hy]), ih, find?_cons, hy]
      by_cases hk : k = k'
      · rw [if_pos hk, if_pos hk]
      · rw [if_neg hk, if_neg hk, if_neg (Ne.symm hk)]
    · rw [List.filter_cons_of_pos (by simp [hy]), find?_cons, find?_cons, ih]
      by_cases hk : k = k'
      · rw [if_neg (hk ▸ hy), if_pos hk, if_pos hk]
      · rw [if_neg hk, if_neg hk]

/-! ### Order -/

@[simp] theorem sorted_nil : Sorted key [] := .nil

theorem sorted_cons : Sorted key (y :: l) ↔ (∀ z ∈ l, key y < key z) ∧ Sorted key l :=
  List.pairwise_cons

/-- An insertion adds nothing but its value. -/
theorem eq_or_mem_of_mem_insert (h : y ∈ insert key x l) : y = x ∨ y ∈ l := by
  induction l with
  | nil => simpa [insert] using h
  | cons z zs ih =>
    simp only [insert] at h
    split at h
    · simpa using h
    · split at h
      · exact (List.mem_cons.mp h).imp_right (List.mem_cons_of_mem z)
      · cases h with
        | head => exact .inr (.head zs)
        | tail _ h => exact (ih h).imp_right (List.mem_cons_of_mem z)

theorem eq_or_mem_of_mem_insertNew (h : y ∈ insertNew key x l) : y = x ∨ y ∈ l := by
  rw [insertNew] at h
  split at h
  · exact .inr h
  · exact eq_or_mem_of_mem_insert h

/-- **An insertion keeps the order.** -/
theorem sorted_insert (h : Sorted key l) : Sorted key (insert key x l) := by
  induction l with
  | nil => exact sorted_cons.mpr ⟨by simp, sorted_nil⟩
  | cons y ys ih =>
    obtain ⟨hy, hys⟩ := sorted_cons.mp h
    simp only [insert]
    split
    case isTrue hlt =>
      refine sorted_cons.mpr ⟨fun z hz => ?_, h⟩
      cases hz with
      | head => exact hlt
      | tail _ hz => exact String.lt_trans hlt (hy z hz)
    case isFalse hlt =>
      split
      case isTrue heq => exact sorted_cons.mpr ⟨fun z hz => heq ▸ hy z hz, hys⟩
      case isFalse hne =>
        -- The key of `y` is neither above nor equal to that of `x`, so it is below it.
        have hyx : key y < key x := String.not_le.mp fun hle =>
          hne (String.le_antisymm hle (String.not_lt.mp hlt))
        refine sorted_cons.mpr ⟨fun z hz => ?_, ih hys⟩
        cases eq_or_mem_of_mem_insert hz with
        | inl hz => exact hz ▸ hyx
        | inr hz => exact hy z hz

/-- **An erasure keeps the order.** -/
theorem sorted_erase (h : Sorted key l) : Sorted key (erase key k l) := h.filter _

/-- In order, a value is found at its key. -/
theorem find?_key_of_mem (h : Sorted key l) (hx : x ∈ l) : find? key (key x) l = some x := by
  induction l with
  | nil => cases hx
  | cons y ys ih =>
    rw [find?_cons]
    cases hx with
    | head => rw [if_pos rfl]
    | tail _ hx =>
      have hlt := (sorted_cons.mp h).1 x hx
      have hne : key y ≠ key x := fun heq => String.lt_irrefl (key x) (heq ▸ hlt :)
      rw [if_neg hne, ih (sorted_cons.mp h).2 hx]

/-- In order, what is found at a key is the value of the list that has it. -/
theorem find?_eq_some_iff_of_sorted (h : Sorted key l) :
    find? key k l = some x ↔ x ∈ l ∧ key x = k :=
  ⟨fun hx => ⟨mem_of_find? hx, key_eq_of_find? hx⟩, fun ⟨hx, hk⟩ => hk ▸ find?_key_of_mem h hx⟩

end RoomSearch.Keyed
