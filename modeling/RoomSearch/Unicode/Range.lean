/-!
# Sets of code points given by ranges

A property of characters is held as a list of closed ranges of code points, disjoint and in
increasing order.  `covers ranges c` says whether one of them holds `c`; it stops at the first
range that begins beyond `c`, which is right because the ranges ascend.

## Main definitions

* `covers` — membership in a list of ranges.
* `ascending` — the ranges are nonempty, disjoint and in increasing order.

## Main results

* `covers_iff` — for ascending ranges, `covers` finds exactly the characters in one of them.
-/

namespace RoomSearch.Unicode

/-- Whether one of the ranges holds the code point of `c`; the ranges come in increasing order. -/
def covers (ranges : List (Nat × Nat)) (c : Char) : Bool :=
  match ranges with
  | [] => false
  | (first, last) :: rest =>
    if c.toNat < first then false else decide (c.toNat ≤ last) || covers rest c

/-- Every range begins beyond `bound`, is nonempty, and ends before the next one begins. -/
def ascendingFrom (bound : Nat) : List (Nat × Nat) → Bool
  | [] => true
  | (first, last) :: rest => bound ≤ first && first ≤ last && ascendingFrom (last + 1) rest

/-- The ranges are nonempty, disjoint and in increasing order. -/
def ascending (ranges : List (Nat × Nat)) : Bool := ascendingFrom 0 ranges

/-- Nothing below the bound lies in ranges that ascend from it. -/
theorem le_of_mem_of_ascendingFrom {bound : Nat} {ranges : List (Nat × Nat)}
    (h : ascendingFrom bound ranges = true) {r : Nat × Nat} (hr : r ∈ ranges) : bound ≤ r.1 := by
  induction ranges generalizing bound with
  | nil => cases hr
  | cons head rest ih =>
    obtain ⟨first, last⟩ := head
    simp only [ascendingFrom, Bool.and_eq_true, decide_eq_true_eq] at h
    cases hr with
    | head => exact h.1.1
    | tail _ hr => have := ih h.2 hr; omega

/-- `covers_iff` for ranges that ascend from any bound. -/
theorem covers_iff_of_ascendingFrom {bound : Nat} {ranges : List (Nat × Nat)} {c : Char}
    (h : ascendingFrom bound ranges = true) :
    covers ranges c = true ↔ ∃ r ∈ ranges, r.1 ≤ c.toNat ∧ c.toNat ≤ r.2 := by
  induction ranges generalizing bound with
  | nil => simp [covers]
  | cons head rest ih =>
    obtain ⟨first, last⟩ := head
    have hrest := h
    simp only [ascendingFrom, Bool.and_eq_true, decide_eq_true_eq] at hrest
    by_cases hc : c.toNat < first
    · simp only [covers, hc, if_true, Bool.false_eq_true, false_iff]
      rintro ⟨r, hr, hle, -⟩
      cases hr with
      | head => simp only at hle; omega
      | tail _ hr => have := le_of_mem_of_ascendingFrom hrest.2 hr; omega
    · simp only [covers, hc, if_false, Bool.or_eq_true, decide_eq_true_eq, ih hrest.2,
        List.mem_cons, exists_eq_or_imp]
      exact or_congr_left ⟨fun h => ⟨by omega, h⟩, fun h => h.2⟩

/-- **Membership**: for ascending ranges, `covers` finds exactly the characters in one of them. -/
theorem covers_iff {ranges : List (Nat × Nat)} {c : Char} (h : ascending ranges = true) :
    covers ranges c = true ↔ ∃ r ∈ ranges, r.1 ≤ c.toNat ∧ c.toNat ≤ r.2 :=
  covers_iff_of_ascendingFrom h

end RoomSearch.Unicode
