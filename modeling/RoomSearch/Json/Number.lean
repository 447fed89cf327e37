/-!
# Numbers of the data format

A number is kept as it was written: a sign, the digits with the place of the point, and an
exponent.  Nothing is rounded, so a whole number of any size keeps its value.

Where a number is set aside before it is known what it is read as, it has to be within the range of
double precision.  That is decided on an approximation: the leading digits that fit into a word,
times a power of ten, both rounded to 53 binary digits.  The approximation is in range if its
rounding is; so a magnitude close to the limit may be refused although it is below it.

## Main definitions

* `Number` — a sign, digits, the places after the point and a power of ten.
* `Number.natural?` — the value of a number written with digits alone.
* `Number.rounded` — the nearest number of at most 53 binary digits.
* `Number.leading` — the leading digits that fit into a word of 64 bits.
* `Number.isFinite` — whether the approximation of a number is in the range of double precision.

## Main results

* `Number.rounded_of_log2_le` — a number of at most 53 binary digits is its own rounding.
* `Number.leading_fst_lt` — the leading digits fit into a word.
-/

namespace RoomSearch.Json

/-- A number as written. -/
structure Number where
  /-- Whether a minus sign stands in front. -/
  negative : Bool
  /-- The digits before the exponent, read as one numeral without the point. -/
  digits : Nat
  /-- How many of them stand behind the point, if there is one. -/
  places : Option Nat
  /-- The power of ten behind the digits, if there is one. -/
  exponent : Option Int
deriving DecidableEq, Repr

namespace Number

/-- The number that a natural number is written as. -/
def ofNat (n : Nat) : Number := ⟨false, n, none, none⟩

/-- The value of a number that is written with digits alone: no sign, point or exponent. -/
def natural? (n : Number) : Option Nat :=
  match n with
  | ⟨false, digits, none, none⟩ => some digits
  | _ => none

@[simp] theorem natural?_ofNat (n : Nat) : (ofNat n).natural? = some n := rfl

/-! ### The range of double precision -/

/-- The nearest number of at most 53 binary digits; a half goes to the even neighbour. -/
def rounded (n : Nat) : Nat :=
  let unit := Nat.pow 2 (n.log2 - 52)
  let below := n / unit
  let twice := 2 * (n % unit)
  if unit < twice ∨ (unit = twice ∧ below % 2 = 1) then (below + 1) * unit else below * unit

/-- The leading digits of a numeral that fit into a word of 64 bits, and how many digits follow. -/
def leading (digits : Nat) : Nat × Nat :=
  if digits < UInt64.size then (digits, 0)
  else
    let (first, later) := leading (digits / 10)
    (first, later + 1)
termination_by digits
decreasing_by
  rename_i h
  exact Nat.div_lt_self (Nat.lt_of_lt_of_le (by decide) (Nat.not_lt.mp h)) (by decide)

/-- The least magnitude that is rounded out of the range: halfway between the greatest magnitude in
it and the next power of two. -/
def overflow : Nat := Nat.pow 2 1024 - Nat.pow 2 970

/-- Whether the approximation of a number is in the range of double precision.  No power of ten
beyond the range is computed. -/
def isFinite (n : Number) : Bool :=
  let (first, later) := leading n.digits
  let scale : Int := n.exponent.getD 0 - n.places.getD 0 + later
  -- Dividing a word by a power of ten does not leave the range.
  if first = 0 ∨ scale ≤ 0 then true
  else scale ≤ 308 && rounded first * rounded (Nat.pow 10 scale.toNat) < overflow

/-- A number of at most 53 binary digits is its own rounding. -/
theorem rounded_of_log2_le {n : Nat} (h : n.log2 ≤ 52) : rounded n = n := by
  have hunit : Nat.pow 2 (n.log2 - 52) = 1 := congrArg (Nat.pow 2) (Nat.sub_eq_zero_of_le h)
  simp only [rounded, hunit, Nat.mod_one, Nat.div_one, Nat.mul_one]
  exact if_neg (by omega)

/-- The leading digits fit into a word. -/
theorem leading_fst_lt (digits : Nat) : (leading digits).1 < UInt64.size := by
  fun_induction leading digits with
  | case1 digits h => exact h
  | case2 digits h first later hl ih => rwa [hl] at ih

end Number

end RoomSearch.Json
