/-!
# Hexadecimal digits

## Main definitions

* `hexDigit` — the lower case digit of a number below sixteen.
* `hexValue?` — the number a digit of either case stands for.
* `lastHexDigit` — the last digit of a number.
* `hexNumeral` — a number in lower case digits, without leading zeros.

## Main results

* `hexValue?_hexDigit` — reading a written digit gives the number back.
-/

namespace RoomSearch.Text

/-- The lower case digit of a number below sixteen. -/
def hexDigit (n : Fin 16) : Char :=
  if n.val < 10 then Char.ofNat ('0'.toNat + n.val) else Char.ofNat ('a'.toNat + (n.val - 10))

/-- The last hexadecimal digit of a number, as a number. -/
def lastHexDigit (n : Nat) : Fin 16 := ⟨n % 16, Nat.mod_lt n (Nat.succ_pos 15)⟩

/-- The number a hexadecimal digit of either case stands for. -/
def hexValue? (c : Char) : Option (Fin 16) :=
  if '0' ≤ c ∧ c ≤ '9' then some (lastHexDigit (c.toNat - '0'.toNat))
  else if 'a' ≤ c ∧ c ≤ 'f' then some (lastHexDigit (c.toNat - 'a'.toNat + 10))
  else if 'A' ≤ c ∧ c ≤ 'F' then some (lastHexDigit (c.toNat - 'A'.toNat + 10))
  else none

/-- A number in lower case hexadecimal digits, without leading zeros. -/
def hexNumeral (n : Nat) : List Char := Nat.toDigits 16 n

/-- **Reading a written digit** gives the number back. -/
@[simp] theorem hexValue?_hexDigit (n : Fin 16) : hexValue? (hexDigit n) = some n := by
  revert n; decide

end RoomSearch.Text
