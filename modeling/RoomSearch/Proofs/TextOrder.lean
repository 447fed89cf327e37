import Mathlib.Data.String.Basic

/-!
# The order of texts

Texts are ordered by their code points, the first one that is different decides.  The bytes of their
UTF-8 forms decide in the same way: a character is written as a number in groups of six bits, and
the first byte is higher the more bytes follow it.  So of two different characters the lower one has
the lower bytes, and neither form begins with the other.

## Main definitions

* `codePoints` — the numbers of the characters of a text, in order.
* `utf8Bytes` — the bytes of a text in UTF-8, in order.
* `sixBitBytes` — a number as a marked first byte and bytes of six bits each.

## Main results

* `codePoints_lt_codePoints` — texts are ordered by their code points.
* `utf8EncodeChar_append_lt` — the bytes of two characters decide, whatever follows them.
* `utf8Bytes_lt_utf8Bytes` — **texts are ordered by their bytes**.
-/

namespace RoomSearch

/-! ### Code points -/

/-- The numbers of the characters of a text, in order. -/
def codePoints (text : String) : List Nat := text.toList.map Char.toNat

/-- The numbers of the characters decide between lists as the characters do. -/
theorem map_toNat_lt_map_toNat {l l' : List Char} :
    l.map Char.toNat < l'.map Char.toNat ↔ l < l' := by
  have hlt : ∀ c c' : Char, c.toNat < c'.toNat ↔ c < c' := fun _ _ => Iff.rfl
  induction l generalizing l' with
  | nil => cases l' <;> simp
  | cons c rest ih =>
    cases l' with
    | nil => simp
    | cons c' rest' =>
      simp only [List.map_cons, List.cons_lt_cons_iff, ih, hlt, Char.toNat_inj]

/-- **Texts are ordered by their code points.** -/
theorem codePoints_lt_codePoints {a b : String} : codePoints a < codePoints b ↔ a < b :=
  map_toNat_lt_map_toNat.trans String.lt_iff_toList_lt.symm

namespace Utf8

/-! ### Groups of six bits -/

/-- A number as a first byte, which carries a mark, and bytes of six bits each behind it. -/
def sixBitBytes (mark : Nat) : Nat → Nat → List UInt8
  | v, 0 => [UInt8.ofNat (v + mark)]
  | v, k + 1 => sixBitBytes mark (v / 64) k ++ [UInt8.ofNat (v % 64 + 128)]

/-- What is left of a number for the first byte. -/
def leading : Nat → Nat → Nat
  | v, 0 => v
  | v, k + 1 => leading (v / 64) k

theorem ofNat_lt_ofNat {m n : Nat} (h : m < n) (hn : n < 256) : UInt8.ofNat m < UInt8.ofNat n := by
  rw [UInt8.lt_iff_toNat_lt, UInt8.toNat_ofNat', UInt8.toNat_ofNat']
  omega

theorem exists_sixBitBytes_eq_cons (mark v k : Nat) :
    ∃ rest, sixBitBytes mark v k = UInt8.ofNat (leading v k + mark) :: rest := by
  induction k generalizing v with
  | zero => exact ⟨[], rfl⟩
  | succ k ih =>
    obtain ⟨rest, hrest⟩ := ih (v / 64)
    refine ⟨rest ++ [UInt8.ofNat (v % 64 + 128)], ?_⟩
    rw [sixBitBytes, hrest]
    rfl

/-- Of two numbers with equally many bytes the lower one has the lower bytes. -/
theorem sixBitBytes_append_lt {mark m n k : Nat} (h : m < n) (hfits : leading n k + mark < 256)
    (x y : List UInt8) : sixBitBytes mark m k ++ x < sixBitBytes mark n k ++ y := by
  induction k generalizing m n x y with
  | zero =>
    have hn : n + mark < 256 := hfits
    exact List.cons_lt_cons_iff.mpr (.inl (ofNat_lt_ofNat (by omega) hn))
  | succ k ih =>
    rw [sixBitBytes, sixBitBytes, List.append_assoc, List.append_assoc]
    rcases Nat.lt_or_ge (m / 64) (n / 64) with hlt | hge
    · exact ih hlt hfits _ _
    · -- the upper parts are the same, so the last six bits decide
      have heq : m / 64 = n / 64 := by omega
      rw [heq]
      refine List.append_left_lt (List.cons_lt_cons_iff.mpr (.inl ?_))
      exact ofNat_lt_ofNat (by omega) (by omega)

/-! ### Characters -/

/-- How many bytes follow the first one of a character. -/
def following (v : Nat) : Nat :=
  if v ≤ 0x7f then 0 else if v ≤ 0x7ff then 1 else if v ≤ 0xffff then 2 else 3

/-- The mark of a first byte that so many others follow. -/
def mark : Nat → Nat
  | 0 => 0
  | 1 => 0xc0
  | 2 => 0xe0
  | _ => 0xf0

/-- The first byte of a character. -/
def firstByte (v : Nat) : Nat := leading v (following v) + mark (following v)

theorem toNat_lt (c : Char) : c.toNat < 0x110000 := by
  have hvalid : c.toNat < 0xd800 ∨ 0xdfff < c.toNat ∧ c.toNat < 0x110000 := c.valid
  omega

/-- **The bytes of a character** are those of its number. -/
theorem utf8EncodeChar_eq (c : Char) : String.utf8EncodeChar c =
    sixBitBytes (mark (following c.toNat)) c.toNat (following c.toNat) := by
  have hc := toNat_lt c
  have hval : c.val.toNat = c.toNat := rfl
  unfold String.utf8EncodeChar following
  rw [hval]
  generalize c.toNat = v at hc
  dsimp only
  split_ifs with h1 h2 h3
  · rfl
  · have hfirst : v / 64 % 32 + 192 = v / 64 + mark 1 := by
      show _ = v / 64 + 192
      omega
    rw [hfirst]
    rfl
  · have hfirst : v / 4096 % 16 + 224 = v / 64 / 64 + mark 2 := by
      show _ = v / 64 / 64 + 224
      omega
    rw [hfirst]
    rfl
  · have hfirst : v / 262144 % 8 + 240 = v / 64 / 64 / 64 + mark 3 := by
      show _ = v / 64 / 64 / 64 + 240
      omega
    have hsecond : v / 4096 % 64 = v / 64 / 64 % 64 := by omega
    rw [hfirst, hsecond]
    rfl

theorem following_le_three (v : Nat) : following v ≤ 3 := by
  unfold following
  split_ifs <;> omega

/-- A mark is above the first bytes that fewer others follow. -/
theorem firstByte_lt_mark {v k : Nat} (h : following v < k) (hk : k ≤ 3) :
    firstByte v < mark k := by
  have hcases : v ≤ 0x7f ∧ following v = 0 ∨ v ≤ 0x7ff ∧ following v = 1 ∨
      v ≤ 0xffff ∧ following v = 2 ∨ following v = 3 := by
    unfold following
    split_ifs <;> omega
  unfold firstByte
  rcases hcases with ⟨hv, hk'⟩ | ⟨hv, hk'⟩ | ⟨hv, hk'⟩ | hk' <;> rw [hk'] at h ⊢
  · match k with
    | 1 | 2 | 3 => simp only [leading, mark]; omega
  · match k with
    | 2 | 3 => simp only [leading, mark]; omega
  · match k with
    | 3 => simp only [leading, mark]; omega
  · omega

theorem firstByte_lt {v : Nat} (h : v < 0x110000) : firstByte v < 256 := by
  unfold firstByte following
  split_ifs <;> simp only [leading, mark] <;> omega

theorem following_le_following {m n : Nat} (h : m < n) : following m ≤ following n := by
  unfold following
  split_ifs <;> omega

/-- **The bytes of two characters** decide, whatever follows them. -/
theorem utf8EncodeChar_append_lt {c d : Char} (h : c < d) (x y : List UInt8) :
    String.utf8EncodeChar c ++ x < String.utf8EncodeChar d ++ y := by
  have hlt : c.toNat < d.toNat := h
  have hfits := firstByte_lt (toNat_lt d)
  rw [utf8EncodeChar_eq, utf8EncodeChar_eq]
  rcases Nat.lt_or_eq_of_le (following_le_following hlt) with hmore | hsame
  · obtain ⟨rest, hrest⟩ := exists_sixBitBytes_eq_cons (mark (following c.toNat)) c.toNat
      (following c.toNat)
    obtain ⟨rest', hrest'⟩ := exists_sixBitBytes_eq_cons (mark (following d.toNat)) d.toNat
      (following d.toNat)
    rw [hrest, hrest']
    refine List.cons_lt_cons_iff.mpr (.inl (ofNat_lt_ofNat ?_ hfits))
    have hmark := firstByte_lt_mark hmore (following_le_three d.toNat)
    exact Nat.lt_of_lt_of_le hmark (Nat.le_add_left ..)
  · rw [hsame]
    exact sixBitBytes_append_lt hlt hfits x y

end Utf8

/-! ### Bytes -/

/-- The bytes of a text in UTF-8, in order. -/
def utf8Bytes (text : String) : List UInt8 := text.toUTF8.data.toList

theorem utf8Bytes_eq (text : String) :
    utf8Bytes text = text.toList.flatMap String.utf8EncodeChar := by
  have hencode : text.toList.utf8Encode = text.toUTF8 := String.utf8Encode_toList
  rw [utf8Bytes, ← hencode, List.utf8Encode, List.data_toByteArray]

/-- A beginning that two lists have in common does not decide. -/
theorem append_lt_append_left_iff {p x y : List UInt8} : p ++ x < p ++ y ↔ x < y := by
  induction p with
  | nil => rfl
  | cons b p ih =>
    rw [List.cons_append, List.cons_append, List.cons_lt_cons_iff, ih]
    exact ⟨fun h => (h.resolve_left (UInt8.lt_irrefl b)).2, fun h => .inr ⟨rfl, h⟩⟩

/-- The bytes of characters decide between lists as the characters do. -/
theorem flatMap_utf8EncodeChar_lt_flatMap {l l' : List Char} :
    l.flatMap String.utf8EncodeChar < l'.flatMap String.utf8EncodeChar ↔ l < l' := by
  induction l generalizing l' with
  | nil =>
    cases l' with
    | nil => simp
    | cons d rest' =>
      obtain ⟨b, hb⟩ := Utf8.exists_sixBitBytes_eq_cons _ d.toNat (Utf8.following d.toNat)
      rw [List.flatMap_nil, List.flatMap_cons, Utf8.utf8EncodeChar_eq, hb]
      exact iff_of_true (List.nil_lt_cons ..) (List.nil_lt_cons ..)
  | cons c rest ih =>
    cases l' with
    | nil => simp
    | cons d rest' =>
      rw [List.flatMap_cons, List.flatMap_cons, List.cons_lt_cons_iff]
      rcases lt_trichotomy c d with hlt | rfl | hgt
      · exact iff_of_true (Utf8.utf8EncodeChar_append_lt hlt _ _) (.inl hlt)
      · rw [append_lt_append_left_iff, ih]
        exact ⟨fun h => .inr ⟨rfl, h⟩, fun h => (h.resolve_left (lt_irrefl c)).2⟩
      · refine iff_of_false (List.lt_asymm (Utf8.utf8EncodeChar_append_lt hgt _ _)) ?_
        rintro (hlt | ⟨rfl, -⟩)
        · exact lt_asymm hgt hlt
        · exact lt_irrefl _ hgt

/-- **Texts are ordered by their bytes.** -/
theorem utf8Bytes_lt_utf8Bytes {a b : String} : utf8Bytes a < utf8Bytes b ↔ a < b := by
  rw [utf8Bytes_eq, utf8Bytes_eq, flatMap_utf8EncodeChar_lt_flatMap]
  exact String.lt_iff_toList_lt.symm

end RoomSearch
