import Mathlib.Data.List.Induction
import Mathlib.Data.String.Basic
import RoomSearch.Entry
import RoomSearch.Proofs.TextOrder

/-!
# The identity of entries

Entries are compared in four ways: whether they are equal, which one comes first, which hash they
have, and whether they are in the same state.  The first three look at the addresses alone, and they
agree: equal entries are those of which none comes first, and their hashes are equal.  So it does
not matter by which of them a collection tells its members apart.

A set in order and a hash set that entries are put into one after the other turn an entry away that
is equal to one of their own.  So they keep the first entry of each address, and both have as many
members as there are addresses.  A set that is made of all entries at once sorts them before, and
keeps the last one of each address instead.

## Main definitions

* `Entry.treeSet` — a set in order of the addresses, which entries are put into.
* `Hashed`, `Entry.hashSet` — the members of hash sets, and a hash set that entries are put into.
* `Entry.Coherent` — the comparisons agree.
* `Entry.Collected` — what becomes of a list that is sorted, or put into sets.

## Main results

* `Entry.filter_sorted` — sorting keeps the order of equal entries.
* `Entry.mem_toList_treeSet`, `Entry.mem_lastOfEach` — the first, or the last, entries are kept.
* `Entry.identity_coherent` — **the comparisons agree, and so do the collections**.
-/

namespace RoomSearch

open Std (OrientedCmp TransCmp LawfulBEqCmp TreeSet HashSet)

namespace Entry

variable {a b e x : Entry} {entries rest : List Entry}

/-! ### Comparisons -/

theorem sameAddress_iff : a.sameAddress b = true ↔ a.address = b.address := beq_iff_eq

theorem compareAddress_eq_eq_iff : a.compareAddress b = .eq ↔ a.address = b.address :=
  compare_eq_iff_eq

theorem compareAddress_eq_lt_iff : a.compareAddress b = .lt ↔ a.address < b.address :=
  compare_lt_iff_lt

theorem isLE_compareAddress_iff : (a.compareAddress b).isLE = true ↔ a.address ≤ b.address :=
  Ordering.isLE_iff_ne_gt.trans compare_le_iff_le

instance : TransCmp compareAddress where
  eq_swap := OrientedCmp.eq_swap (α := String)
  isLE_trans := TransCmp.isLE_trans (α := String)

/-- Two entries are in the same state if all their fields are the same. -/
theorem sameState_iff : a.sameState b = true ↔ a.address = b.address ∧
    a.identifier = b.identifier ∧ a.provider = b.provider ∧ a.presence = b.presence ∧
    a.autoJoin = b.autoJoin := by
  simp only [sameState, Bool.and_eq_true, beq_iff_eq, and_assoc]

/-- Entries in the same state are one value, which is what the rules of change ask for. -/
theorem sameState_iff_eq : a.sameState b = true ↔ a = b := by
  rw [sameState_iff]
  cases a
  cases b
  exact iff_of_eq (Entry.mk.injEq ..).symm

/-- The comparisons of entries agree. -/
structure Coherent : Prop where
  /-- Entries are equal if they have one address. -/
  equal_iff : ∀ a b : Entry, a.sameAddress b = true ↔ a.address = b.address
  /-- Entries are equal if none of them comes first. -/
  equal_iff_compare : ∀ a b : Entry, a.sameAddress b = true ↔ a.compareAddress b = .eq
  /-- Equal entries are the same to every hasher. -/
  hash_eq : ∀ a b : Entry, a.sameAddress b = true → ∀ h : Hasher,
    (∀ state, a.feed h state = b.feed h state) ∧ a.identityHash h = b.identityHash h
  /-- Of two entries that are each not behind the other none comes first. -/
  antisymm : ∀ a b : Entry, (a.compareAddress b).isLE = true → (b.compareAddress a).isLE = true →
    a.sameAddress b = true
  /-- Not being behind another entry is transitive. -/
  trans : ∀ a b c : Entry, (a.compareAddress b).isLE = true → (b.compareAddress c).isLE = true →
    (a.compareAddress c).isLE = true
  /-- Of two entries one is not behind the other. -/
  total : ∀ a b : Entry, (a.compareAddress b).isLE = true ∨ (b.compareAddress a).isLE = true
  /-- What is asked the other way round is answered the other way round. -/
  swap : ∀ a b : Entry, a.compareAddress b = (b.compareAddress a).swap
  /-- The bytes of the addresses decide which entry comes first. -/
  lt_iff_bytes : ∀ a b : Entry,
    a.compareAddress b = .lt ↔ utf8Bytes a.address < utf8Bytes b.address
  /-- The code points of the addresses decide in the same way. -/
  lt_iff_codePoints : ∀ a b : Entry,
    a.compareAddress b = .lt ↔ codePoints a.address < codePoints b.address
  /-- Entries are in the same state if all their fields are the same. -/
  sameState_iff : ∀ a b : Entry, a.sameState b = true ↔ a.address = b.address ∧
    a.identifier = b.identifier ∧ a.provider = b.provider ∧ a.presence = b.presence ∧
    a.autoJoin = b.autoJoin
  /-- Entries in the same state are one value. -/
  sameState_iff_eq : ∀ a b : Entry, a.sameState b = true ↔ a = b
  /-- Entries in the same state are equal. -/
  sameAddress_of_sameState : ∀ a b : Entry, a.sameState b = true → a.sameAddress b = true

theorem coherent : Coherent where
  equal_iff _ _ := sameAddress_iff
  equal_iff_compare _ _ := sameAddress_iff.trans compareAddress_eq_eq_iff.symm
  hash_eq a b hequal h := by
    have hfeed : ∀ state, a.feed h state = b.feed h state := fun state =>
      congrArg (h.write state) (sameAddress_iff.mp hequal)
    exact ⟨hfeed, congrArg h.finish (hfeed h.start)⟩
  antisymm a b hab hba := by
    rw [isLE_compareAddress_iff] at hab hba
    exact sameAddress_iff.mpr (le_antisymm hab hba)
  trans _ _ _ := TransCmp.isLE_trans
  total a b := by
    rw [isLE_compareAddress_iff, isLE_compareAddress_iff]
    exact le_total a.address b.address
  swap _ _ := OrientedCmp.eq_swap
  lt_iff_bytes _ _ := compareAddress_eq_lt_iff.trans utf8Bytes_lt_utf8Bytes.symm
  lt_iff_codePoints _ _ := compareAddress_eq_lt_iff.trans codePoints_lt_codePoints.symm
  sameState_iff _ _ := sameState_iff
  sameState_iff_eq _ _ := sameState_iff_eq
  sameAddress_of_sameState _ _ hstate := sameAddress_iff.mpr (sameState_iff.mp hstate).1

/-! ### Sorting -/

theorem perm_sorted (entries : List Entry) : (sorted entries).Perm entries :=
  List.mergeSort_perm ..

theorem le_trans_address (a b c : Entry) (hab : decide (a.address ≤ b.address) = true)
    (hbc : decide (b.address ≤ c.address) = true) : decide (a.address ≤ c.address) = true :=
  decide_eq_true (le_trans (of_decide_eq_true hab) (of_decide_eq_true hbc))

theorem le_total_address (a b : Entry) :
    (decide (a.address ≤ b.address) || decide (b.address ≤ a.address)) = true := by
  simpa using le_total a.address b.address

theorem pairwise_sorted (entries : List Entry) :
    (sorted entries).Pairwise fun a b => (a.compareAddress b).isLE = true := by
  have hsorted := List.pairwise_mergeSort le_trans_address le_total_address entries
  exact hsorted.imp fun hle => isLE_compareAddress_iff.mpr (of_decide_eq_true hle)

/-- **Sorting is stable**: entries with one address stay as they came. -/
theorem filter_sorted (entries : List Entry) (e : Entry) :
    (sorted entries).filter (·.sameAddress e) = entries.filter (·.sameAddress e) := by
  have hties : (entries.filter (·.sameAddress e)).Pairwise
      fun a b => decide (a.address ≤ b.address) = true := by
    refine List.pairwise_of_forall_mem_list fun a ha b hb => decide_eq_true ?_
    have ha : a.address = e.address := sameAddress_iff.mp (List.mem_filter.mp ha).2
    have hb : b.address = e.address := sameAddress_iff.mp (List.mem_filter.mp hb).2
    exact (ha.trans hb.symm).le
  have hsublist : (entries.filter (·.sameAddress e)).Sublist (sorted entries) :=
    List.sublist_mergeSort le_trans_address le_total_address hties List.filter_sublist
  have hfiltered := hsublist.filter (·.sameAddress e)
  rw [List.filter_filter] at hfiltered
  simp only [Bool.and_self] at hfiltered
  exact (hfiltered.eq_of_length ((perm_sorted entries).filter _).length_eq.symm).symm

/-! ### Collections that grow -/

/-- A collection that takes in one address after the other holds those of its list. -/
theorem holds_iff_mem (holds : List Entry → Prop) {k : String} (hnil : ¬holds [])
    (hconcat : ∀ rest x, holds (rest ++ [x]) ↔ x.address = k ∨ holds rest)
    (entries : List Entry) : holds entries ↔ k ∈ entries.map address := by
  induction entries using List.reverseRecOn with
  | nil => exact iff_of_false hnil List.not_mem_nil
  | append_singleton rest x ih =>
    rw [hconcat, ih, List.map_append, List.mem_append, or_comm]
    simp [eq_comm]

theorem distinctCount_concat : distinctCount (rest ++ [x]) =
    if x.address ∈ rest.map address then distinctCount rest else distinctCount rest + 1 := by
  have hnew : ([x].map address).removeAll (rest.map address) =
      if x.address ∈ rest.map address then [] else [x.address] := by
    simp only [List.removeAll, List.map_cons, List.map_nil, List.filter_cons, List.filter_nil,
      List.elem_eq_mem, Bool.not_eq_true', decide_eq_false_iff_not, ite_not]
  rw [distinctCount, List.map_append, List.eraseDups_append, hnew, List.length_append]
  split
  · rfl
  · rfl

/-- A collection that grows with new addresses only has as many members as there are addresses. -/
theorem count_eq_distinctCount (count : List Entry → Nat) (hnil : count [] = 0)
    (hconcat : ∀ rest x, count (rest ++ [x]) =
      if x.address ∈ rest.map address then count rest else count rest + 1)
    (entries : List Entry) : count entries = distinctCount entries := by
  induction entries using List.reverseRecOn with
  | nil => exact hnil
  | append_singleton rest x ih => rw [hconcat, distinctCount_concat, ih]

/-! ### Sets in order -/

/-- The set in order of the addresses that entries are put into, one after the other.  An entry that
is equal to one of the set is turned away. -/
def treeSet (entries : List Entry) : TreeSet Entry compareAddress :=
  entries.foldl (fun set e => set.insert e) ∅

theorem treeSet_concat : treeSet (rest ++ [x]) = (treeSet rest).insert x := by
  simp [treeSet]

theorem mem_treeSet : e ∈ treeSet entries ↔ e.address ∈ entries.map address := by
  refine holds_iff_mem (e ∈ treeSet ·) TreeSet.not_mem_emptyc (fun rest x => ?_) entries
  rw [treeSet_concat, TreeSet.mem_insert, compareAddress_eq_eq_iff]

theorem size_treeSet (entries : List Entry) : (treeSet entries).size = distinctCount entries := by
  refine count_eq_distinctCount (fun given => (treeSet given).size) rfl (fun rest x => ?_) entries
  rw [treeSet_concat, TreeSet.size_insert]
  simp only [TreeSet.contains_iff_mem, mem_treeSet]

theorem mem_toList_insert {set : TreeSet Entry compareAddress} :
    e ∈ (set.insert x).toList ↔ e ∈ set.toList ∨ x ∉ set ∧ e = x := by
  have hlawful : @LawfulBEqCmp Entry ⟨sameAddress⟩ compareAddress :=
    @LawfulBEqCmp.mk _ ⟨sameAddress⟩ _ (compareAddress_eq_eq_iff.trans sameAddress_iff.symm)
  have hperm := @TreeSet.toList_insert_perm _ _ set ⟨sameAddress⟩ _ hlawful x
  rw [hperm.mem_iff]
  split
  · next hx => simp [hx]
  · next hx => simp [hx, or_comm]

/-- **The first entry of each address** is kept. -/
theorem mem_toList_treeSet :
    e ∈ (treeSet entries).toList ↔ entries.find? (·.sameAddress e) = some e := by
  induction entries using List.reverseRecOn with
  | nil => exact iff_of_false List.not_mem_nil (by simp)
  | append_singleton rest x ih =>
    rw [treeSet_concat, mem_toList_insert, ih, mem_treeSet, List.find?_append]
    cases hfound : rest.find? (·.sameAddress e) with
    | some first =>
      -- there is an entry with the address of `e`, so `e` is not put in as a new one
      have hfirst : e.address ∈ rest.map address := by
        rw [← sameAddress_iff.mp (List.find?_some hfound :)]
        exact List.mem_map_of_mem (List.mem_of_find?_eq_some hfound)
      refine or_iff_left ?_
      rintro ⟨hnew, rfl⟩
      exact hnew hfirst
    | none =>
      have hnew : e.address ∉ rest.map address := by
        intro hmem
        obtain ⟨y, hy, haddress⟩ := List.mem_map.mp hmem
        exact List.find?_eq_none.mp hfound y hy (sameAddress_iff.mpr haddress)
      rw [Option.none_or, List.find?_singleton, Option.ite_none_right_eq_some]
      constructor
      · rintro (hnone | ⟨-, rfl⟩)
        · cases hnone
        · exact ⟨sameAddress_iff.mpr rfl, rfl⟩
      · rintro ⟨-, heq⟩
        obtain rfl := Option.some.inj heq
        exact .inr ⟨hnew, rfl⟩

end Entry

/-! ### Hash sets -/

/-- An entry as a member of hash sets: it is told apart by its address, and found by its hash. -/
structure Hashed (h : Hasher) where
  /-- The entry. -/
  entry : Entry

namespace Hashed

variable {h : Hasher}

instance : BEq (Hashed h) := ⟨fun a b => a.entry.sameAddress b.entry⟩

instance : Hashable (Hashed h) := ⟨fun a => a.entry.identityHash h⟩

theorem beq_iff {a b : Hashed h} : (a == b) = true ↔ a.entry.address = b.entry.address :=
  Entry.sameAddress_iff

instance : EquivBEq (Hashed h) where
  rfl := beq_iff.mpr rfl
  symm hab := beq_iff.mpr (beq_iff.mp hab).symm
  trans hab hbc := beq_iff.mpr ((beq_iff.mp hab).trans (beq_iff.mp hbc))

instance : LawfulHashable (Hashed h) where
  hash_eq a b hab := (Entry.coherent.hash_eq a.entry b.entry hab h).2

end Hashed

namespace Entry

variable {x : Entry} {entries rest : List Entry} {h : Hasher}

/-- The hash set that entries are put into, one after the other. -/
def hashSet (h : Hasher) (entries : List Entry) : HashSet (Hashed h) :=
  entries.foldl (fun set e => set.insert ⟨e⟩) ∅

theorem hashSet_concat : hashSet h (rest ++ [x]) = (hashSet h rest).insert ⟨x⟩ := by
  simp [hashSet]

theorem mem_hashSet {a : Hashed h} :
    a ∈ hashSet h entries ↔ a.entry.address ∈ entries.map address := by
  refine holds_iff_mem (a ∈ hashSet h ·) HashSet.not_mem_empty (fun rest x => ?_) entries
  rw [hashSet_concat, HashSet.mem_insert, Hashed.beq_iff]

theorem size_hashSet (h : Hasher) (entries : List Entry) :
    (hashSet h entries).size = distinctCount entries := by
  refine count_eq_distinctCount (fun given => (hashSet h given).size) rfl (fun rest x => ?_) entries
  rw [hashSet_concat, HashSet.size_insert]
  simp only [mem_hashSet]

/-! ### Sets that are made at once -/

theorem lastOfEach_concat :
    lastOfEach (rest ++ [x]) = Keyed.insert address x (lastOfEach rest) := by
  simp [lastOfEach]

theorem sorted_lastOfEach (entries : List Entry) : Keyed.Sorted address (lastOfEach entries) := by
  induction entries using List.reverseRecOn with
  | nil => exact Keyed.sorted_nil
  | append_singleton rest x ih =>
    rw [lastOfEach_concat]
    exact Keyed.sorted_insert ih

theorem find?_lastOfEach (entries : List Entry) (k : String) :
    Keyed.find? address k (lastOfEach entries) = Keyed.find? address k entries.reverse := by
  induction entries using List.reverseRecOn with
  | nil => rfl
  | append_singleton rest x ih =>
    rw [lastOfEach_concat, Keyed.find?_insert, ih, List.reverse_concat, Keyed.find?_cons]

/-- **The last entry of each address** is kept. -/
theorem mem_lastOfEach {e : Entry} :
    e ∈ lastOfEach entries ↔ entries.reverse.find? (·.sameAddress e) = some e := by
  have hfound := Keyed.find?_eq_some_iff_of_sorted (k := e.address) (x := e)
    (sorted_lastOfEach entries)
  rw [find?_lastOfEach] at hfound
  exact (hfound.trans (and_iff_left rfl)).symm

/-! ### All together -/

/-- What becomes of entries that are sorted, or put into sets. -/
structure Collected (entries : List Entry) : Prop where
  /-- Sorting neither adds nor drops an entry. -/
  perm : (sorted entries).Perm entries
  /-- No sorted entry is behind a later one. -/
  ordered : (sorted entries).Pairwise fun a b => (a.compareAddress b).isLE = true
  /-- Sorting leaves equal entries as they came. -/
  stable : ∀ e, (sorted entries).filter (·.sameAddress e) = entries.filter (·.sameAddress e)
  /-- The members of a set in order increase strictly. -/
  increasing : (treeSet entries).toList.Pairwise fun a b => a.compareAddress b = .lt
  /-- They are the first entries of their addresses, in all fields. -/
  first : ∀ e, e ∈ (treeSet entries).toList ↔ entries.find? (·.sameAddress e) = some e
  /-- A hash set has as many members, whatever its hasher is. -/
  size_eq : ∀ h, (treeSet entries).size = (hashSet h entries).size
  /-- Both have a member for each address. -/
  counted : (treeSet entries).size = distinctCount entries
  /-- The members of a set that is made at once increase strictly as well. -/
  atOnce : (lastOfEach entries).Pairwise fun a b => a.compareAddress b = .lt
  /-- But they are the last entries of their addresses. -/
  last : ∀ e, e ∈ lastOfEach entries ↔ entries.reverse.find? (·.sameAddress e) = some e

/-- **The comparisons of entries agree**, and so do the collections that rest on them: entries that
are sorted are all there, in order, and equal ones as they came; a set in order that they are put
into keeps the first one of each address; and it has as many members as a hash set. -/
theorem identity_coherent : Coherent ∧ ∀ entries : List Entry, Collected entries := by
  refine ⟨coherent, fun entries => ?_⟩
  have hlast : (lastOfEach entries).Pairwise fun a b => a.compareAddress b = .lt :=
    (sorted_lastOfEach entries).imp compareAddress_eq_lt_iff.mpr
  exact
    { perm := perm_sorted entries
      ordered := pairwise_sorted entries
      stable := filter_sorted entries
      increasing := TreeSet.ordered_toList
      first := fun _ => mem_toList_treeSet
      size_eq := fun h => (size_treeSet entries).trans (size_hashSet h entries).symm
      counted := size_treeSet entries
      atOnce := hlast
      last := fun _ => mem_lastOfEach }

end Entry

end RoomSearch
