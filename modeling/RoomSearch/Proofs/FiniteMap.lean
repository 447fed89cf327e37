import Mathlib.Data.Finmap
import Mathlib.Data.Finset.Sort
import RoomSearch.Proofs.Picture
import RoomSearch.Proofs.TextOrder
import RoomSearch.ResultSet.Operations

/-!
# Result sets as finite maps

A result set is worked on as a finite map from addresses to entries would be: what an operation
hands over, what is found at an address and how much is stored are the same for both.  What a map
does not have is an order, and a set has that of the addresses, by their code points; so the place
of an address counts the addresses before it.

## Main definitions

* `EntryMap` — the finite maps; `EntryMap.listing` has the entries in the order of their addresses.
* `EntryMap.edit` — what an edit does to a map.
* `ResultSet.Presents` — a set has the entries of a map and lists them in order.

## Main results

* `ResultSet.presents` — a set presents a map if it is in order and finds what the map has.
* `ResultSet.Presents.edit` — an edit hands over the same for both, and the set still presents the
  map.
* `ResultSet.refines_map` — **whatever is done to an empty set**, it hands over what the map hands
  over and presents it, and so does every copy of it from the time at which it was put aside.
-/

namespace RoomSearch

open ResultSet (Edit Outcome Operation)

/-! ### Finite maps of entries -/

/-- A finite map from addresses to entries. -/
abbrev EntryMap := Finmap fun _ : String => Entry

namespace EntryMap

/-- The entries in the order of their addresses. -/
def listing (m : EntryMap) : List Entry := (m.keys.sort (· ≤ ·)).filterMap m.lookup

/-- The entries for which a predicate with a memory holds, when it is asked for one after the
other. -/
def picked {σ : Type} (ask : σ → Entry → Bool × σ) : σ → List Entry → List Entry
  | _, [] => []
  | memory, e :: rest =>
    match ask memory e with
    | (true, memory) => e :: picked ask memory rest
    | (false, memory) => picked ask memory rest

/-- What an edit hands over, and the map after it. -/
def edit (m : EntryMap) : Edit → Outcome × EntryMap
  | .upsert e => (.former (m.lookup e.address), m.insert e.address e)
  | .remove address => (.former (m.lookup address), m.erase address)
  | .removeWhere ask memory =>
    let found := picked ask memory m.listing
    (.removed found, found.foldl (fun m e => m.erase e.address) m)

/-- The shelf of an owner that begins with the empty map. -/
def worked (operations : List Operation) : List Outcome × Shelf EntryMap :=
  Shelf.performAll edit ⟨∅, []⟩ operations

/-- What is found in a map once entries have been taken out. -/
theorem lookup_foldl_erase (m : EntryMap) (found : List Entry) (address : String) :
    (found.foldl (fun m e => m.erase e.address) m).lookup address =
      if address ∈ found.map Entry.address then none else m.lookup address := by
  induction found generalizing m with
  | nil => rfl
  | cons e rest ih =>
    rw [List.foldl_cons, ih, List.map_cons]
    by_cases haddress : address = e.address
    · subst haddress
      simp
    · simp [haddress]

end EntryMap

namespace ResultSet

variable {s s' : ResultSet} {m m' : EntryMap} {address : String} {e : Entry}

/-- A set has the entries of a map and lists them in order. -/
structure Presents (s : ResultSet) (m : EntryMap) : Prop where
  /-- Every entry is stored under its own address. -/
  addressed : ∀ address e, m.lookup address = some e → e.address = address
  /-- What is listed is what is stored. -/
  listed : ∀ e, e ∈ s.entries ↔ m.lookup e.address = some e
  /-- The code points of the addresses increase strictly along the list. -/
  increasing : s.entries.Pairwise fun e e' => codePoints e.address < codePoints e'.address
  /-- What is found at an address is what is stored there. -/
  found : ∀ address, s.find? address = m.lookup address
  /-- An address is taken if something is stored there. -/
  taken : ∀ address, s.contains address = true ↔ address ∈ m
  /-- As much is counted as is stored. -/
  counted : s.size = m.keys.card
  /-- Only the empty set stands for the empty map. -/
  empty : s.isEmpty = true ↔ m = ∅
  /-- The place of an address counts the addresses before it. -/
  ranked : ∀ address, s.indexOf? address =
    if address ∈ m then some (m.keys.filter fun k => codePoints k < codePoints address).card
    else none
  /-- An address stands at its place. -/
  placed : ∀ address place, s.indexOf? address = some place →
    (s.entries[place]?).map Entry.address = some address

/-! ### Sets and maps that agree -/

/-- The addresses of a set in order. -/
theorem Sorted.addresses (h : s.Sorted) : (s.entries.map Entry.address).Pairwise (· < ·) :=
  List.pairwise_map.mpr h

theorem Sorted.nodup_addresses (h : s.Sorted) : (s.entries.map Entry.address).Nodup :=
  h.addresses.imp ne_of_lt

/-- An entry is in a set in order if it is found at its own address. -/
theorem Sorted.mem_entries_iff (h : s.Sorted) : e ∈ s.entries ↔ s.find? e.address = some e := by
  refine Iff.trans ?_ (Keyed.find?_eq_some_iff_of_sorted h).symm
  simp

/-- The place of an address in a list in order counts the addresses before it. -/
theorem findIdx?_eq_of_sorted {l : List Entry} (h : Keyed.Sorted Entry.address l) :
    l.findIdx? (fun e => e.address == address) =
      if (Keyed.find? Entry.address address l).isSome then
        some ((l.map Entry.address).filter fun k => k < address).length
      else none := by
  induction l with
  | nil => rfl
  | cons e rest ih =>
    obtain ⟨hfirst, hrest⟩ := Keyed.sorted_cons.mp h
    rw [List.findIdx?_cons, Keyed.find?_cons, List.map_cons]
    by_cases heq : e.address = address
    · -- All that stands behind the address is above it.
      have hnone : (rest.map Entry.address).filter (fun k => k < address) = [] := by
        refine List.filter_eq_nil_iff.mpr fun k hk => ?_
        obtain ⟨e', he', rfl⟩ := List.mem_map.mp hk
        simpa only [decide_eq_true_eq] using not_lt_of_gt (heq ▸ hfirst e' he' :)
      rw [List.filter_cons_of_neg (by simpa only [decide_eq_true_eq] using heq.not_lt), hnone]
      simp [heq]
    · rw [if_neg (by simpa using heq), ih hrest, if_neg heq]
      cases hfound : Keyed.find? Entry.address address rest with
      | none => rfl
      | some e' =>
        have hlt : e.address < address := by
          have := hfirst e' (Keyed.mem_of_find? hfound)
          rwa [Keyed.key_eq_of_find? hfound] at this
        rw [List.filter_cons_of_pos (by simpa only [decide_eq_true_eq] using hlt)]
        rfl

section

variable (h : s.Sorted) (hfind : ∀ address, s.find? address = m.lookup address)

include hfind in
theorem mem_iff_isSome_find? : address ∈ m ↔ (s.find? address).isSome := by
  rw [hfind]
  exact Finmap.lookup_isSome.symm

include h hfind in
theorem toFinset_addresses : (s.entries.map Entry.address).toFinset = m.keys := by
  ext address
  rw [List.mem_toFinset, Finmap.mem_keys, mem_iff_isSome_find? hfind, List.mem_map,
    Option.isSome_iff_exists]
  constructor
  · rintro ⟨e, he, rfl⟩
    exact ⟨e, h.mem_entries_iff.mp he⟩
  · rintro ⟨e, he⟩
    exact ⟨e, Keyed.mem_of_find? he, address_of_find? he⟩

include h hfind in
/-- The listing of a map is the list of the set. -/
theorem listing_eq_entries : m.listing = s.entries := by
  have hsort : m.keys.sort (· ≤ ·) = s.entries.map Entry.address := by
    rw [← toFinset_addresses h hfind]
    exact (List.toFinset_sort _ h.nodup_addresses).mpr (h.addresses.imp le_of_lt)
  rw [EntryMap.listing, hsort, List.filterMap_map]
  refine (List.filterMap_congr fun e he => ?_).trans List.filterMap_some
  exact (hfind _).symm.trans (h.mem_entries_iff.mp he)

include h hfind in
theorem card_filter_keys (p : String → Prop) [DecidablePred p] :
    (m.keys.filter p).card = ((s.entries.map Entry.address).filter fun k => p k).length := by
  rw [← toFinset_addresses h hfind, List.filter_toFinset,
    List.toFinset_card_of_nodup (h.nodup_addresses.filter _)]

include h hfind in
/-- **A set presents a map** if it is in order and finds what the map has. -/
theorem presents : s.Presents m where
  addressed _ _ hlookup := address_of_find? ((hfind _).trans hlookup)
  listed e := by rw [← hfind, h.mem_entries_iff]
  increasing := h.imp codePoints_lt_codePoints.mpr
  found := hfind
  taken _ := (mem_iff_isSome_find? hfind).symm
  counted := by
    rw [← toFinset_addresses h hfind, List.toFinset_card_of_nodup h.nodup_addresses,
      List.length_map, size]
  empty := by
    rw [isEmpty, List.isEmpty_iff, ← List.map_eq_nil_iff (f := Entry.address),
      ← List.toFinset_eq_empty_iff, toFinset_addresses h hfind]
    constructor
    · intro hkeys
      refine Finmap.ext_lookup fun address => ?_
      rw [Finmap.lookup_empty, Finmap.lookup_eq_none, ← Finmap.mem_keys, hkeys]
      exact Finset.notMem_empty address
    · rintro rfl
      exact Finmap.keys_empty
  ranked address := by
    rw [indexOf?, findIdx?_eq_of_sorted h, card_filter_keys h hfind]
    simp only [mem_iff_isSome_find? hfind, codePoints_lt_codePoints]
    rfl
  placed address place hplace := by
    obtain ⟨hlt, haddress, -⟩ := List.findIdx?_eq_some_iff_getElem.mp hplace
    rw [List.getElem?_eq_getElem hlt, Option.map_some, beq_iff_eq.mp haddress]

end

theorem Presents.sorted (h : s.Presents m) : s.Sorted :=
  h.increasing.imp codePoints_lt_codePoints.mp

/-- The empty set presents the empty map. -/
theorem presents_empty : ResultSet.empty.Presents ∅ :=
  presents Keyed.sorted_nil fun _ => rfl

/-! ### Edits -/

/-- The entries that a predicate with a memory picks are those for which it answers that it holds. -/
theorem map_filter_answers {σ : Type} (ask : σ → Entry → Bool × σ) (memory : σ)
    (entries : List Entry) :
    ((answers ask memory entries).1.filter (·.2)).map (·.1) =
      EntryMap.picked ask memory entries := by
  induction entries generalizing memory with
  | nil => rfl
  | cons e rest ih =>
    rw [EntryMap.picked, answers]
    obtain ⟨answer, memory⟩ := ask memory e
    cases answer with
    | true => exact congrArg (e :: ·) (ih memory)
    | false => exact ih memory

theorem Sorted.foldl_erase (h : s.Sorted) (removed : List Entry) :
    (removed.foldl (fun set e => set.erase e.address) s).Sorted := by
  induction removed generalizing s with
  | nil => exact h
  | cons e rest ih => exact ih (h.erase e.address)

/-- **An edit** of a set hands over what that of the map hands over, and the set still presents the
map. -/
theorem Presents.edit (h : s.Presents m) (e : Edit) :
    (s.edit e).1 = (EntryMap.edit m e).1 ∧ (s.edit e).2.Presents (EntryMap.edit m e).2 := by
  cases e with
  | upsert e =>
    refine ⟨congrArg Outcome.former (h.found e.address), presents (h.sorted.insert e) ?_⟩
    intro address
    show (s.insert e).find? address = (m.insert e.address e).lookup address
    rw [find?_insert]
    split
    · next heq => rw [← heq, Finmap.lookup_insert]
    · next hne => rw [Finmap.lookup_insert_of_ne _ (Ne.symm hne), h.found]
  | remove erased =>
    refine ⟨congrArg Outcome.former (h.found erased), presents (h.sorted.erase erased) ?_⟩
    intro address
    show (s.erase erased).find? address = (m.erase erased).lookup address
    rw [find?_erase]
    split
    · next heq => rw [heq, Finmap.lookup_erase]
    · next hne => rw [Finmap.lookup_erase_ne hne, h.found]
  | removeWhere ask memory =>
    have hpicked : ((answers ask memory s.entries).1.filter (·.2)).map (·.1) =
        EntryMap.picked ask memory m.listing := by
      rw [map_filter_answers, listing_eq_entries h.sorted h.found]
    refine ⟨congrArg Outcome.removed hpicked, presents (h.sorted.foldl_erase _) ?_⟩
    intro address
    refine (find?_foldl_erase ..).trans ?_
    rw [hpicked, h.found]
    exact (EntryMap.lookup_foldl_erase m _ address).symm

end ResultSet

/-! ### Shelves -/

namespace Shelf

/-- Shelves agree if the sets on the one present the maps on the other, place by place. -/
structure Presents (shelf : Shelf ResultSet) (maps : Shelf EntryMap) : Prop where
  /-- What is worked on. -/
  current : shelf.current.Presents maps.current
  /-- The copies that were put aside. -/
  aside : List.Forall₂ ResultSet.Presents shelf.aside maps.aside

variable {α : Type} {edit : α → Edit → Outcome × α}
variable {shelf : Shelf ResultSet} {maps : Shelf EntryMap}

/-- One piece of work. -/
theorem Presents.perform (h : shelf.Presents maps) (operation : Operation) :
    (shelf.perform ResultSet.edit operation).1 = (maps.perform EntryMap.edit operation).1 ∧
      (shelf.perform ResultSet.edit operation).2.Presents
        (maps.perform EntryMap.edit operation).2 := by
  cases operation with
  | edit e =>
    obtain ⟨houtcome, hcurrent⟩ := h.current.edit e
    exact ⟨houtcome, hcurrent, h.aside⟩
  | setAside =>
    exact ⟨rfl, h.current, List.rel_append h.aside (.cons h.current .nil)⟩
  | restore place =>
    refine ⟨rfl, ?_, h.aside⟩
    obtain ⟨hlength, hget⟩ := List.forall₂_iff_get.mp h.aside
    show (shelf.aside[place]?.getD shelf.current).Presents (maps.aside[place]?.getD maps.current)
    -- Both shelves have a copy at the place, or neither has.
    by_cases hlt : place < shelf.aside.length
    · rw [List.getElem?_eq_getElem hlt, List.getElem?_eq_getElem (hlength ▸ hlt)]
      exact hget place hlt (hlength ▸ hlt)
    · rw [List.getElem?_eq_none (by omega), List.getElem?_eq_none (by omega)]
      exact h.current

/-- **All the work**, one piece after the other. -/
theorem Presents.performAll (h : shelf.Presents maps) (operations : List Operation) :
    (shelf.performAll ResultSet.edit operations).1 =
        (maps.performAll EntryMap.edit operations).1 ∧
      (shelf.performAll ResultSet.edit operations).2.Presents
        (maps.performAll EntryMap.edit operations).2 := by
  induction operations generalizing shelf maps with
  | nil => exact ⟨rfl, h⟩
  | cons operation rest ih =>
    obtain ⟨houtcome, hnext⟩ := h.perform operation
    obtain ⟨hlater, hlast⟩ := ih hnext
    exact ⟨congrArg₂ List.cons houtcome hlater, hlast⟩

/-- Copies stay as they are. -/
theorem aside_prefix_perform (shelf : Shelf α) (operation : Operation) :
    shelf.aside <+: (shelf.perform edit operation).2.aside := by
  cases operation with
  | edit e => exact List.prefix_rfl
  | setAside => exact List.prefix_append ..
  | restore place => exact List.prefix_rfl

theorem aside_prefix_performAll (shelf : Shelf α) (operations : List Operation) :
    shelf.aside <+: (shelf.performAll edit operations).2.aside := by
  induction operations generalizing shelf with
  | nil => exact List.prefix_rfl
  | cons operation rest ih => exact (aside_prefix_perform shelf operation).trans (ih _)

theorem performAll_append (shelf : Shelf α) (operations later : List Operation) :
    (shelf.performAll edit (operations ++ later)).2 =
      ((shelf.performAll edit operations).2.performAll edit later).2 := by
  induction operations generalizing shelf with
  | nil => rfl
  | cons operation rest ih => exact ih _

end Shelf

/-- **Result sets refine finite maps.**  Whatever an owner does to an empty set, the operations hand
over what they do for a map from addresses to entries, the set presents the map in the end, and each
copy presents the map's copy.  A copy that is put aside is still the same after any later work. -/
theorem ResultSet.refines_map (operations : List Operation) :
    (ResultSet.worked operations).1 = (EntryMap.worked operations).1 ∧
      (ResultSet.worked operations).2.Presents (EntryMap.worked operations).2 ∧
      ∀ later, (ResultSet.worked operations).2.aside ++ [(ResultSet.worked operations).2.current] <+:
        (ResultSet.worked (operations ++ .setAside :: later)).2.aside := by
  have hempty : (⟨.empty, []⟩ : Shelf ResultSet).Presents ⟨∅, []⟩ := ⟨presents_empty, .nil⟩
  obtain ⟨houtcomes, hpresents⟩ := hempty.performAll operations
  refine ⟨houtcomes, hpresents, fun later => ?_⟩
  rw [ResultSet.worked, ResultSet.worked, Shelf.performAll_append]
  generalize (Shelf.performAll ResultSet.edit _ operations).2 = shelf
  exact Shelf.aside_prefix_performAll (shelf.perform ResultSet.edit .setAside).2 later

end RoomSearch
