import RoomSearch.Proofs.FiniteMap
import RoomSearch.ResultSet.Removal

/-!
# What a removal takes out

A predicate that decides what is taken out of a set may change its mind from call to call.  It is
called once for each entry, in the order of the addresses, and always over the whole set; so the set
is split by the answers of that one pass, whatever the predicate would answer later.

The first pass keeps an invariant at its cursor, `Removal.Asked`.  The second pass looks the marked
addresses up again: they are different, and an entry stands at each of them until it is taken out,
so that every lookup finds the entry for which the predicate held.

## Main definitions

* `ResultSet.remembered` — the memory of a predicate after calls.
* `ResultSet.Removal.Asked` — what the first pass has done before it comes to an entry.
* `ResultSet.Removal.Splits` — a removal as its caller sees it.

## Main results

* `ResultSet.sorted_worked` — whatever is done to an empty set leaves it in order.
* `ResultSet.removeWhere_splits` — **a removal splits a set** by the answers of a predicate, of any
  memory, that is called once for each entry.
-/

namespace RoomSearch.ResultSet

variable {σ : Type} {s : ResultSet} {ask : σ → Entry → Bool × σ} {memory : σ}

/-- Whatever is done to an empty set leaves it in order. -/
theorem sorted_worked (operations : List Operation) : (worked operations).2.current.Sorted := by
  have hempty : (⟨.empty, []⟩ : Shelf ResultSet).Presents ⟨∅, []⟩ := ⟨presents_empty, .nil⟩
  exact (hempty.performAll operations).2.current.sorted

/-- The memory of a predicate once it has been asked for entries, one after the other. -/
def remembered (ask : σ → Entry → Bool × σ) (memory : σ) (entries : List Entry) : σ :=
  entries.foldl (fun memory e => (ask memory e).2) memory

theorem remembered_concat (ask : σ → Entry → Bool × σ) (memory : σ) (before : List Entry)
    (e : Entry) :
    remembered ask memory (before ++ [e]) = (ask (remembered ask memory before) e).2 := by
  simp [remembered]

namespace Removal

variable {r : Removal σ} {before : List Entry}

/-! ### The first pass -/

/-- What the first pass over a set has done once the predicate has been asked for the given
entries. -/
structure Asked (s : ResultSet) (ask : σ → Entry → Bool × σ) (memory : σ) (before : List Entry)
    (r : Removal σ) : Prop where
  /-- The set is untouched. -/
  set : r.set = s
  /-- Nothing has been taken out. -/
  removed : r.removed = []
  /-- The predicate has been asked for these entries. -/
  asked : r.inquiries.map Inquiry.entry = before
  /-- The set was whole at each call. -/
  whole : ∀ i ∈ r.inquiries, i.stood = s
  /-- A call was answered out of the memory that the calls before it had left. -/
  answered : ∀ k i, r.inquiries[k]? = some i →
    i.answer = (ask (remembered ask memory (before.take k)) i.entry).1
  /-- The predicate remembers the calls. -/
  remembers : r.memory = remembered ask memory before
  /-- The addresses for which it held are marked. -/
  marked : r.marked = ((r.inquiries.filter (·.answer)).map Inquiry.entry).map Entry.address

theorem asked_start : (start s memory).Asked s ask memory [] where
  set := rfl
  removed := rfl
  asked := rfl
  whole := by simp [start]
  answered := by simp [start]
  remembers := rfl
  marked := rfl

/-- **One call** of the predicate. -/
theorem Asked.inquire (h : r.Asked s ask memory before) (e : Entry) :
    (r.inquire ask e).Asked s ask memory (before ++ [e]) where
  set := h.set
  removed := h.removed
  asked := by simp [Removal.inquire, h.asked]
  whole i hi := by
    rcases List.mem_append.mp hi with hi | hi
    · exact h.whole i hi
    · rw [List.mem_singleton.mp hi]
      exact h.set
  answered k i hi := by
    have hlength : before.length = r.inquiries.length := by rw [← h.asked, List.length_map]
    have hi : (r.inquiries ++ [⟨r.set, e, (ask r.memory e).1⟩])[k]? = some i := hi
    rcases Nat.lt_or_ge k r.inquiries.length with hlt | hge
    · rw [List.getElem?_append_left hlt] at hi
      rw [List.take_append_of_le_length (by omega)]
      exact h.answered k i hi
    · rw [List.getElem?_append_right hge, List.getElem?_singleton] at hi
      obtain ⟨hk, hi⟩ := Option.ite_none_right_eq_some.mp hi
      have hbefore : (before ++ [e]).take k = before := by
        rw [show k = before.length by omega, List.take_left]
      rw [← Option.some.inj hi, hbefore, ← h.remembers]
  remembers := by
    rw [remembered_concat, ← h.remembers]
    rfl
  marked := by
    unfold Removal.inquire
    obtain ⟨answer, memory⟩ := ask r.memory e
    cases answer <;> simp [h.marked]

/-- **The whole pass.** -/
theorem asked_inquireAll : ((start s memory).inquireAll ask).Asked s ask memory s.entries := by
  have hfold : ∀ (rest before : List Entry) (r : Removal σ), r.Asked s ask memory before →
      (rest.foldl (Removal.inquire ask) r).Asked s ask memory (before ++ rest) := by
    intro rest
    induction rest with
    | nil =>
      intro before r h
      rwa [List.append_nil]
    | cons e rest ih =>
      intro before r h
      rw [List.append_cons]
      exact ih (before ++ [e]) (r.inquire ask e) (h.inquire e)
  exact hfold s.entries [] _ asked_start

/-! ### The second pass -/

theorem takeOut_of_find? {e : Entry} (h : r.set.find? e.address = some e) :
    r.takeOut e.address =
      { r with set := r.set.erase e.address, removed := r.removed ++ [e] } := by
  simp [takeOut, remove, h]

/-- **The whole pass** finds the entries at their addresses, if these are different. -/
theorem foldl_takeOut {found : List Entry} (hdistinct : (found.map Entry.address).Nodup)
    (hfind : ∀ e ∈ found, r.set.find? e.address = some e) :
    (found.map Entry.address).foldl takeOut r =
      { r with
        set := found.foldl (fun set e => set.erase e.address) r.set
        removed := r.removed ++ found } := by
  induction found generalizing r with
  | nil => simp
  | cons e rest ih =>
    obtain ⟨hnew, hrest⟩ := List.nodup_cons.mp hdistinct
    rw [List.map_cons, List.foldl_cons, takeOut_of_find? (hfind e List.mem_cons_self), ih hrest]
    · simp
    · intro e' he'
      -- the entries behind have other addresses, so they are still there
      have hne : e'.address ≠ e.address := fun heq => hnew (heq ▸ List.mem_map_of_mem he')
      show (r.set.erase e.address).find? e'.address = some e'
      rw [find?_erase, if_neg hne]
      exact hfind e' (List.mem_cons_of_mem _ he')

end Removal

/-- What is left once entries have been taken out, one after the other. -/
theorem entries_foldl_erase (s : ResultSet) (removed : List Entry) :
    (removed.foldl (fun set e => set.erase e.address) s).entries =
      s.entries.filter fun e => e.address ∉ removed.map Entry.address := by
  induction removed generalizing s with
  | nil => simp
  | cons e rest ih =>
    rw [List.foldl_cons, ih]
    show (s.entries.filter fun x => x.address != e.address).filter _ = _
    rw [List.filter_filter]
    refine List.filter_congr fun x _ => ?_
    by_cases hx : x.address = e.address <;> simp [hx]

/-- The entries that are not at the addresses of those that were answered for are the others, if all
addresses are different. -/
theorem filter_not_marked {inquiries : List Inquiry}
    (hdistinct : ((inquiries.map Inquiry.entry).map Entry.address).Nodup) :
    ((inquiries.map Inquiry.entry).filter fun e =>
        e.address ∉ ((inquiries.filter (·.answer)).map Inquiry.entry).map Entry.address) =
      (inquiries.filter (!·.answer)).map Inquiry.entry := by
  rw [List.map_map] at hdistinct
  rw [List.filter_map]
  refine congrArg (List.map Inquiry.entry) (List.filter_congr fun i hi => ?_)
  have hmarked : i.entry.address ∈
      ((inquiries.filter (·.answer)).map Inquiry.entry).map Entry.address ↔ i.answer = true := by
    rw [List.map_map, List.mem_map]
    constructor
    · rintro ⟨j, hj, haddress⟩
      obtain ⟨hj, hanswer⟩ := List.mem_filter.mp hj
      -- a call with this address is this call
      rwa [List.inj_on_of_nodup_map hdistinct hi hj haddress.symm]
    · exact fun hanswer => ⟨i, List.mem_filter.mpr ⟨hi, hanswer⟩, rfl⟩
  simp only [Function.comp_apply, hmarked]
  cases i.answer <;> rfl

/-! ### Both passes -/

/-- A removal as its caller sees it: the predicate's calls, what was taken out, and what is left. -/
structure Removal.Splits (r : Removal σ) (s : ResultSet) (ask : σ → Entry → Bool × σ)
    (memory : σ) : Prop where
  /-- The predicate was asked for the entries of the set, once for each of them and in order. -/
  asked : r.inquiries.map Inquiry.entry = s.entries
  /-- The addresses that it was asked for increase. -/
  increasing : r.inquiries.Pairwise fun i j => i.entry.address < j.entry.address
  /-- Nothing had been taken out of the set at any call. -/
  whole : ∀ i ∈ r.inquiries, i.stood = s
  /-- Each answer is that of the predicate with the memory of all calls before. -/
  answered : ∀ k i, r.inquiries[k]? = some i →
    i.answer = (ask (remembered ask memory (s.entries.take k)) i.entry).1
  /-- The predicate remembers these calls and no others. -/
  remembers : r.memory = remembered ask memory s.entries
  /-- What is handed over are the entries for which it held, in order. -/
  removed : r.removed = (r.inquiries.filter (·.answer)).map Inquiry.entry
  /-- What is left are the entries for which it did not hold, as they were. -/
  left : r.set.entries = (r.inquiries.filter (!·.answer)).map Inquiry.entry

theorem Removal.inquiries_foldl_inquire (entries : List Entry) (r : Removal σ) :
    (entries.foldl (Removal.inquire ask) r).inquiries =
      r.inquiries ++ (answers ask r.memory entries).1.map fun asked =>
        ⟨r.set, asked.1, asked.2⟩ := by
  induction entries generalizing r with
  | nil => simp [answers]
  | cons e rest ih =>
    rw [List.foldl_cons, ih, answers]
    simp [Removal.inquire]

theorem snd_answers (entries : List Entry) (memory : σ) :
    (answers ask memory entries).2 = remembered ask memory entries := by
  induction entries generalizing memory with
  | nil => rfl
  | cons e rest ih => exact ih (ask memory e).2

/-- **Both passes**, seen from the end of the first one. -/
theorem Removal.Asked.takeOutAll {r : Removal σ} (h : r.Asked s ask memory s.entries)
    (hsorted : s.Sorted) :
    r.takeOutAll =
      { r with
        set := ((r.inquiries.filter (·.answer)).map Inquiry.entry).foldl
          (fun set e => set.erase e.address) s
        removed := (r.inquiries.filter (·.answer)).map Inquiry.entry } := by
  have hsublist : ((r.inquiries.filter (·.answer)).map Inquiry.entry).Sublist s.entries := by
    rw [← h.asked]
    exact List.filter_sublist.map Inquiry.entry
  have hfind : ∀ e ∈ (r.inquiries.filter (·.answer)).map Inquiry.entry,
      r.set.find? e.address = some e := by
    intro e he
    rw [h.set]
    exact hsorted.mem_entries_iff.mp (hsublist.subset he)
  have htaken := Removal.foldl_takeOut (hsorted.nodup_addresses.sublist (hsublist.map _)) hfind
  rwa [← h.marked, h.set, h.removed, List.nil_append] at htaken

/-- **A removal splits a set.**  A predicate with a memory is called once for each entry, in the
order of the addresses and before anything is taken out; the entries for which it answers that it
holds are handed over in that order, and the others are left as they were. -/
theorem removeWhere_splits (h : s.Sorted) (ask : σ → Entry → Bool × σ) (memory : σ) :
    (s.removal ask memory).Splits s ask memory ∧
      s.removeWhere ask memory = ((s.removal ask memory).removed,
        (s.removal ask memory).memory, (s.removal ask memory).set) := by
  have hasked : ((Removal.start s memory).inquireAll ask).Asked s ask memory s.entries :=
    Removal.asked_inquireAll
  have hinquiries : ((Removal.start s memory).inquireAll ask).inquiries =
      (answers ask memory s.entries).1.map fun asked => ⟨s, asked.1, asked.2⟩ :=
    Removal.inquiries_foldl_inquire s.entries (Removal.start s memory)
  rw [removal, hasked.takeOutAll h]
  generalize (Removal.start s memory).inquireAll ask = r at hasked hinquiries
  refine ⟨{ hasked with increasing := ?_, removed := rfl, left := ?_ }, ?_⟩
  · have haddresses := h.addresses
    rw [← hasked.asked, List.map_map] at haddresses
    exact List.pairwise_map.mp haddresses
  · have hdistinct := h.nodup_addresses
    rw [← hasked.asked] at hdistinct
    rw [entries_foldl_erase, ← hasked.asked]
    exact filter_not_marked hdistinct
  · have hheld : (r.inquiries.filter (·.answer)).map Inquiry.entry =
        ((answers ask memory s.entries).1.filter (·.2)).map (·.1) := by
      rw [hinquiries, List.filter_map, List.map_map]
      rfl
    rw [hheld, hasked.remembers, ← snd_answers]
    rfl

/-- Four results that are told apart by their addresses alone. -/
def four : ResultSet :=
  (worked (["c", "a", "d", "b"].map fun address =>
    .edit (.upsert (.ofRoom ⟨"p"⟩ ⟨address, "", false⟩)))).2.current

/-- A predicate that counts its calls and holds at every second one. -/
def everySecond (count : Nat) (_ : Entry) : Bool × Nat := (count % 2 == 1, count + 1)

/-- Every second of four entries is taken out, though they do not differ for the predicate. -/
theorem removeWhere_splits_everySecond : four.Sorted ∧
    (four.removal everySecond 0).Splits four everySecond 0 ∧
    (four.removeWhere everySecond 0).1.map Entry.address = ["b", "d"] ∧
    (four.removeWhere everySecond 0).2.2.entries.map Entry.address = ["a", "c"] := by
  obtain ⟨hsplits, -⟩ := removeWhere_splits (sorted_worked _ : four.Sorted) everySecond 0
  exact ⟨sorted_worked _, hsplits, by decide +kernel, by decide +kernel⟩

end RoomSearch.ResultSet
