import RoomSearch.Query

/-!
# What a subscriber can know of a query

A subscriber that starts with the results and the status of a query can follow the news one by one.
The news are precise: a result is found only if there was none at its address, it changes only if
something about it is different, and what is said to be removed is exactly what was there.  So a
picture takes news or refuses them, and every rule of change tells news that are taken and that lead
from the old results to the new ones.

## Main definitions

* `Picture` — a status with results; `Query.picture` is that of a query.
* `Picture.take?`, `Picture.replay` — one piece of news and several, one after the other.
* `ResultSet.Told` — the news of a change lead from the old results to the new ones.

## Main results

* `ResultSet.told_mergeRooms`, `ResultSet.told_dropProvider`, and so on — **the rules of change
  tell all that they do**.
* `Picture.balance_of_replay` — results found and removed are balanced by those that are there.
-/

namespace RoomSearch

/-- A status with results. -/
structure Picture where
  /-- The status. -/
  status : Status
  /-- The results. -/
  results : ResultSet
deriving DecidableEq, Repr

/-- What there is to know of a query. -/
def Query.picture (query : Query) : Picture := ⟨query.status, query.results⟩

namespace Picture

/-- The picture after a piece of news, which is refused if it is not precise. -/
def take? (p : Picture) : News → Option Picture
  | .found e =>
    if p.results.find? e.address = none then some { p with results := p.results.insert e }
    else none
  | .changed e =>
    match p.results.find? e.address with
    | none => none
    | some old => if old = e then none else some { p with results := p.results.insert e }
  | .removed e =>
    if p.results.find? e.address = some e then some { p with results := p.results.erase e.address }
    else none
  | .moved status => if p.status = status then none else some { p with status }

/-- The picture after several pieces of news. -/
def replay (p : Picture) : List News → Option Picture
  | [] => some p
  | n :: rest => (p.take? n).bind fun p => p.replay rest

@[simp] theorem replay_nil (p : Picture) : p.replay [] = some p := rfl

theorem replay_append (p : Picture) (news later : List News) :
    p.replay (news ++ later) = (p.replay news).bind fun p => p.replay later := by
  induction news generalizing p with
  | nil => rfl
  | cons n rest ih =>
    rw [List.cons_append, replay, replay]
    cases p.take? n with
    | none => rfl
    | some p' => exact ih p'

theorem replay_singleton (p : Picture) (n : News) : p.replay [n] = p.take? n := by
  rw [replay]
  cases p.take? n <;> rfl

/-- News that lead on from where other news have led. -/
theorem replay_append_of {p p' p'' : Picture} {news later : List News}
    (h : p.replay news = some p') (h' : p'.replay later = some p'') :
    p.replay (news ++ later) = some p'' := by
  rw [replay_append, h, Option.bind_some, h']

end Picture

/-! ### The rules of change -/

namespace ResultSet

/-- The entries are in order. -/
def Sorted (s : ResultSet) : Prop := Keyed.Sorted Entry.address s.entries

/-- The news of a change lead from the old results to the new ones, which are in order. -/
structure Told (s : ResultSet) (outcome : List News × ResultSet) : Prop where
  replay : ∀ status, Picture.replay ⟨status, s⟩ outcome.1 = some ⟨status, outcome.2⟩
  sorted : outcome.2.Sorted

variable {s : ResultSet} {address : String} {e old : Entry}

theorem Sorted.insert (h : s.Sorted) (e : Entry) : (s.insert e).Sorted := Keyed.sorted_insert h

theorem Sorted.erase (h : s.Sorted) (address : String) : (s.erase address).Sorted :=
  Keyed.sorted_erase h

/-- An entry is found at its own address. -/
theorem address_of_find? (h : s.find? address = some e) : e.address = address :=
  Keyed.key_eq_of_find? h

theorem told_nothing (h : s.Sorted) : s.Told ([], s) := ⟨fun _ => rfl, h⟩

theorem told_found (h : s.Sorted) (hnone : s.find? e.address = none) :
    s.Told ([.found e], s.insert e) := by
  refine ⟨?_, h.insert e⟩
  intro status
  rw [Picture.replay_singleton, Picture.take?, if_pos hnone]

theorem told_changed (h : s.Sorted) (hold : s.find? e.address = some old) (hne : old ≠ e) :
    s.Told ([.changed e], s.insert e) := by
  refine ⟨?_, h.insert e⟩
  intro status
  simp only [Picture.replay_singleton, Picture.take?, hold, if_neg hne]

theorem told_removed (h : s.Sorted) (hold : s.find? e.address = some e) :
    s.Told ([.removed e], s.erase e.address) := by
  refine ⟨?_, h.erase e.address⟩
  intro status
  rw [Picture.replay_singleton, Picture.take?, if_pos hold]

/-- A change after another one. -/
theorem Told.append {news later : List News} {s' s'' : ResultSet} (h : s.Told (news, s'))
    (h' : s'.Told (later, s'')) : s.Told (news ++ later, s'') :=
  ⟨fun status => Picture.replay_append_of (h.replay status) (h'.replay status), h'.sorted⟩

theorem told_mergeRoom (h : s.Sorted) (provider : ProviderId) (room : Room) :
    s.Told (s.mergeRoom provider room) := by
  rw [mergeRoom]
  cases hfind : s.find? room.name with
  | none => exact told_found h hfind
  | some old =>
    dsimp only
    split
    · exact told_nothing h
    · next hne => exact told_changed h hfind hne

theorem told_mergeRooms (h : s.Sorted) (provider : ProviderId) (rooms : List Room) :
    s.Told (s.mergeRooms provider rooms) := by
  induction rooms generalizing s with
  | nil => exact told_nothing h
  | cons room rest ih =>
    have hfirst := told_mergeRoom h provider room
    exact hfirst.append (ih hfirst.sorted)

theorem told_dropRoom (h : s.Sorted) (address : String) : s.Told (s.dropRoom address) := by
  rw [dropRoom]
  cases hfind : s.find? address with
  | none => exact told_nothing h
  | some old =>
    have haddress := address_of_find? hfind
    subst haddress
    exact told_removed h hfind

theorem told_setAutoJoin (h : s.Sorted) (address : String) (autoJoin : Bool) :
    s.Told (s.setAutoJoin address autoJoin) := by
  rw [setAutoJoin]
  cases hfind : s.find? address with
  | none => exact told_nothing h
  | some old =>
    have haddress := address_of_find? hfind
    subst haddress
    dsimp only
    split
    · exact told_nothing h
    · next hne => exact told_changed h hfind fun heq => hne (congrArg Entry.autoJoin heq)

theorem told_setPresence? (h : s.Sorted) {presence : Presence} {outcome : List News × ResultSet}
    (heq : s.setPresence? address presence = some outcome) : s.Told outcome := by
  rw [setPresence?] at heq
  cases hfind : s.find? address with
  | none =>
    rw [hfind] at heq
    cases heq
  | some old =>
    have haddress := address_of_find? hfind
    subst haddress
    rw [hfind] at heq
    dsimp only at heq
    split at heq
    · cases heq
      exact told_nothing h
    · next hne =>
      cases heq
      exact told_changed h hfind fun heq => hne (congrArg Entry.presence heq)

theorem told_mergeJoined (h : s.Sorted) (notice : PresenceNotice) (autoJoin : Bool) :
    s.Told (s.mergeJoined notice autoJoin) := by
  unfold mergeJoined
  split
  · next hsome => exact told_setPresence? h hsome
  · next hnone =>
    refine told_found h ?_
    rw [setPresence?] at hnone
    cases hfind : s.find? notice.room with
    | none => rfl
    | some old =>
      rw [hfind] at hnone
      dsimp only at hnone
      split at hnone <;> cases hnone

/-! ### Dropping a provider -/

/-- A predicate without a memory answers for each entry by itself. -/
theorem answers_unit (p : Entry → Bool) (entries : List Entry) :
    answers (fun _ e => (p e, ())) () entries = (entries.map fun e => (e, p e), ()) := by
  induction entries with
  | nil => rfl
  | cons e rest ih => simp only [answers, ih, List.map_cons]

/-- What is taken out with a provider: its entries, in order, and nothing else. -/
theorem removeProvider_eq (s : ResultSet) (provider : ProviderId) :
    s.removeProvider provider =
      (s.entries.filter fun e => e.provider == provider,
        (s.entries.filter fun e => e.provider == provider).foldl
          (fun set e => set.erase e.address) s) := by
  have hremoved : ((s.entries.map fun e => (e, e.provider == provider)).filter (·.2)).map (·.1) =
      s.entries.filter fun e => e.provider == provider := by
    rw [List.filter_map, List.map_map]
    exact List.map_id _
  rw [removeProvider, removeWhere, answers_unit]
  simp only [hremoved]

/-- Nothing is found at the addresses of entries once they are taken out. -/
theorem find?_foldl_erase (s : ResultSet) (removed : List Entry) (address : String) :
    (removed.foldl (fun set e => set.erase e.address) s).find? address =
      if address ∈ removed.map Entry.address then none else s.find? address := by
  induction removed generalizing s with
  | nil => rfl
  | cons e rest ih =>
    rw [List.foldl_cons, ih, find?_erase, List.map_cons]
    by_cases hrest : address ∈ rest.map Entry.address
    · rw [if_pos hrest, if_pos (List.mem_cons_of_mem _ hrest)]
    · rw [if_neg hrest]
      by_cases he : address = e.address
      · rw [if_pos he, if_pos (he ▸ List.mem_cons_self)]
      · rw [if_neg he, if_neg fun hmem => (List.mem_cons.mp hmem).elim he hrest]

/-- Entries with different addresses are taken out one after the other. -/
theorem told_foldl_erase (h : s.Sorted) {removed : List Entry}
    (hdistinct : (removed.map Entry.address).Nodup)
    (hfind : ∀ e ∈ removed, s.find? e.address = some e) :
    s.Told (removed.map .removed, removed.foldl (fun set e => set.erase e.address) s) := by
  induction removed generalizing s with
  | nil => exact told_nothing h
  | cons e rest ih =>
    rw [List.map_cons, List.nodup_cons] at hdistinct
    have hfirst := told_removed h (hfind e List.mem_cons_self)
    refine hfirst.append (ih hfirst.sorted hdistinct.2 fun d hd => ?_)
    -- the others have other addresses, so they are still there
    rw [find?_erase, if_neg]
    · exact hfind d (List.mem_cons_of_mem _ hd)
    · intro heq
      exact hdistinct.1 (heq ▸ List.mem_map_of_mem hd)

theorem told_dropProvider (h : s.Sorted) (provider : ProviderId) :
    s.Told (s.dropProvider provider) := by
  have hnodup : (s.entries.map Entry.address).Nodup := by
    refine List.pairwise_map.mpr (h.imp fun {a b} hlt heq => ?_)
    rw [heq] at hlt
    exact String.lt_irrefl _ hlt
  rw [dropProvider, removeProvider_eq]
  refine told_foldl_erase h (hnodup.sublist (List.filter_sublist.map _)) ?_
  intro e he
  exact Keyed.find?_key_of_mem h (List.mem_filter.mp he).1

end ResultSet

/-! ### Counting -/

/-- Whether the news are that a result with this address is found. -/
def News.isFoundAt (address : String) : News → Bool
  | .found e => e.address == address
  | _ => false

/-- Whether the news are that the result with this address is removed. -/
def News.isRemovedAt (address : String) : News → Bool
  | .removed e => e.address == address
  | _ => false

namespace Picture

/-- How many results with this address there are: one or none. -/
def countAt (p : Picture) (address : String) : Nat := if p.results.contains address then 1 else 0

theorem countAt_insert (p : Picture) (e : Entry) (address : String) :
    countAt { p with results := p.results.insert e } address =
      if e.address = address then 1 else p.countAt address := by
  rw [countAt, countAt, ResultSet.contains, ResultSet.contains, ResultSet.find?_insert]
  split <;> rfl

theorem countAt_erase (p : Picture) (erased address : String) :
    countAt { p with results := p.results.erase erased } address =
      if address = erased then 0 else p.countAt address := by
  rw [countAt, countAt, ResultSet.contains, ResultSet.contains, ResultSet.find?_erase]
  split <;> rfl

/-- One piece of news is balanced. -/
theorem balance_of_take? {p p' : Picture} {n : News} (h : p.take? n = some p') (address : String) :
    p.countAt address + (if n.isFoundAt address then 1 else 0) =
      p'.countAt address + (if n.isRemovedAt address then 1 else 0) := by
  cases n with
  | found e =>
    rw [take?] at h
    split at h
    · next hnone =>
      cases h
      rw [countAt_insert]
      by_cases heq : e.address = address
      · subst heq
        simp [countAt, ResultSet.contains, hnone, News.isFoundAt, News.isRemovedAt]
      · simp [heq, News.isFoundAt, News.isRemovedAt]
    · cases h
  | changed e =>
    simp only [take?] at h
    split at h
    · cases h
    · next old hold =>
      split at h
      · cases h
      · cases h
        rw [countAt_insert]
        by_cases heq : e.address = address
        · subst heq
          simp [countAt, ResultSet.contains, hold, News.isFoundAt, News.isRemovedAt]
        · simp [heq, News.isFoundAt, News.isRemovedAt]
  | removed e =>
    rw [take?] at h
    split at h
    · next hold =>
      cases h
      rw [countAt_erase]
      by_cases heq : address = e.address
      · subst heq
        simp [countAt, ResultSet.contains, hold, News.isFoundAt, News.isRemovedAt]
      · simp [heq, Ne.symm heq, News.isFoundAt, News.isRemovedAt]
    · cases h
  | moved status =>
    rw [take?] at h
    split at h
    · cases h
    · cases h
      rfl

/-- **Found and removed results are balanced**: what was there at first and what was found is what
is there in the end and what was removed. -/
theorem balance_of_replay {p p' : Picture} {news : List News} (h : p.replay news = some p')
    (address : String) :
    p.countAt address + news.countP (News.isFoundAt address) =
      p'.countAt address + news.countP (News.isRemovedAt address) := by
  induction news generalizing p with
  | nil =>
    cases h
    rfl
  | cons n rest ih =>
    obtain ⟨middle, hmiddle, hrest⟩ := Option.bind_eq_some_iff.mp h
    have hfirst := balance_of_take? hmiddle address
    have hlater := ih hrest
    rw [List.countP_cons, List.countP_cons]
    omega

end Picture

end RoomSearch
