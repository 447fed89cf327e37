import RoomSearch.Proofs.Directory
import RoomSearch.Proofs.Picture

/-!
# Results that keep up with the directory

A query does not find everything at once: it searches provider by provider, it hears of a new
provider before it reads the provider's rooms, and it reads rooms before it merges them.  What it
still has to do are its errands, and each of them concerns one provider.  The query keeps up with
the directory if all it has found is listed, and all that is listed has been found or belongs to a
provider of some errand.

What makes merging safe is the epoch.  Rooms that were read in the present epoch, and are going to
be merged before the query hears of anything new, are those that are listed now.  Whatever the query
hears begins a new epoch, so that nothing has been read in the present one.

## Main definitions

* `Errand` — something that a query still has to do.
* `Query.SameCourse` — two states with the same results in the same epoch.
* `Current` — a query keeps up with a directory, its errands considered.

## Main results

* `Current.scan`, `Current.rescan`, `Current.merge`, `Current.hear`, `Current.start` — errands are
  done.
* `Current.enter`, `Current.added`, `Current.removed`, `Current.changed`, `Current.gone` — the
  directory changes.
-/

namespace RoomSearch

/-- Something that a query still has to do for a provider. -/
inductive Errand where
  /-- It hears that the provider is new. -/
  | hear (p : ProviderId)
  /-- It reads the provider's rooms. -/
  | scan (p : ProviderId)
  /-- It merges rooms that it has read in some epoch. -/
  | merge (p : ProviderId) (epoch : Nat) (rooms : List Room)

/-- The provider that an errand concerns. -/
def Errand.provider : Errand → ProviderId
  | .hear p => p
  | .scan p => p
  | .merge p _ _ => p

/-- Whether the errand is to hear of something new. -/
def Errand.isHear : Errand → Bool
  | .hear _ => true
  | _ => false

/-- The errands that are done before the query hears of anything new. -/
def Errand.beforeHearing (errands : List Errand) : List Errand :=
  errands.takeWhile fun errand => !errand.isHear

/-- Two states of a query with the same results in the same epoch. -/
structure Query.SameCourse (a b : Query) : Prop where
  matcher : b.matcher = a.matcher
  started : b.started = a.started
  results : b.results = a.results
  epoch : b.epoch = a.epoch

theorem Query.SameCourse.refl (a : Query) : a.SameCourse a := ⟨rfl, rfl, rfl, rfl⟩

theorem Query.SameCourse.trans {a b c : Query} (h : a.SameCourse b) (h' : b.SameCourse c) :
    a.SameCourse c where
  matcher := h'.matcher.trans h.matcher
  started := h'.started.trans h.started
  results := h'.results.trans h.results
  epoch := h'.epoch.trans h.epoch

/-- The query keeps up with the directory; what it still has to do are the errands, in order. -/
structure Current (d : Directory) (query : Query) (errands : List Errand) : Prop where
  /-- What has been found is listed. -/
  listed : ∀ {address e}, query.results.find? address = some e → d.Lists query.matcher e
  /-- Once the search has begun, what is listed has been found, or is going to be. -/
  found : query.started = true → ∀ {e}, d.Lists query.matcher e →
    query.results.find? e.address = some e ∨ ∃ errand ∈ errands, errand.provider = e.provider
  /-- Nothing was read in an epoch to come. -/
  past : ∀ {p epoch rooms}, .merge p epoch rooms ∈ errands → epoch ≤ query.epoch
  /-- What was read in this epoch, and is merged before anything is heard, is what is listed. -/
  fresh : ∀ {p rooms}, .merge p query.epoch rooms ∈ Errand.beforeHearing errands →
    ∀ {room : Room}, query.accepts room.name room.identifier = true →
      (room ∈ rooms ↔ room ∈ d.rooms p)

variable {d d' : Directory} {p : ProviderId} {room : Room} {rooms : List Room} {autoJoin : Bool}
  {matcher : Matcher} {query : Query} {errands below : List Errand}

@[simp] theorem Entry.address_ofRoom (p : ProviderId) (room : Room) :
    (Entry.ofRoom p room).address = room.name := rfl

/-! ### What is found after a rule of change -/

namespace ResultSet

variable {s : ResultSet}

/-- Merging a room that is listed, where all that has been found is listed: if there was a result
with the room's address, it was just this one. -/
theorem find?_mergeRoom (hd : d.Distinct)
    (hs : ∀ {address e}, s.find? address = some e → d.Lists matcher e)
    (hroom : d.Lists matcher (.ofRoom p room)) (address : String) :
    (s.mergeRoom p room).2.find? address =
      if room.name = address then some (.ofRoom p room) else s.find? address := by
  rw [mergeRoom]
  cases hfound : s.find? room.name with
  | none => exact find?_insert ..
  | some old =>
    have hold : old = .ofRoom p room :=
      hd.eq_of_address_eq (hs hfound) hroom (address_of_find? hfound)
    subst hold
    dsimp only
    rw [if_pos rfl]
    split
    · next haddress => rw [← haddress, hfound]
    · rfl

/-- Merging rooms that are listed. -/
theorem find?_mergeRooms (hd : d.Distinct)
    (hs : ∀ {address e}, s.find? address = some e → d.Lists matcher e) {rooms : List Room}
    (hrooms : ∀ room ∈ rooms, d.Lists matcher (.ofRoom p room)) :
    (∀ {address e}, (s.mergeRooms p rooms).2.find? address = some e → d.Lists matcher e) ∧
      (∀ {address e}, s.find? address = some e →
        (s.mergeRooms p rooms).2.find? address = some e) ∧
      ∀ room ∈ rooms, (s.mergeRooms p rooms).2.find? room.name = some (.ofRoom p room) := by
  -- a room that is merged stays, since no other room has its name
  induction rooms generalizing s with
  | nil => exact ⟨hs, id, nofun⟩
  | cons room rest ih =>
    have hroom := hrooms room List.mem_cons_self
    have hfind := find?_mergeRoom hd hs hroom
    have hs' : ∀ {address e}, (s.mergeRoom p room).2.find? address = some e →
        d.Lists matcher e := by
      intro address e he
      rw [hfind] at he
      split at he
      · cases he
        exact hroom
      · exact hs he
    obtain ⟨hsound, hstays, hnew⟩ := ih hs' fun r hr => hrooms r (List.mem_cons_of_mem _ hr)
    refine ⟨hsound, fun {address e} he => hstays ?_, ?_⟩
    · rw [hfind]
      split
      · next haddress =>
        rw [hd.eq_of_address_eq (hs he) hroom ((address_of_find? he).trans haddress.symm)]
      · exact he
    · intro r hr
      rcases List.mem_cons.mp hr with rfl | hr
      · refine hstays ?_
        rw [hfind, if_pos rfl]
      · exact hnew r hr

theorem find?_dropRoom (s : ResultSet) (name address : String) :
    (s.dropRoom name).2.find? address = if address = name then none else s.find? address := by
  rw [dropRoom]
  cases hfound : s.find? name with
  | none =>
    dsimp only
    split
    · next haddress => rw [haddress, hfound]
    · rfl
  | some old => exact find?_erase ..

theorem find?_setAutoJoin (s : ResultSet) (name : String) (autoJoin : Bool) (address : String) :
    (s.setAutoJoin name autoJoin).2.find? address =
      if name = address then (s.find? address).map fun e => { e with autoJoin }
      else s.find? address := by
  rw [setAutoJoin]
  cases hfound : s.find? name with
  | none =>
    dsimp only
    split
    · next haddress => rw [← haddress, hfound, Option.map_none]
    · rfl
  | some old =>
    have haddress := address_of_find? hfound
    subst haddress
    dsimp only
    split
    · next hflag =>
      split
      · next haddress => rw [← haddress, hfound, Option.map_some, ← hflag]
      · rfl
    · rw [find?_insert]
      show (if old.address = address then _ else _) = _
      split
      · next haddress => rw [← haddress, hfound, Option.map_some]
      · rfl

/-- Dropping a provider leaves the results of the others. -/
theorem find?_dropProvider (h : s.Sorted) (p : ProviderId) (address : String) :
    (s.dropProvider p).2.find? address = (s.find? address).filter fun e => e.provider != p := by
  rw [dropProvider, removeProvider_eq]
  dsimp only
  rw [find?_foldl_erase]
  split
  · next hmem =>
    obtain ⟨e, he, rfl⟩ := List.mem_map.mp hmem
    obtain ⟨hentry, hp⟩ := List.mem_filter.mp he
    have hfound : s.find? e.address = some e := Keyed.find?_key_of_mem h hentry
    rw [hfound, Option.filter_some, if_neg (by simpa using hp)]
  · next hmem =>
    cases hfound : s.find? address with
    | none => rfl
    | some e =>
      rw [Option.filter_some, if_pos]
      -- an entry of the provider would have been taken out
      rw [bne_iff_ne]
      intro hp
      refine hmem (List.mem_map.mpr ⟨e, List.mem_filter.mpr ⟨?_, ?_⟩, address_of_find? hfound⟩)
      · exact Keyed.mem_of_find? hfound
      · exact beq_iff_eq.mpr hp

end ResultSet

namespace Current

/-! ### Errands are done -/

theorem of_sameCourse {query' : Query} (h : Current d query errands)
    (hcourse : query.SameCourse query') : Current d query' errands where
  listed he := by
    rw [hcourse.results] at he
    rw [hcourse.matcher]
    exact h.listed he
  found hstarted e he := by
    rw [hcourse.started] at hstarted
    rw [hcourse.matcher] at he
    rw [hcourse.results]
    exact h.found hstarted he
  past hmerge := by
    rw [hcourse.epoch]
    exact h.past hmerge
  fresh hmerge room haccepts := by
    rw [hcourse.epoch] at hmerge
    rw [Query.accepts, hcourse.matcher] at haccepts
    exact h.fresh hmerge haccepts

/-- What one errand is going to find, another one for the same provider may find as well. -/
theorem exists_errand_cons (old new : Errand) (hp : new.provider = old.provider)
    (h : ∃ errand ∈ old :: below, errand.provider = p) :
    ∃ errand ∈ new :: below, errand.provider = p := by
  obtain ⟨errand, hmem, rfl⟩ := h
  rcases List.mem_cons.mp hmem with rfl | hmem
  · exact ⟨new, List.mem_cons_self, hp⟩
  · exact ⟨errand, List.mem_cons_of_mem _ hmem, rfl⟩

/-- Rooms that are read are those that are listed. -/
theorem scan (h : Current d query (.scan p :: below)) :
    Current d query (.merge p query.epoch (d.rooms p) :: below) where
  listed := h.listed
  found hstarted _ he := (h.found hstarted he).imp_right (exists_errand_cons (.scan p) _ rfl)
  past hmerge := by
    rcases List.mem_cons.mp hmerge with heq | hmerge
    · cases heq
      exact Nat.le_refl _
    · exact h.past (List.mem_cons_of_mem _ hmerge)
  fresh hmerge room haccepts := by
    rcases List.mem_cons.mp hmerge with heq | hmerge
    · cases heq
      exact Iff.rfl
    · exact h.fresh (List.mem_cons_of_mem _ hmerge) haccepts

/-- Rooms that are not merged are read again. -/
theorem rescan {epoch : Nat} (h : Current d query (.merge p epoch rooms :: below)) :
    Current d query (.scan p :: below) where
  listed := h.listed
  found hstarted _ he :=
    (h.found hstarted he).imp_right (exists_errand_cons (.merge p epoch rooms) _ rfl)
  past hmerge := by
    rcases List.mem_cons.mp hmerge with heq | hmerge
    · cases heq
    · exact h.past (List.mem_cons_of_mem _ hmerge)
  fresh hmerge room haccepts := by
    rcases List.mem_cons.mp hmerge with heq | hmerge
    · cases heq
    · exact h.fresh (List.mem_cons_of_mem _ hmerge) haccepts

/-- **Rooms are merged**: in the epoch in which they were read they are those that are listed now,
so that all of the provider's rooms are found. -/
theorem merge (h : Current d query (.merge p query.epoch rooms :: below)) (hd : d.Distinct) :
    Current d { query with results := (query.results.mergeRooms p
      (rooms.filter fun room => query.accepts room.name room.identifier)).2 } below := by
  have hfresh : ∀ {room : Room}, query.accepts room.name room.identifier = true →
      (room ∈ rooms ↔ room ∈ d.rooms p) := h.fresh List.mem_cons_self
  have hmatching : ∀ room ∈ rooms.filter fun room => query.accepts room.name room.identifier,
      d.Lists query.matcher (.ofRoom p room) := by
    intro room hroom
    obtain ⟨hroom, haccepts⟩ := List.mem_filter.mp hroom
    exact ⟨p, room, (hfresh haccepts).mp hroom, haccepts, rfl⟩
  obtain ⟨hsound, hstays, hnew⟩ := ResultSet.find?_mergeRooms hd h.listed hmatching
  refine ⟨hsound, ?_, fun hmerge => h.past (List.mem_cons_of_mem _ hmerge),
    fun hmerge _ haccepts => h.fresh (List.mem_cons_of_mem _ hmerge) haccepts⟩
  intro hstarted e he
  rcases h.found hstarted he with hthere | ⟨errand, hmem, hp⟩
  · exact .inl (hstays hthere)
  · rcases List.mem_cons.mp hmem with rfl | hmem
    · -- it is one of the rooms that have just been merged
      obtain ⟨p', room, hroom, haccepts, rfl⟩ := he
      cases (show p = p' from hp)
      exact .inl (hnew room (List.mem_filter.mpr ⟨(hfresh haccepts).mpr hroom, haccepts⟩))
    · exact .inr ⟨errand, hmem, hp⟩

/-- What was read before belongs to the past once a new epoch begins. -/
theorem not_mem_of_next (h : Current d query errands) :
    ¬ .merge p query.advanceEpoch.epoch rooms ∈ errands := fun hmerge =>
  Nat.not_succ_le_self _ (h.past hmerge)

theorem mem_of_mem_beforeHearing {errand : Errand}
    (h : errand ∈ Errand.beforeHearing errands) : errand ∈ errands :=
  (List.takeWhile_prefix _).subset h

/-- **A new provider is heard of**, and is going to be searched. -/
theorem hear (h : Current d query (.hear p :: below)) :
    Current d query.advanceEpoch (.scan p :: below) where
  listed := h.listed
  found hstarted _ he := (h.found hstarted he).imp_right (exists_errand_cons (.hear p) _ rfl)
  past hmerge := by
    rcases List.mem_cons.mp hmerge with heq | hmerge
    · cases heq
    · exact Nat.le_succ_of_le (h.past (List.mem_cons_of_mem _ hmerge))
  fresh hmerge room haccepts := by
    rcases List.mem_cons.mp (mem_of_mem_beforeHearing hmerge) with heq | hmerge
    · cases heq
    · exact absurd (List.mem_cons_of_mem _ hmerge) h.not_mem_of_next

/-- **The first search begins**: it is going to read the rooms of every provider. -/
theorem start (h : Current d query errands) :
    Current d { query with started := true } (d.providers.map .scan ++ errands) where
  listed := h.listed
  found _ e he := by
    refine .inr ⟨.scan e.provider, List.mem_append_left _ ?_, rfl⟩
    exact List.mem_map_of_mem he.mem_providers
  past hmerge := by
    rcases List.mem_append.mp hmerge with hmap | hmerge
    · obtain ⟨p, -, heq⟩ := List.mem_map.mp hmap
      cases heq
    · exact h.past hmerge
  fresh hmerge room haccepts := by
    rw [Errand.beforeHearing, List.takeWhile_append_of_pos] at hmerge
    · rcases List.mem_append.mp hmerge with hmap | hmerge
      · obtain ⟨p, -, heq⟩ := List.mem_map.mp hmap
        cases heq
      · exact h.fresh hmerge haccepts
    · intro errand hmap
      obtain ⟨p, -, rfl⟩ := List.mem_map.mp hmap
      rfl

/-! ### The directory changes -/

/-- **A provider is new**, and the query is going to hear of it. -/
theorem enter (h : Current d query errands)
    (hturn : ∀ p' r, r ∈ d'.rooms p' ↔ r ∈ d.rooms p' ∨ p' = p ∧ r ∈ rooms) :
    Current d' query (.hear p :: errands) where
  listed he := by
    obtain ⟨p', room, hroom, haccepts, heq⟩ := h.listed he
    exact ⟨p', room, (hturn ..).mpr (.inl hroom), haccepts, heq⟩
  found hstarted e he := by
    obtain ⟨p', room, hroom, haccepts, rfl⟩ := he
    rcases (hturn ..).mp hroom with hroom | ⟨rfl, -⟩
    · refine (h.found hstarted ⟨p', room, hroom, haccepts, rfl⟩).imp_right ?_
      rintro ⟨errand, hmem, hp⟩
      exact ⟨errand, List.mem_cons_of_mem _ hmem, hp⟩
    · exact .inr ⟨.hear p', List.mem_cons_self, rfl⟩
  past hmerge := by
    rcases List.mem_cons.mp hmerge with heq | hmerge
    · cases heq
    · exact h.past hmerge
  fresh hmerge := nomatch hmerge

/-- The query takes notice of a change, which begins a new epoch. -/
theorem turn {results : ResultSet} (h : Current d query errands)
    (hlisted : ∀ {address e}, results.find? address = some e → d'.Lists query.matcher e)
    (hfound : ∀ {e}, d'.Lists query.matcher e → results.find? e.address = some e ∨
      ∃ old, d.Lists query.matcher old ∧ old.provider = e.provider ∧
        (query.results.find? old.address = some old → results.find? e.address = some e)) :
    Current d' { query.advanceEpoch with results := results } errands where
  listed := hlisted
  found hstarted e he := by
    rcases hfound he with hthere | ⟨old, hold, hp, himp⟩
    · exact .inl hthere
    · refine (h.found hstarted hold).imp himp ?_
      rw [hp]
      exact id
  past hmerge := Nat.le_succ_of_le (h.past hmerge)
  fresh hmerge := absurd (mem_of_mem_beforeHearing hmerge) h.not_mem_of_next

/-- A new room that the search is not for is passed over. -/
theorem passed (h : Current d query errands)
    (hturn : ∀ p' r, r ∈ d'.rooms p' ↔ r ∈ d.rooms p' ∨ p' = p ∧ r = room)
    (hpassed : query.accepts room.name room.identifier = false) : Current d' query errands := by
  -- the rooms that the search is for are listed as before
  have hsame : ∀ {p' r}, query.accepts r.name r.identifier = true →
      (r ∈ d'.rooms p' ↔ r ∈ d.rooms p') := by
    intro p' r haccepts
    rw [hturn]
    refine ⟨fun hr => hr.resolve_right ?_, .inl⟩
    rintro ⟨-, rfl⟩
    rw [hpassed] at haccepts
    cases haccepts
  refine ⟨?_, ?_, h.past, ?_⟩
  · intro address e he
    obtain ⟨p', r, hr, haccepts, heq⟩ := h.listed he
    exact ⟨p', r, (hsame haccepts).mpr hr, haccepts, heq⟩
  · intro hstarted e he
    obtain ⟨p', r, hr, haccepts, rfl⟩ := he
    exact h.found hstarted ⟨p', r, (hsame haccepts).mp hr, haccepts, rfl⟩
  · intro p rooms hmerge r haccepts
    rw [hsame haccepts]
    exact h.fresh hmerge haccepts

/-- **A new room** becomes a result. -/
theorem added (h : Current d query errands) (hd' : d'.Distinct)
    (hturn : ∀ p' r, r ∈ d'.rooms p' ↔ r ∈ d.rooms p' ∨ p' = p ∧ r = room)
    (haccepts : query.accepts room.name room.identifier = true) :
    Current d' { query.advanceEpoch with results := (query.results.mergeRoom p room).2 }
      errands := by
  have hold : ∀ {e}, d.Lists query.matcher e → d'.Lists query.matcher e := by
    rintro e ⟨p', r, hr, haccepts, rfl⟩
    exact ⟨p', r, (hturn ..).mpr (.inl hr), haccepts, rfl⟩
  have hnew : d'.Lists query.matcher (.ofRoom p room) :=
    ⟨p, room, (hturn ..).mpr (.inr ⟨rfl, rfl⟩), haccepts, rfl⟩
  have hfind := ResultSet.find?_mergeRoom hd' (fun he => hold (h.listed he)) hnew
  -- every entry is listed, and every listed entry is there or still to come
  refine h.turn ?_ ?_
  · intro address e he
    rw [hfind] at he
    split at he
    · cases he
      exact hnew
    · exact hold (h.listed he)
  · intro e he
    obtain ⟨p', r, hr, hr', rfl⟩ := he
    rcases (hturn ..).mp hr with hr | ⟨rfl, rfl⟩
    · refine .inr ⟨_, ⟨p', r, hr, hr', rfl⟩, rfl, ?_⟩
      intro hthere
      rw [hfind]
      split
      · next hname =>
        rw [hd'.eq_of_address_eq hnew (hold ⟨p', r, hr, hr', rfl⟩) hname]
      · exact hthere
    · refine .inl ?_
      rw [hfind, Entry.address_ofRoom, if_pos rfl]

/-- **A room that is gone** stops being a result. -/
theorem removed (h : Current d query errands)
    (hturn : ∀ p' r, r ∈ d'.rooms p' ↔ r ∈ d.rooms p' ∧ r.name ≠ room.name) :
    Current d' { query.advanceEpoch with results := (query.results.dropRoom room.name).2 }
      errands := by
  refine h.turn ?_ ?_
  · intro address e he
    rw [ResultSet.find?_dropRoom] at he
    split at he
    · cases he
    · next hname =>
      have haddress := ResultSet.address_of_find? he
      obtain ⟨p', r, hr, haccepts, rfl⟩ := h.listed he
      exact ⟨p', r, (hturn ..).mpr ⟨hr, fun heq => hname (haddress.symm.trans heq)⟩, haccepts, rfl⟩
  · intro e he
    obtain ⟨p', r, hr, haccepts, rfl⟩ := he
    obtain ⟨hr, hname⟩ := (hturn ..).mp hr
    refine .inr ⟨_, ⟨p', r, hr, haccepts, rfl⟩, rfl, ?_⟩
    intro hthere
    rw [ResultSet.find?_dropRoom, Entry.address_ofRoom, if_neg hname]
    exact hthere

/-- **A room with another flag** is a result with this flag, if the search is for it. -/
theorem changed (h : Current d query errands) (hd : d.Distinct) (hroom : room ∈ d.rooms p)
    (hturn : ∀ p' r, r ∈ d'.rooms p' ↔
      r ∈ d.rooms p' ∧ r.name ≠ room.name ∨ p' = p ∧ r = { room with autoJoin }) :
    Current d'
      { query.advanceEpoch with results := (query.results.setAutoJoin room.name autoJoin).2 }
      errands := by
  refine h.turn ?_ ?_
  · intro address e he
    rw [ResultSet.find?_setAutoJoin] at he
    split at he
    · next hname =>
      obtain ⟨old, hold, rfl⟩ := Option.map_eq_some_iff.mp he
      have haddress := ResultSet.address_of_find? hold
      obtain ⟨p', r, hr, haccepts, rfl⟩ := h.listed hold
      -- what was found under this name is the room itself
      obtain ⟨rfl, rfl⟩ := hd.eq_of_name_eq hr hroom (haddress.trans hname.symm)
      exact ⟨p', { r with autoJoin }, (hturn ..).mpr (.inr ⟨rfl, rfl⟩), haccepts, rfl⟩
    · next hname =>
      have haddress := ResultSet.address_of_find? he
      obtain ⟨p', r, hr, haccepts, rfl⟩ := h.listed he
      refine ⟨p', r, (hturn ..).mpr (.inl ⟨hr, fun heq => hname ?_⟩), haccepts, rfl⟩
      exact heq.symm.trans haddress
  · intro e he
    obtain ⟨p', r, hr, haccepts, rfl⟩ := he
    rcases (hturn ..).mp hr with ⟨hr, hname⟩ | ⟨rfl, rfl⟩
    · refine .inr ⟨_, ⟨p', r, hr, haccepts, rfl⟩, rfl, ?_⟩
      intro hthere
      rw [ResultSet.find?_setAutoJoin, Entry.address_ofRoom, if_neg (Ne.symm hname)]
      exact hthere
    · refine .inr ⟨.ofRoom p' room, ⟨p', room, hroom, haccepts, rfl⟩, rfl, ?_⟩
      intro hthere
      rw [ResultSet.find?_setAutoJoin, Entry.address_ofRoom, if_pos rfl]
      exact congrArg (Option.map _) hthere

/-- **A provider that is gone** has no results any more. -/
theorem gone (h : Current d query errands) (hsorted : query.results.Sorted)
    (hturn : ∀ p' r, r ∈ d'.rooms p' ↔ r ∈ d.rooms p' ∧ p' ≠ p) :
    Current d' { query.advanceEpoch with results := (query.results.dropProvider p).2 }
      errands := by
  refine h.turn ?_ ?_
  · intro address e he
    rw [ResultSet.find?_dropProvider hsorted] at he
    obtain ⟨he, hp⟩ := Option.filter_eq_some_iff.mp he
    obtain ⟨p', r, hr, haccepts, rfl⟩ := h.listed he
    exact ⟨p', r, (hturn ..).mpr ⟨hr, bne_iff_ne.mp hp⟩, haccepts, rfl⟩
  · intro e he
    obtain ⟨p', r, hr, haccepts, rfl⟩ := he
    obtain ⟨hr, hp⟩ := (hturn ..).mp hr
    refine .inr ⟨_, ⟨p', r, hr, haccepts, rfl⟩, rfl, ?_⟩
    intro hthere
    rw [ResultSet.find?_dropProvider hsorted, hthere]
    exact Option.filter_eq_some_iff.mpr ⟨rfl, bne_iff_ne.mpr hp⟩

end Current

end RoomSearch
