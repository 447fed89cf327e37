import RoomSearch.Proofs.Convergence.Current
import RoomSearch.Proofs.Results
import RoomSearch.Proofs.World.Moves

/-!
# What a query makes of an announcement

If nothing else happens while a query hears of something, its news and its results afterwards depend
on its results before, on the directory and on the announcement alone.  Each rule of change looks
for a difference first: what it has brought about once, it leaves as it is the second time, without
news.  Only rooms that are listed twice under one name would take turns forever.

## Main definitions

* `Query.uptake` — the news and the results that come of an announcement.

## Main results

* `ResultSet.setPresence?_again`, `ResultSet.mergeRooms_again`, and so on — the rules of change, the
  second time.
* `Query.uptake_again` — **the second time** nothing comes of an announcement.
-/

namespace RoomSearch

/-- What a query makes of a presence.  A room that is no result is looked up if it has been joined
and matches. -/
def Query.uptakeOfPresence (query : Query) (d : Directory) (notice : PresenceNotice) :
    List News × ResultSet :=
  match query.results.setPresence? notice.room notice.change.presence with
  | some outcome => outcome
  | none =>
    if notice.change.isJoin && query.accepts notice.room notice.identifier then
      query.results.mergeJoined notice
        ((d.findRoom? notice.provider notice.room).elim false Room.autoJoin)
    else ([], query.results)

/-- What a query makes of an announcement, if nothing happens meanwhile: its news, and the results
that it has then. -/
def Query.uptake (query : Query) (d : Directory) (notice : Notice) : List News × ResultSet :=
  if !query.alive || query.isCanceled then ([], query.results)
  else
    match notice with
    | .presence notice => query.uptakeOfPresence d notice
    | .rooms notice =>
      if notice.change = .added ∧ !query.accepts notice.room.name notice.room.identifier then
        ([], query.results)
      else query.results.revise notice
    | .providers notice =>
      match notice.change with
      | .added =>
        query.results.mergeRooms notice.provider
          ((d.rooms notice.provider).filter fun room => query.accepts room.name room.identifier)
      | .removed => query.results.dropProvider notice.provider
    | .registration _ => ([], query.results)

/-! ### The rules of change, the second time -/

namespace ResultSet

variable {s : ResultSet} {name : String} {provider : ProviderId} {room : Room} {rooms : List Room}

/-- A presence that a result has already is no news. -/
theorem setPresence?_of_find? {e : Entry} (h : s.find? name = some e) :
    s.setPresence? name e.presence = some ([], s) := by
  rw [setPresence?, h]
  exact if_pos rfl

theorem find?_of_setPresence? {presence : Presence} (h : s.setPresence? name presence = none) :
    s.find? name = none := by
  cases hfound : s.find? name with
  | none => rfl
  | some old =>
    obtain ⟨outcome, houtcome, -⟩ := exists_setPresence? hfound presence
    rw [houtcome] at h
    cases h

theorem setPresence?_again {presence : Presence} {outcome : List News × ResultSet}
    (h : s.setPresence? name presence = some outcome) :
    outcome.2.setPresence? name presence = some ([], outcome.2) := by
  cases hfound : s.find? name with
  | none =>
    rw [setPresence?_of_none hfound] at h
    cases h
  | some old =>
    obtain ⟨outcome', houtcome, hfind⟩ := exists_setPresence? hfound presence
    cases Option.some.inj (houtcome.symm.trans h)
    exact setPresence?_of_find? ((hfind name).trans (if_pos rfl))

/-- A joined room that has become a result is online. -/
theorem setPresence?_mergeJoined {notice : PresenceNotice} (h : s.find? notice.room = none)
    (autoJoin : Bool) : (s.mergeJoined notice autoJoin).2.setPresence? notice.room .online =
      some ([], (s.mergeJoined notice autoJoin).2) :=
  setPresence?_of_find? ((find?_mergeJoined_of_none h autoJoin notice.room).trans (if_pos rfl))

theorem dropRoom_again (s : ResultSet) (name : String) :
    (s.dropRoom name).2.dropRoom name = ([], (s.dropRoom name).2) := by
  have hnone : (s.dropRoom name).2.find? name = none := by rw [find?_dropRoom, if_pos rfl]
  rw [dropRoom, hnone]

theorem setAutoJoin_again (s : ResultSet) (name : String) (autoJoin : Bool) :
    (s.setAutoJoin name autoJoin).2.setAutoJoin name autoJoin =
      ([], (s.setAutoJoin name autoJoin).2) := by
  have hfind := find?_setAutoJoin s name autoJoin name
  rw [if_pos rfl] at hfind
  rw [setAutoJoin, hfind]
  cases s.find? name with
  | none => rfl
  | some old => exact if_pos rfl

/-- A listed room that a result has already been taken over from is no news. -/
theorem mergeRoom_of_find? {presence : Presence}
    (h : s.find? room.name = some { Entry.ofRoom provider room with presence }) :
    s.mergeRoom provider room = ([], s) := by
  rw [mergeRoom, h]
  exact if_pos rfl

theorem mergeRoom_again (s : ResultSet) (provider : ProviderId) (room : Room) :
    (s.mergeRoom provider room).2.mergeRoom provider room =
      ([], (s.mergeRoom provider room).2) :=
  mergeRoom_of_find? ((find?_mergeRoom_eq ..).trans (if_pos rfl))

theorem mergeRooms_of_find? (h : ∀ room ∈ rooms, ∃ presence,
    s.find? room.name = some { Entry.ofRoom provider room with presence }) :
    s.mergeRooms provider rooms = ([], s) := by
  induction rooms with
  | nil => rfl
  | cons room rest ih =>
    obtain ⟨presence, hroom⟩ := h room List.mem_cons_self
    simp only [mergeRooms, mergeRoom_of_find? hroom,
      ih fun room hmem => h room (List.mem_cons_of_mem _ hmem), List.append_nil]

theorem mergeRooms_cons_snd (s : ResultSet) (provider : ProviderId) (room : Room)
    (rest : List Room) : (s.mergeRooms provider (room :: rest)).2 =
      ((s.mergeRoom provider room).2.mergeRooms provider rest).2 := rfl

/-- Merging rooms leaves the addresses of others alone. -/
theorem find?_mergeRooms_of_not_mem (h : name ∉ rooms.map Room.name) :
    (s.mergeRooms provider rooms).2.find? name = s.find? name := by
  induction rooms generalizing s with
  | nil => rfl
  | cons room rest ih =>
    rw [List.map_cons, List.mem_cons, not_or] at h
    rw [mergeRooms_cons_snd, ih h.2, find?_mergeRoom_eq, if_neg (Ne.symm h.1)]

/-- Rooms with different names are all taken over. -/
theorem exists_find?_mergeRooms (h : (rooms.map Room.name).Nodup) (hmem : room ∈ rooms) :
    ∃ presence, (s.mergeRooms provider rooms).2.find? room.name =
      some { Entry.ofRoom provider room with presence } := by
  induction rooms generalizing s with
  | nil => cases hmem
  | cons first rest ih =>
    rw [List.map_cons, List.nodup_cons] at h
    rw [mergeRooms_cons_snd]
    rcases List.mem_cons.mp hmem with rfl | hmem
    · -- the later ones have other names
      rw [find?_mergeRooms_of_not_mem h.1, find?_mergeRoom_eq, if_pos rfl]
      exact ⟨_, rfl⟩
    · exact ih h.2 hmem

theorem mergeRooms_again (s : ResultSet) (provider : ProviderId)
    (h : (rooms.map Room.name).Nodup) :
    (s.mergeRooms provider rooms).2.mergeRooms provider rooms =
      ([], (s.mergeRooms provider rooms).2) :=
  mergeRooms_of_find? fun _ hmem => exists_find?_mergeRooms h hmem

/-- Rooms of one name take turns each time. -/
example : ((ResultSet.empty.mergeRooms ⟨"p"⟩ [⟨"a", "a", false⟩, ⟨"a", "a", true⟩]).2.mergeRooms
    ⟨"p"⟩ [⟨"a", "a", false⟩, ⟨"a", "a", true⟩]).1 =
      [.changed ⟨"a", "a", ⟨"p"⟩, .offline, false⟩, .changed ⟨"a", "a", ⟨"p"⟩, .offline, true⟩] :=
  by decide

/-- A provider without results has none to drop. -/
theorem dropProvider_of_entries (h : ∀ e ∈ s.entries, e.provider ≠ provider) :
    s.dropProvider provider = ([], s) := by
  have hnone : (s.entries.filter fun e => e.provider == provider) = [] :=
    List.filter_eq_nil_iff.mpr fun e he => by simpa using h e he
  rw [dropProvider, removeProvider_eq, hnone]
  rfl

theorem dropProvider_again (h : s.Sorted) (provider : ProviderId) :
    (s.dropProvider provider).2.dropProvider provider = ([], (s.dropProvider provider).2) := by
  refine dropProvider_of_entries fun e he hprovider => ?_
  -- an entry of the provider would be found at its address
  have hfind := Keyed.find?_key_of_mem (told_dropProvider h provider).sorted he
  have hfiltered := (find?_dropProvider h provider e.address).symm.trans hfind
  have := (Option.filter_eq_some_iff.mp hfiltered).2
  exact bne_iff_ne.mp this hprovider

/-- A change of a list of rooms, the second time. -/
theorem revise_again (s : ResultSet) (notice : RoomNotice) :
    (s.revise notice).2.revise notice = ([], (s.revise notice).2) := by
  obtain ⟨provider, room, change⟩ := notice
  cases change with
  | added => exact mergeRoom_again s provider room
  | removed => exact dropRoom_again s room.name
  | changed => exact setAutoJoin_again s room.name room.autoJoin

end ResultSet

/-! ### Announcements, the second time -/

namespace Query

variable {query query' : Query} {d : Directory} {notice : Notice}

/-- A query that has been canceled, or that nothing refers to, makes nothing of an announcement. -/
theorem uptake_of_closed (h : (!query.alive || query.isCanceled) = true) :
    query.uptake d notice = ([], query.results) := if_pos h

/-- The registry is no source of results. -/
theorem uptake_registration (query : Query) (d : Directory) (n : RegistrationNotice ServiceId) :
    query.uptake d (.registration n) = ([], query.results) := by
  unfold uptake
  split <;> rfl

theorem accepts_of_matcher_eq (hmatcher : query'.matcher = query.matcher)
    (name identifier : String) :
    query'.accepts name identifier = query.accepts name identifier := by
  rw [accepts, hmatcher, accepts]

/-- A presence, the second time. -/
theorem uptakeOfPresence_again {notice : PresenceNotice} (hmatcher : query'.matcher = query.matcher)
    (hresults : query'.results = (query.uptakeOfPresence d notice).2) :
    query'.uptakeOfPresence d notice = ([], query'.results) := by
  cases hset : query.results.setPresence? notice.room notice.change.presence with
  | some outcome =>
    have huptake : query.uptakeOfPresence d notice = outcome := by rw [uptakeOfPresence, hset]
    rw [huptake] at hresults
    rw [uptakeOfPresence, hresults, ResultSet.setPresence?_again hset]
  | none =>
    by_cases hjoins : (notice.change.isJoin && query.accepts notice.room notice.identifier) = true
    · have huptake : query.uptakeOfPresence d notice = query.results.mergeJoined notice
          ((d.findRoom? notice.provider notice.room).elim false Room.autoJoin) := by
        rw [uptakeOfPresence, hset]
        exact if_pos hjoins
      have honline : notice.change.presence = .online := if_pos (Bool.and_eq_true_iff.mp hjoins).1
      rw [huptake] at hresults
      rw [uptakeOfPresence, hresults, honline,
        ResultSet.setPresence?_mergeJoined (ResultSet.find?_of_setPresence? hset)]
    · have huptake : query.uptakeOfPresence d notice = ([], query.results) := by
        rw [uptakeOfPresence, hset]
        exact if_neg hjoins
      rw [huptake] at hresults
      rw [uptakeOfPresence, hresults, hset, accepts_of_matcher_eq hmatcher]
      exact if_neg hjoins

/-- **The second time** nothing comes of an announcement, if no provider lists a name twice. -/
theorem uptake_again (hsorted : query.results.Sorted)
    (hdistinct : ∀ p, ((d.rooms p).map Room.name).Nodup)
    (hmatcher : query'.matcher = query.matcher) (hstatus : query'.status = query.status)
    (halive : query'.alive = query.alive) (hresults : query'.results = (query.uptake d notice).2) :
    query'.uptake d notice = ([], query'.results) := by
  have hclosed : (!query'.alive || query'.isCanceled) = (!query.alive || query.isCanceled) := by
    rw [isCanceled, hstatus, halive, isCanceled]
  have haccepts := accepts_of_matcher_eq hmatcher
  by_cases hopen : (!query.alive || query.isCanceled) = true
  · -- the query takes up nothing at all
    exact uptake_of_closed (hclosed.trans hopen)
  · unfold uptake at hresults ⊢
    rw [if_neg hopen] at hresults
    rw [hclosed, if_neg hopen]
    cases notice with
    | presence notice => exact uptakeOfPresence_again hmatcher hresults
    | rooms notice =>
      dsimp only at hresults ⊢
      rw [haccepts]
      split at hresults
      · next hother => exact if_pos hother
      · next hother =>
        rw [if_neg hother, hresults]
        exact ResultSet.revise_again query.results notice
    | providers notice =>
      obtain ⟨provider, change⟩ := notice
      cases change with
      | added =>
        dsimp only at hresults ⊢
        simp only [haccepts]
        rw [hresults]
        -- a provider lists no two rooms under one name
        refine ResultSet.mergeRooms_again _ _ ?_
        exact ((List.filter_sublist).map Room.name).nodup (hdistinct provider)
      | removed =>
        dsimp only at hresults ⊢
        rw [hresults]
        exact ResultSet.dropProvider_again hsorted provider
    | registration notice => rfl

end Query

end RoomSearch
