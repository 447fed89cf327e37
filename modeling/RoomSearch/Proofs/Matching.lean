import RoomSearch.Proofs.Delivery
import RoomSearch.Proofs.Session.Requests

/-!
# All results match

Sources are not trusted: they may announce rooms that nobody lists, name the wrong provider, or give
a room another identifier than before.  A room becomes a result on three ways only — it is listed
when it is read, it is announced as new, or it has been joined — and on each of them the matcher is
asked with the name and the identifier that the result is going to have.  Everything else changes
the flag or the presence of a result, or takes it out; so what is told is about rooms that match,
and what there is by now is what the news have led to.

A joined room is asked about when its presence is announced, but becomes a result only after it has
been looked up.  Until then the answer is kept by the task (`Screened.joined`).

## Main definitions

* `Matcher.admits` — whether the room of an entry matches.
* `Matcher.Passes` — all results that news are about match; `ResultSet.Match` — so do all results.
* `World.Screens` — the news of a move are about rooms that match.
* `Session.Screened` — everything that is found, looked up or told matches.

## Main results

* `World.screens_advance`, `World.screens_acts` — the moves of tasks and actions screen their news.
* `Session.results_match` — **results and news are about rooms that match**, and results are in
  order of their addresses.
-/

namespace RoomSearch

/-- Whether the room of an entry matches. -/
def Matcher.admits (m : Matcher) (e : Entry) : Bool := m.accepts e.address e.identifier

/-- All results that the news are about match. -/
def Matcher.Passes (m : Matcher) (news : List News) : Prop :=
  ∀ n ∈ news, ∀ e, n.entry? = some e → m.admits e = true

/-- All results match. -/
def ResultSet.Match (s : ResultSet) (m : Matcher) : Prop := ∀ e ∈ s.entries, m.admits e = true

/-! ### News -/

namespace Matcher

variable {m : Matcher} {news later : List News}

@[simp] theorem passes_nil (m : Matcher) : m.Passes [] := List.forall_mem_nil _

theorem passes_cons {n : News} :
    m.Passes (n :: news) ↔ (∀ e, n.entry? = some e → m.admits e = true) ∧ m.Passes news :=
  List.forall_mem_cons

theorem passes_append : m.Passes (news ++ later) ↔ m.Passes news ∧ m.Passes later :=
  List.forall_mem_append

/-- News about one room. -/
theorem passes_singleton {n : News} {e : Entry} (hn : n.entry? = some e)
    (he : m.admits e = true) : m.Passes [n] := by
  refine passes_cons.mpr ⟨?_, passes_nil m⟩
  intro e' he'
  rw [hn] at he'
  cases he'
  exact he

/-- News of the status are about no room. -/
theorem passes_moved (m : Matcher) (status : Status) : m.Passes [.moved status] :=
  passes_cons.mpr ⟨nofun, passes_nil m⟩

end Matcher

/-! ### The rules of change -/

namespace ResultSet

variable {s : ResultSet} {m : Matcher} {address : String} {old : Entry}

theorem Match.of_find? (h : s.Match m) (hold : s.find? address = some old) :
    m.admits old = true := h old (Keyed.mem_of_find? hold)

theorem match_empty (m : Matcher) : empty.Match m := List.forall_mem_nil _

/-- A listed room that matches. -/
theorem passes_mergeRoom {room : Room} (h : m.accepts room.name room.identifier = true)
    (s : ResultSet) (provider : ProviderId) : m.Passes (s.mergeRoom provider room).1 := by
  rw [mergeRoom]
  cases s.find? room.name with
  | none => exact Matcher.passes_singleton rfl h
  | some old =>
    dsimp only
    split
    · exact Matcher.passes_nil m
    · exact Matcher.passes_singleton rfl h

/-- Listed rooms that match. -/
theorem passes_mergeRooms {rooms : List Room}
    (h : ∀ room ∈ rooms, m.accepts room.name room.identifier = true) (s : ResultSet)
    (provider : ProviderId) : m.Passes (s.mergeRooms provider rooms).1 := by
  induction rooms generalizing s with
  | nil => exact Matcher.passes_nil m
  | cons room rest ih =>
    obtain ⟨hroom, hrest⟩ := List.forall_mem_cons.mp h
    exact Matcher.passes_append.mpr ⟨passes_mergeRoom hroom s provider, ih hrest _⟩

theorem passes_dropRoom (h : s.Match m) (address : String) : m.Passes (s.dropRoom address).1 := by
  rw [dropRoom]
  cases hfind : s.find? address with
  | none => exact Matcher.passes_nil m
  | some old => exact Matcher.passes_singleton rfl (h.of_find? hfind)

theorem passes_dropProvider (h : s.Match m) (provider : ProviderId) :
    m.Passes (s.dropProvider provider).1 := by
  rw [dropProvider, removeProvider_eq]
  intro n hn e he
  obtain ⟨removed, hremoved, rfl⟩ := List.mem_map.mp hn
  cases he
  exact h e (List.mem_filter.mp hremoved).1

/-- Neither the flag nor the presence of a result counts for matching. -/
theorem passes_setAutoJoin (h : s.Match m) (address : String) (autoJoin : Bool) :
    m.Passes (s.setAutoJoin address autoJoin).1 := by
  rw [setAutoJoin]
  cases hfind : s.find? address with
  | none => exact Matcher.passes_nil m
  | some old =>
    have hold := h.of_find? hfind
    dsimp only
    split
    · exact Matcher.passes_nil m
    · exact Matcher.passes_singleton rfl hold

theorem passes_setPresence? (h : s.Match m) {presence : Presence}
    {outcome : List News × ResultSet} (heq : s.setPresence? address presence = some outcome) :
    m.Passes outcome.1 := by
  rw [setPresence?] at heq
  cases hfind : s.find? address with
  | none =>
    rw [hfind] at heq
    cases heq
  | some old =>
    have hold := h.of_find? hfind
    rw [hfind] at heq
    dsimp only at heq
    split at heq
    · cases heq
      exact Matcher.passes_nil m
    · cases heq
      exact Matcher.passes_singleton rfl hold

/-- A joined room that matches. -/
theorem passes_mergeJoined (h : s.Match m) {notice : PresenceNotice}
    (hroom : m.accepts notice.room notice.identifier = true) (autoJoin : Bool) :
    m.Passes (s.mergeJoined notice autoJoin).1 := by
  unfold mergeJoined
  split
  · next hsome => exact passes_setPresence? h hsome
  · exact Matcher.passes_singleton rfl hroom

end ResultSet

/-! ### Following the news -/

namespace Picture

variable {m : Matcher} {p p' : Picture}

/-- One piece of news that passes. -/
theorem match_of_take? {n : News} (h : p.take? n = some p') (hp : p.results.Match m)
    (hn : ∀ e, n.entry? = some e → m.admits e = true) : p'.results.Match m := by
  -- an entry that matches may be put in
  have hinsert : ∀ e, m.admits e = true → (p.results.insert e).Match m := by
    intro e he x hx
    rcases Keyed.eq_or_mem_of_mem_insert hx with rfl | hx
    · exact he
    · exact hp x hx
  cases n with
  | found e =>
    rw [take?] at h
    split at h
    · cases h
      exact hinsert e (hn e rfl)
    · cases h
  | changed e =>
    simp only [take?] at h
    split at h
    · cases h
    · split at h
      · cases h
      · cases h
        exact hinsert e (hn e rfl)
  | removed e =>
    rw [take?] at h
    split at h
    · cases h
      exact fun x hx => hp x (List.mem_filter.mp hx).1
    · cases h
  | moved status =>
    rw [take?] at h
    split at h
    · cases h
    · cases h
      exact hp

/-- **News that pass** lead from results that match to results that match. -/
theorem match_of_replay {news : List News} (h : p.replay news = some p')
    (hp : p.results.Match m) (hnews : m.Passes news) : p'.results.Match m := by
  induction news generalizing p with
  | nil =>
    cases h
    exact hp
  | cons n rest ih =>
    obtain ⟨middle, hmiddle, hrest⟩ := Option.bind_eq_some_iff.mp h
    obtain ⟨hn, hlater⟩ := Matcher.passes_cons.mp hnews
    exact ih hrest (match_of_take? hmiddle hp hn) hlater

end Picture

/-! ### Moves -/

/-- Whether a task is going to make a joined room a result. -/
def Task.isJoining : Task → Bool
  | .mergeJoined .. => true
  | _ => false

namespace World

/-- A query is there that a room matches. -/
def Accepts (w : World) (q : QueryId) (name identifier : String) : Prop :=
  ∃ query, w.query? q = some query ∧ query.accepts name identifier = true

/-- A query is there that all results that the news are about match. -/
def Passes (w : World) (q : QueryId) (news : List News) : Prop :=
  ∃ query, w.query? q = some query ∧ query.matcher.Passes news

/-- The news of a move are about rooms that match, and so are the joined rooms it looks up. -/
structure Screens (w : World) (m : Move) : Prop where
  notes : ∀ {q news ids}, .committed q news ids ∈ m.notes → w.Passes q news
  joined : ∀ {q notice autoJoin}, .mergeJoined q notice autoJoin ∈ m.tasks →
    w.Accepts q notice.room notice.identifier

variable {w w' : World} {q : QueryId} {query : Query} {m : Move}

theorem Accepts.of_later (h : Later w w') {name identifier : String}
    (haccepts : w.Accepts q name identifier) : w'.Accepts q name identifier := by
  obtain ⟨query, hq, hmatches⟩ := haccepts
  obtain ⟨query', hq', hgrows⟩ := h.kept hq
  refine ⟨query', hq', ?_⟩
  rwa [Query.accepts, hgrows.matcher]

theorem Passes.of_later (h : Later w w') {news : List News} (hpasses : w.Passes q news) :
    w'.Passes q news := by
  obtain ⟨query, hq, hnews⟩ := hpasses
  obtain ⟨query', hq', hgrows⟩ := h.kept hq
  refine ⟨query', hq', ?_⟩
  rwa [hgrows.matcher]

/-- A move that tells nothing and looks nothing up. -/
theorem screens_silent (hnotes : ∀ q news ids, .committed q news ids ∉ m.notes)
    (htasks : ∀ t ∈ m.tasks, t.isJoining = false) : w.Screens m := by
  refine ⟨fun hmem => absurd hmem (hnotes _ _ _), ?_⟩
  intro q notice autoJoin hmem
  cases htasks _ hmem

theorem screens_still (w w' : World) : w.Screens (.still w') := screens_silent nofun nofun

theorem screens_commit {news : List News} (h : w.Passes q news) :
    w.Screens (w'.commit q news) := by
  cases news with
  | nil => exact screens_still w w'
  | cons n rest =>
    refine ⟨?_, ?_⟩
    · intro p news' ids hmem
      cases List.mem_singleton.mp hmem
      exact h
    · intro p notice autoJoin hmem
      cases List.mem_singleton.mp hmem

theorem screens_change (hq : w.query? q = some query) {outcome : List News × ResultSet}
    (h : query.matcher.Passes outcome.1) : w.Screens (w'.change q outcome) :=
  screens_commit ⟨query, hq, h⟩

theorem screens_moveTo (hq : w.query? q = some query) (status : Status) :
    w.Screens (w'.moveTo q status) :=
  screens_commit ⟨query, hq, Matcher.passes_moved _ status⟩

theorem screens_cancel (w : World) (q : QueryId) : w.Screens (w.cancel q) := by
  unfold cancel
  split
  · exact screens_still w w
  · next query hq =>
    split
    · exact screens_still ..
    · exact screens_moveTo hq .canceled

theorem Screens.andThen (h : w.Screens m) {tasks : List Task}
    (htasks : ∀ t ∈ tasks, t.isJoining = false) : w.Screens (m.andThen tasks) := by
  refine ⟨h.notes, ?_⟩
  intro p notice autoJoin hmem
  rcases List.mem_append.mp hmem with hmem | hmem
  · exact h.joined hmem
  · cases htasks _ hmem

/-! ### Answers to announcements -/

/-- **A presence**: a room that is no result is looked up only if it matches. -/
theorem screens_followPresence (hq : w.query? q = some query)
    (hmatch : query.results.Match query.matcher) (notice : PresenceNotice) :
    w.Screens (w.followPresence q query notice) := by
  unfold followPresence
  split
  · exact screens_still w w
  · split
    · next outcome houtcome =>
      exact screens_change hq (ResultSet.passes_setPresence? hmatch houtcome)
    · split
      · next hjoin =>
        have haccepts : query.accepts notice.room notice.identifier = true :=
          (Bool.and_eq_true_iff.mp hjoin).2
        refine ⟨?_, ?_⟩
        · intro p news ids hmem
          cases List.mem_singleton.mp hmem
        · intro p notice' autoJoin hmem
          cases List.mem_singleton.mp hmem
          exact ⟨query, hq, haccepts⟩
      · exact screens_still w w

/-- **A list of rooms**: a new room becomes a result only if it matches. -/
theorem screens_followRooms (hq : w.query? q = some query)
    (hmatch : query.results.Match query.matcher) (notice : RoomNotice) :
    w.Screens (w.followRooms q query notice) := by
  unfold followRooms
  dsimp only
  split
  · exact screens_still w w
  · next hadded =>
    split
    · exact screens_still w w
    · split
      · next hchange =>
        have haccepts : query.accepts notice.room.name notice.room.identifier = true := by
          by_contra hno
          exact hadded ⟨hchange, by simpa using hno⟩
        exact screens_change hq (ResultSet.passes_mergeRoom haccepts _ _)
      · exact screens_change hq (ResultSet.passes_dropRoom hmatch _)
      · exact screens_change hq (ResultSet.passes_setAutoJoin hmatch _ _)

theorem screens_followProviders (hq : w.query? q = some query)
    (hmatch : query.results.Match query.matcher) (notice : ProviderNotice) :
    w.Screens (w.followProviders q query notice) := by
  unfold followProviders
  split
  · exact screens_silent nofun (by simp [Move.doing, Task.isJoining])
  · split
    · exact screens_still w w
    · exact screens_change hq (ResultSet.passes_dropProvider hmatch _)

theorem screens_follow (hmatch : ∀ {query}, w.query? q = some query →
    query.results.Match query.matcher) (notice : Notice) : w.Screens (w.follow q notice) := by
  unfold follow
  split
  · exact screens_still w w
  · next query hq =>
    split
    · exact screens_still w w
    · cases notice with
      | presence notice => exact screens_followPresence hq (hmatch hq) notice
      | rooms notice => exact screens_followRooms hq (hmatch hq) notice
      | providers notice => exact screens_followProviders hq (hmatch hq) notice
      | registration notice =>
        show w.Screens (w.followRegistry q query notice)
        rw [followRegistry_eq_still]
        exact screens_still ..

/-! ### Tasks -/

/-- A joined room that has been looked up becomes a result: that it matches is known already. -/
theorem screens_advanceJoined (hmatch : ∀ {query}, w.query? q = some query →
    query.results.Match query.matcher) {notice : PresenceNotice}
    (hroom : w.Accepts q notice.room notice.identifier) (autoJoin : Bool) :
    w.Screens (w.advanceJoined q notice autoJoin) := by
  obtain ⟨query, hq, haccepts⟩ := hroom
  unfold advanceJoined
  rw [hq]
  dsimp only
  split
  · exact screens_still w w
  · exact screens_change hq (ResultSet.passes_mergeJoined (hmatch hq) haccepts autoJoin)

/-- Of the rooms that have been read those that match become results. -/
theorem screens_advanceMerge (w : World) (q : QueryId) (p : ProviderId) (epoch : Nat)
    (rooms : List Room) : w.Screens (w.advanceMerge q p epoch rooms) := by
  unfold advanceMerge
  split
  · exact screens_still w w
  · next query hq =>
    split
    · exact screens_still w w
    · split
      · exact screens_silent nofun (by simp [Move.doing, Task.isJoining])
      · refine screens_change hq (ResultSet.passes_mergeRooms ?_ _ p)
        intro room hroom
        exact (List.mem_filter.mp hroom).2

theorem screens_advanceDelivery (hmatch : ∀ {q query}, w.query? q = some query →
    query.results.Match query.matcher) (notice : Notice) (rest : List Watcher) :
    w.Screens (w.advanceDelivery notice rest) := by
  cases rest with
  | nil => exact screens_still w w
  | cons v rest =>
    cases v with
    | query q => exact (screens_follow hmatch notice).andThen (by simp [Task.isJoining])
    | tap t =>
      exact screens_silent (by simp [advanceDelivery]) (by simp [advanceDelivery, Task.isJoining])

theorem screens_advanceScan (w : World) (q : QueryId) (p : ProviderId) :
    w.Screens (w.advanceScan q p) := by
  unfold advanceScan
  split
  · exact screens_still w w
  · split
    · exact screens_still w w
    · exact screens_silent (by simp) (by simp [Task.isJoining])

theorem screens_advanceSearch (w : World) (q : QueryId) (rest : List ProviderId) :
    w.Screens (w.advanceSearch q rest) := by
  cases rest with
  | nil =>
    rw [advanceSearch]
    split
    · exact screens_still w w
    · next query hq =>
      split
      · exact screens_moveTo hq .completed
      · exact screens_still w w
  | cons p rest =>
    rw [advanceSearch]
    split
    · exact screens_still w w
    · split
      · exact screens_still w w
      · exact screens_silent (by simp [Move.doing]) (by simp [Move.doing, Task.isJoining])

theorem screens_advanceNotification (w : World) (q : QueryId) (audience : List Subscriber)
    (rest : List Delivery) : w.Screens (w.advanceNotification q audience rest) := by
  cases rest with
  | nil => exact screens_still w w
  | cons d rest =>
    unfold advanceNotification
    dsimp only
    split <;> exact screens_silent (by simp) (by simp [Task.isJoining])

/-- **A task** tells of rooms that match, if all results match by now and the joined room that it
has looked up does. -/
theorem screens_advance (hmatch : ∀ {q query}, w.query? q = some query →
    query.results.Match query.matcher) {t : Task}
    (hroom : ∀ {q notice autoJoin}, t = .mergeJoined q notice autoJoin →
      w.Accepts q notice.room notice.identifier) : w.Screens (w.advance t) := by
  cases t with
  | deliver notice rest => exact screens_advanceDelivery hmatch notice rest
  | withdraw s => exact screens_still ..
  | mergeJoined q notice autoJoin => exact screens_advanceJoined hmatch (hroom rfl) autoJoin
  | scan q p => exact screens_advanceScan w q p
  | merge q p epoch rooms => exact screens_advanceMerge w q p epoch rooms
  | search q rest => exact screens_advanceSearch w q rest
  | notify q audience rest => exact screens_advanceNotification w q audience rest
  | cancelEach rest =>
    cases rest with
    | nil => exact screens_still w w
    | cons q rest => exact (screens_cancel w q).andThen (by simp [Task.isJoining])

/-! ### Actions -/

theorem Runs.screens (h : w.Runs q m) : w.Screens m := by
  cases h with
  | still | late => exact screens_still ..
  | search => exact screens_silent (by simp) (by simp [Task.isJoining])

theorem Sets.screens (h : w.Sets q m) : w.Screens m := by
  cases h with
  | still => exact screens_still ..
  | canceled => exact screens_cancel w q
  | completed hq => exact screens_moveTo hq .completed

/-- **An action** tells of no room by itself. -/
theorem screens_acts {named : String → Option QueryId} {a : Action} (h : Acts w named a m) :
    w.Screens m := by
  have announced : ∀ {w' w'' : World} {source : Source} {notice : Notice},
      w.Screens (.doing w' [.deliver notice (w''.audience source)]) :=
    screens_silent (by simp [Move.doing]) (by simp [Move.doing, Task.isJoining])
  cases h with
  | idle | create | listen | unlisten | mention | tap => exact screens_still ..
  | read => exact screens_silent (by simp) (by simp)
  | run q => exact (runs_run w q).screens
  | setStatus q status => exact (sets_setStatus w q status).screens
  | cancel q => exact screens_cancel w q
  | cancelAll =>
    exact screens_silent (by simp [cancelAll, Move.doing])
      (by simp [cancelAll, Move.doing, Task.isJoining])
  | addRoom | removeRoom | setAutoJoin | addProvider | removeProvider => exact announced
  | announceRoom | announceProvider | register | announceRegistration => exact announced
  | unregister => exact announced.andThen (by simp [Task.isJoining])
  | presence m provider room identifier change hpresence =>
    obtain ⟨notice, rfl⟩ := exists_of_announcePresence? hpresence
    exact announced

end World

/-! ### Histories -/

namespace Session

/-- All results match, and so do the joined rooms that have been looked up and all that has been
told. -/
structure Screened (s : Session) : Prop where
  results : ∀ {q query}, s.world.query? q = some query → query.results.Match query.matcher
  joined : ∀ {q notice autoJoin}, .task (.mergeJoined q notice autoJoin) ∈ s.calls →
    s.world.Accepts q notice.room notice.identifier
  letters : ∀ l ∈ s.sent, s.world.Passes l.query [l.news]

variable {permitted : Session → Action → Prop} {s t : Session} {c : Call} {calls : List Call}
  {m : Move} {first later : List Call}

theorem screened_ofSources (config : Config) (directory : Directory)
    (registered : List ServiceMention) (limit : Nat) :
    (ofSources config directory registered limit).Screened :=
  ⟨nofun, nofun, nofun⟩

/-- The move of a step tells of rooms that match. -/
theorem Goes.screens (h : s.Goes c calls m first later t) (hcalls : s.calls = c :: calls)
    (hs : s.Screened) : s.world.Screens m := by
  cases h.does with
  | task task =>
    refine World.screens_advance hs.results ?_
    rintro q notice autoJoin rfl
    exact hs.joined (hcalls ▸ List.mem_cons_self)
  | action hacts => exact World.screens_acts hacts
  | idle => exact World.screens_still ..
  | read => exact World.screens_silent nofun nofun

/-- The news of a query in a move that screens them. -/
theorem passes_newsOf (h : s.world.Screens m) {q : QueryId} {query : Query}
    (hq : s.world.query? q = some query) :
    query.matcher.Passes (m.notes.flatMap (Note.newsOf q)) := by
  intro n hn
  obtain ⟨note, hnote, hnews⟩ := List.mem_flatMap.mp hn
  cases note with
  | committed p news ids =>
    rw [Note.newsOf] at hnews
    split at hnews
    · next hpq =>
      subst hpq
      obtain ⟨old, hold, hpasses⟩ := h.notes hnote
      cases Option.some.inj (hold.symm.trans hq)
      exact hpasses n hnews
    · cases hnews
  | _ => cases hnews

/-- The letters of a move that screens its news. -/
theorem passes_sent (h : s.world.Screens m) {l : Letter} (hl : l ∈ m.notes.flatMap Note.sent) :
    s.world.Passes l.query [l.news] := by
  obtain ⟨note, hnote, hsent⟩ := List.mem_flatMap.mp hl
  cases note with
  | committed p news ids =>
    obtain ⟨n, hn, hmem⟩ := List.mem_flatMap.mp hsent
    obtain ⟨id, -, rfl⟩ := List.mem_map.mp hmem
    obtain ⟨query, hq, hpasses⟩ := h.notes hnote
    exact ⟨query, hq, Matcher.passes_cons.mpr ⟨hpasses n hn, Matcher.passes_nil _⟩⟩
  | _ => cases hsent

/-- **A step** leaves everything screened. -/
theorem Orderly.screened_step (h : s.Orderly) (hs : s.Screened) (hcalls : s.calls = c :: calls) :
    s.step.Screened := by
  obtain ⟨m, first, later, hgoes⟩ := goes_step hcalls
  have hscreens := hgoes.screens hcalls hs
  have hreports := hgoes.reports h.sound h.tidy
  have hlater := hgoes.later_world h.sound
  refine ⟨?_, ?_, ?_⟩
  · intro q query' hq'
    cases hq : s.world.query? q with
    | some query =>
      obtain ⟨after, hafter, hreplay⟩ := hreports.pictures hq
      obtain ⟨after', hafter', hgrows⟩ := hlater.kept hq
      cases Option.some.inj (hafter.symm.trans hq')
      cases Option.some.inj (hafter'.symm.trans hq')
      rw [hgrows.matcher]
      exact Picture.match_of_replay hreplay (hs.results hq) (passes_newsOf hscreens hq)
    | none =>
      have hne : s.calls ≠ [] := by
        rw [hcalls]
        exact List.cons_ne_nil _ _
      obtain ⟨name, text, isTracked, -, -, hfound⟩ := h.sound.born hne hq hq'
      rw [hfound.results]
      exact ResultSet.match_empty _
  · intro q notice autoJoin hmem
    rw [hgoes.calls] at hmem
    simp only [List.mem_append] at hmem
    rcases hmem with ((hfirst | htask) | hlast) | hold
    · cases hgoes.bare _ (List.mem_append_left _ hfirst)
    · obtain ⟨task, htask, heq⟩ := List.mem_map.mp htask
      cases heq
      exact (hscreens.joined htask).of_later hlater
    · cases hgoes.bare _ (List.mem_append_right _ hlast)
    · have hmem : .task (.mergeJoined q notice autoJoin) ∈ s.calls :=
        hcalls ▸ List.mem_cons_of_mem _ hold
      exact (hs.joined hmem).of_later hlater
  · intro l hl
    rw [sent, hgoes.notes, List.flatMap_append] at hl
    rcases List.mem_append.mp hl with hl | hl
    · exact (hs.letters l hl).of_later hlater
    · exact (passes_sent hscreens hl).of_later hlater

theorem Orderly.screened_next (h : s.Orderly) (hs : s.Screened) (hnext : Next permitted s t) :
    t.Screened := by
  cases hnext with
  | ask a hrest =>
    refine ⟨hs.results, ?_, hs.letters⟩
    intro q notice autoJoin hmem
    cases List.mem_singleton.mp hmem
  | step hcalls hpermitted => exact h.screened_step hs hcalls

/-- Everything matches in every session that can be reached. -/
theorem screened_of_reachable (h : Reachable permitted s) : s.Screened := by
  obtain ⟨config, directory, registered, limit, hleads⟩ := h
  induction hleads with
  | refl => exact screened_ofSources ..
  | tail hleads hnext ih => exact ((orderly_ofSources ..).leads hleads).screened_next ih hnext

/-- **Results and news are about rooms that match**, whatever sources announce and whoever acts
meanwhile.  The results of each query match it and are in increasing order of their addresses, so
that there is one for each address at most; and whatever has been told of a query, or is on its way
to a subscriber, is about a room that matches the query. -/
theorem results_match (h : Reachable Unrestricted s) :
    (∀ {q query}, s.world.query? q = some query →
      (∀ e ∈ query.results.entries, query.accepts e.address e.identifier = true) ∧
        query.results.entries.Pairwise fun a b => a.address < b.address) ∧
    ∀ l ∈ s.received ++ s.owed, ∀ e, l.news.entry? = some e →
      ∃ query, s.world.query? l.query = some query ∧
        query.accepts e.address e.identifier = true := by
  have horderly := orderly_of_reachable h
  have hscreened := screened_of_reachable h
  refine ⟨fun hq => ⟨hscreened.results hq, horderly.tidy hq⟩, ?_⟩
  intro l hl e he
  obtain ⟨query, hq, hpasses⟩ := hscreened.letters l (horderly.perm.mem_iff.mp hl)
  exact ⟨query, hq, hpasses l.news List.mem_cons_self e he⟩

/-- A query for rooms that begin with an "a" in whatever case, and a listener of it. -/
def relaxed : Session :=
  let config := Config.default.withMatchMode .ignoreCase
  ((((ofSources config twoRooms [⟨⟨"x"⟩, ⟨"p"⟩, true⟩]).ask (.create "q" "A" false)).steps 3).ask
    (.listen "q" "l" "s" [] none)).steps 3

/-- A room has been joined that nobody lists, and is announced under an identifier that does not
match. -/
def misled : Session :=
  ((relaxed.ask (.presence ⟨⟨"x"⟩, ⟨"p"⟩, true⟩ (some ⟨"y"⟩) "r" "Ab" .joined)).steps 8).ask
    (.announceRoom ⟨"p"⟩ ⟨"r", "r", true⟩ .added)

theorem reachable_misled : Reachable Unrestricted (misled.steps 5) := by
  have hmade : Leads Unrestricted (ofSources (Config.default.withMatchMode .ignoreCase) twoRooms
      [⟨⟨"x"⟩, ⟨"p"⟩, true⟩]) (((ofSources (Config.default.withMatchMode .ignoreCase) twoRooms
        [⟨⟨"x"⟩, ⟨"p"⟩, true⟩]).ask (.create "q" "A" false)).steps 3) :=
    leads_ask _ 3 rfl fun _ _ _ _ => trivial
  have hjoined : Leads Unrestricted relaxed
      ((relaxed.ask (.presence ⟨⟨"x"⟩, ⟨"p"⟩, true⟩ (some ⟨"y"⟩) "r" "Ab" .joined)).steps 8) :=
    leads_ask _ 8 rfl fun _ _ _ _ => trivial
  refine ⟨_, _, _, _, ((hmade.trans ?_).trans hjoined).trans ?_⟩
  · exact leads_ask (.listen "q" "l" "s" [] none) 3 rfl fun _ _ _ _ => trivial
  · exact leads_ask _ 5 rfl fun _ _ _ _ => trivial

/-- The room keeps the identifier under which it was joined. -/
theorem results_match_misled : Reachable Unrestricted (misled.steps 5) ∧
    ∃ query, (misled.steps 5).world.query? ⟨0⟩ = some query ∧ query.results.size = 1 ∧
      (misled.steps 5).received.length = 1 ∧
      ∀ e ∈ query.results.entries, query.accepts e.address e.identifier = true := by
  obtain ⟨hresults, -⟩ := results_match reachable_misled
  obtain ⟨query, hq, hsize⟩ : ∃ query, (misled.steps 5).world.query? ⟨0⟩ = some query ∧
      query.results.size = 1 := ⟨_, rfl, rfl⟩
  exact ⟨reachable_misled, query, hq, hsize, rfl, (hresults hq).1⟩

end Session

end RoomSearch
