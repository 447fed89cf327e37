import RoomSearch.Proofs.Interleaving.Outcome
import RoomSearch.Proofs.Replay
import RoomSearch.Proofs.Session.LeftAlone

/-!
# Presence and listings in any order

A room that the local user joins is announced on a presence channel and by the lists of rooms, and
nothing says which announcement comes first.  A query that hears of the presence first makes up the
entry itself, with a flag that it looks up; the listing corrects it later.  Each announcement takes
several steps, in which subscribers are told and the directory is read; what the query has found
when they are done is what the rules of change make of the announcement.

## Main definitions

* `Move.Makes` — a move after which what has been found and what remains to be done make up given
  results.
* `Session.Listens` — a query is held, and nobody interferes.
* `Session.hear`, `Session.hearAll` — a session at rest after announcements.

## Main results

* `World.makes_follow`, `World.makes_advance` — announcements are heard as the rules of change say.
* `Session.Listens.hearAll` — what a query has found after announcements.
* `Session.interleavings_converge` — **all interleavings lead to the same results.**
-/

namespace RoomSearch

/-! ### Moves -/

/-- Whether a task does nothing but tell subscribers, or is over. -/
def Task.isTelling : Task → Bool
  | .deliver _ rest => rest.isEmpty
  | .notify .. => true
  | _ => false

/-- What has been found and what remains to be done for a query make up these results. -/
def Awaits (q : QueryId) (found results : ResultSet) (tasks : List Task) : Prop :=
  (∀ t ∈ tasks, t.isTelling = true) ∧ found = results ∨
    ∃ notice flag rest, tasks = .mergeJoined q notice flag :: rest ∧
      (∀ t ∈ rest, t.isTelling = true) ∧ (found.mergeJoined notice flag).2 = results

theorem Awaits.append {q : QueryId} {found results : ResultSet} {tasks later : List Task}
    (h : Awaits q found results tasks) (hlater : ∀ t ∈ later, t.isTelling = true) :
    Awaits q found results (tasks ++ later) := by
  rcases h with ⟨htelling, hresults⟩ | ⟨notice, flag, rest, rfl, htelling, hresults⟩
  · exact .inl ⟨List.forall_mem_append.mpr ⟨htelling, hlater⟩, hresults⟩
  · exact .inr ⟨notice, flag, rest ++ later, rfl,
      List.forall_mem_append.mpr ⟨htelling, hlater⟩, hresults⟩

/-- Two states of a query that search for the same and have the same status. -/
structure Query.Alike (a b : Query) : Prop where
  matcher : b.matcher = a.matcher
  status : b.status = a.status

theorem Query.Alike.not_isCanceled {a b : Query} (h : a.Alike b) (hactive : a.status ≠ .canceled) :
    ¬ b.isCanceled = true := by
  rw [Query.isCanceled, h.status]
  simpa using hactive

/-- After a move of a query, which is `query` but for its results, what it has found and what
remains to be done make up these results. -/
structure Move.Makes (m : Move) (q : QueryId) (query : Query) (results : ResultSet) : Prop where
  unseen : ∀ tap notice, m.callback ≠ some (.tap tap notice)
  awaits : ∃ query', m.world.query? q = some query' ∧ query.Alike query' ∧
    Awaits q query'.results results m.tasks

/-- More to be done at the end, which tells subscribers at most. -/
theorem Move.Makes.andThen {m : Move} {q : QueryId} {query : Query} {results : ResultSet}
    {tasks : List Task} (h : m.Makes q query results)
    (htelling : ∀ t ∈ tasks, t.isTelling = true) : (m.andThen tasks).Makes q query results := by
  obtain ⟨query', hq, halike, hawaits⟩ := h.awaits
  exact ⟨h.unseen, query', hq, halike, hawaits.append htelling⟩

namespace World

variable {w : World} {q : QueryId} {query query' : Query} {results : ResultSet}

theorem isTelling_commit (w : World) (q : QueryId) (news : List News) :
    ∀ t ∈ (w.commit q news).tasks, t.isTelling = true := by
  cases news with
  | nil => exact List.forall_mem_nil _
  | cons n rest =>
    intro t ht
    rw [List.mem_singleton.mp ht]
    rfl

/-- Results are changed at once. -/
theorem makes_change (hq : w.query? q = some query') (halike : query.Alike query')
    (outcome : List News × ResultSet) : (w.change q outcome).Makes q query outcome.2 := by
  refine ⟨?_, { query' with results := outcome.2 }, ?_, ⟨halike.matcher, halike.status⟩,
    .inl ⟨isTelling_commit _ q _, rfl⟩⟩
  · intro tap notice
    rw [change, callback_commit]
    exact (Option.some_ne_none _).symm
  · rw [change, world_commit, query?_modifyQuery_self _ hq]

theorem makes_still (hq : w.query? q = some query') (halike : query.Alike query') :
    (Move.still w).Makes q query query'.results :=
  ⟨nofun, query', hq, halike, .inl ⟨List.forall_mem_nil _, rfl⟩⟩

/-! ### An announcement is heard -/

theorem makes_followPresence (hq : w.query? q = some query) (hactive : ¬ query.isCanceled = true)
    (notice : PresenceNotice) :
    (w.followPresence q query notice).Makes q query
      (query.results.hear (query.accepts notice.room notice.identifier)
        ((RoomEvent.presence notice).lookUp w.directory) (.presence notice)) := by
  rw [followPresence, if_neg hactive, ResultSet.hear]
  cases query.results.setPresence? notice.room notice.change.presence with
  | some outcome => exact makes_change hq ⟨rfl, rfl⟩ outcome
  | none =>
    dsimp only
    split
    · -- what has been looked up is merged later
      refine ⟨?_, query, hq, ⟨rfl, rfl⟩, .inr ⟨notice, _, [], rfl, List.forall_mem_nil _, rfl⟩⟩
      rintro tap notice ⟨⟩
    · exact makes_still hq ⟨rfl, rfl⟩

theorem makes_followRooms (hq : w.query? q = some query) (hactive : ¬ query.isCanceled = true)
    (provider : ProviderId) (room : Room) (flag : Bool) :
    (w.followRooms q query ⟨provider, room, .added⟩).Makes q query
      (query.results.hear (query.accepts room.name room.identifier) flag
        (.added provider room)) := by
  rw [followRooms, ResultSet.hear]
  dsimp only
  cases haccepts : query.accepts room.name room.identifier with
  | false => exact makes_still hq ⟨rfl, rfl⟩
  | true =>
    have hpass : ¬ (RoomChange.added = .added ∧ (!true) = true) := by simp
    rw [if_neg hpass, if_neg hactive, if_pos rfl]
    have hnext := query?_modifyQuery_self Query.advanceEpoch hq
    have halike : query.Alike query.advanceEpoch := ⟨rfl, rfl⟩
    exact makes_change hnext halike _

/-- **A query hears an announcement.** -/
theorem makes_follow (hq : w.query? q = some query) (halive : query.alive = true)
    (hactive : ¬ query.isCanceled = true) (e : RoomEvent) :
    (w.follow q e.notice).Makes q query (query.results.hear
      (query.accepts e.address e.identifier) (e.lookUp w.directory) e) := by
  rw [follow, hq]
  dsimp only
  rw [if_neg (by simp [halive])]
  cases e with
  | presence notice => exact makes_followPresence hq hactive notice
  | added provider room => exact makes_followRooms hq hactive provider room _

/-! ### What remains to be done is done -/

/-- Telling subscribers changes no query. -/
theorem makes_advance_of_isTelling {t : Task} (ht : t.isTelling = true)
    (hq : w.query? q = some query') (halike : query.Alike query') :
    (w.advance t).Makes q query query'.results := by
  have hadvances := w.advances_advance t
  revert hadvances
  generalize w.advance t = m
  intro hadvances
  have hone : ∀ {p : QueryId} {audience : List Subscriber} {rest : List Delivery},
      ∀ u ∈ [Task.notify p audience rest], u.isTelling = true := by
    intro p audience rest u hu
    rw [List.mem_singleton.mp hu]
    rfl
  cases hadvances with
  | spent | dropped => exact makes_still hq halike
  | publish | hear => exact ⟨nofun, query', hq, halike, .inl ⟨hone, rfl⟩⟩
  | _ => cases ht

/-- **What remains to be done** leads to the results that are awaited. -/
theorem makes_advance {t : Task} {rest : List Task} (hq : w.query? q = some query')
    (halike : query.Alike query') (hactive : query.status ≠ .canceled)
    (hawaits : Awaits q query'.results results (t :: rest)) :
    (w.advance t).Makes q query results ∧ ∀ u ∈ rest, u.isTelling = true := by
  rcases hawaits with ⟨htelling, rfl⟩ | ⟨notice, flag, rest', htasks, htelling, rfl⟩
  · refine ⟨makes_advance_of_isTelling (htelling t List.mem_cons_self) hq halike, ?_⟩
    exact fun u hu => htelling u (List.mem_cons_of_mem _ hu)
  · cases htasks
    refine ⟨?_, htelling⟩
    show (w.advanceJoined q notice flag).Makes q query _
    rw [advanceJoined, hq]
    dsimp only
    rw [if_neg (halike.not_isCanceled hactive)]
    exact makes_change hq halike _

end World

namespace Session

/-- A query that is held, among listeners that do not call back and with nothing in store for the
next reading. -/
structure Listens (s : Session) (q : QueryId) : Prop where
  sound : s.Sound
  passive : s.Passive
  unhooked : s.hook = none
  held : ∃ h ∈ s.held, h.2 = q

/-- A query hears an announcement while the directory is `d`; afterwards the session is at rest. -/
def hear (s : Session) (q : QueryId) (d : Directory) (e : RoomEvent) : Session :=
  settle { s with
    world := { s.world with directory := d }
    calls := [.task (.deliver e.notice [.query q])] }

/-- A query hears announcements one after the other. -/
def hearAll (s : Session) (q : QueryId) (events : List (Directory × RoomEvent)) : Session :=
  events.foldl (fun s x => s.hear q x.1 x.2) s

variable {s t : Session} {q : QueryId} {query : Query} {results : ResultSet} {task : Task}
  {calls : List Call} {tasks : List Task} {d : Directory} {e : RoomEvent}

/-! ### Steps -/

/-- Where listeners do not call back, nobody interferes. -/
theorem Listens.leftAlone (h : s.Listens q) : s.LeftAlone q fun _ => True :=
  ⟨h.sound, fun l hl _ => h.passive l hl, h.unhooked, h.held⟩

/-- Who listens goes on listening, and sees the world as the task has left it. -/
theorem Listens.step_task (h : s.Listens q) (hcalls : s.calls = .task task :: calls)
    (hunseen : ∀ tap notice, (s.world.advance task).callback ≠ some (.tap tap notice)) :
    s.step.Listens q ∧ s.step.calls = (s.world.advance task).tasks.map Call.task ++ calls ∧
      s.step.world.query? q = (s.world.advance task).world.query? q := by
  obtain ⟨hstep, hcalls', hquery⟩ := h.leftAlone.step_task hcalls fun c hcallback => by
    cases c with
    | read | listener => trivial
    | tap i notice => exact absurd hcallback (hunseen i notice)
  exact ⟨⟨hstep.sound, fun l hl => hstep.deaf l hl trivial, hstep.unhooked, hstep.held⟩, hcalls',
    hquery⟩

/-- The query, which is `query` but for its results, is going to have these results at rest. -/
structure Concludes (s : Session) (q : QueryId) (query : Query) (results : ResultSet) : Prop where
  listens : s.Listens q
  awaits : ∃ query' tasks, s.world.query? q = some query' ∧ query.Alike query' ∧
    s.calls = tasks.map Call.task ∧ Awaits q query'.results results tasks

theorem Listens.concludes (h : s.Listens q) (hcalls : s.calls = (task :: tasks).map Call.task)
    (hmakes : (s.world.advance task).Makes q query results)
    (htelling : ∀ t ∈ tasks, t.isTelling = true) : s.step.Concludes q query results := by
  obtain ⟨hlistens, hcalls', hquery⟩ := h.step_task hcalls hmakes.unseen
  obtain ⟨query', hq, halike, hawaits⟩ := hmakes.awaits
  refine ⟨hlistens, query', (s.world.advance task).tasks ++ tasks, hquery.trans hq, halike, ?_,
    hawaits.append htelling⟩
  rw [hcalls', List.map_append]

theorem Concludes.step (h : s.Concludes q query results) (hactive : query.status ≠ .canceled)
    (hrest : s.calls ≠ []) : s.step.Concludes q query results := by
  obtain ⟨query', tasks, hq, halike, hcalls, hawaits⟩ := h.awaits
  cases tasks with
  | nil => exact absurd hcalls hrest
  | cons t rest =>
    obtain ⟨hmakes, htelling⟩ := World.makes_advance hq halike hactive hawaits
    exact h.listens.concludes hcalls hmakes htelling

/-- At rest the results are those that were awaited. -/
theorem Concludes.at_rest (h : s.Concludes q query results) (hrest : s.calls = []) :
    ∃ query', s.world.query? q = some query' ∧ query.Alike query' ∧ query'.results = results := by
  obtain ⟨query', tasks, hq, halike, hcalls, hawaits⟩ := h.awaits
  have hnil : tasks = [] := List.map_eq_nil_iff.mp (hcalls.symm.trans hrest)
  rcases hawaits with ⟨-, hresults⟩ | ⟨notice, flag, rest, htasks, -⟩
  · exact ⟨query', hq, halike, hresults⟩
  · rw [hnil] at htasks
    cases htasks

/-! ### Announcements are heard -/

/-- Who listens hears of the directory as it is. -/
theorem Listens.turn (h : s.Listens q) (hrest : s.calls = []) (d : Directory) (notice : Notice) :
    Listens { s with
      world := { s.world with directory := d }
      calls := [.task (.deliver notice [.query q])] } q where
  sound := by
    refine ⟨h.sound.accounts.of_chain (World.chain_directory s.world d), h.sound.alive, ?_⟩
    intro p query hp halive
    have hused := h.sound.used hp halive
    rw [usesQuery, hrest, List.any_nil, Bool.or_false] at hused
    rw [usesQuery, Bool.or_eq_true]
    exact .inl hused
  passive := h.passive
  unhooked := h.unhooked
  held := h.held

/-- **A query hears an announcement**: what it has found then. -/
theorem Listens.hear (h : s.Listens q) (hrest : s.calls = [])
    (hq : s.world.query? q = some query) (hactive : query.status ≠ .canceled) (d : Directory)
    (e : RoomEvent) : (s.hear q d e).Listens q ∧ ∃ query',
      (s.hear q d e).world.query? q = some query' ∧ query.Alike query' ∧ query'.results =
        query.results.hear (query.accepts e.address e.identifier) (e.lookUp d) e := by
  have halive : query.alive = true := by
    obtain ⟨held, hheld, rfl⟩ := h.held
    obtain ⟨other, hother, halive⟩ := h.sound.alive held hheld
    cases Option.some.inj (hother.symm.trans hq)
    exact halive
  have hturn := h.turn hrest d e.notice
  have hmakes : Move.Makes ((World.follow { s.world with directory := d } q e.notice).andThen
      [.deliver e.notice []]) q query
      (query.results.hear (query.accepts e.address e.identifier) (e.lookUp d) e) := by
    refine (World.makes_follow (w := { s.world with directory := d }) hq halive ?_ e).andThen ?_
    · simpa [Query.isCanceled] using hactive
    · intro t ht
      rw [List.mem_singleton.mp ht]
      rfl
  have hconcludes := hturn.concludes (List.map_singleton ..).symm hmakes (List.forall_mem_nil _)
  have hsettled := settle_of_step (P := fun s => s.Concludes q query _)
    (fun s hcalls hs => hs.step hactive hcalls) hconcludes
  have heq : s.hear q d e = (step { s with
      world := { s.world with directory := d }
      calls := [.task (.deliver e.notice [.query q])] }).settle := by
    rw [Session.hear, settle, dif_neg (List.cons_ne_nil _ _)]
  rw [heq]
  exact ⟨hsettled.listens, hsettled.at_rest (calls_settle _)⟩

/-- What a query hears, with what it looks up. -/
def lookedUp (events : List (Directory × RoomEvent)) : List (RoomEvent × Bool) :=
  events.map fun x => (x.2, x.2.lookUp x.1)

/-- **A query hears announcements one after the other**: what it has found then. -/
theorem Listens.hearAll (h : s.Listens q) (hrest : s.calls = [])
    (hq : s.world.query? q = some query) (hactive : query.status ≠ .canceled)
    (events : List (Directory × RoomEvent)) : (s.hearAll q events).Listens q ∧ ∃ query',
      (s.hearAll q events).world.query? q = some query' ∧ query.Alike query' ∧ query'.results =
        query.results.hearAll query.matcher.accepts (lookedUp events) := by
  induction events generalizing s query with
  | nil => exact ⟨h, query, hq, ⟨rfl, rfl⟩, rfl⟩
  | cons x rest ih =>
    obtain ⟨hlistens, middle, hmiddle, halike, hresults⟩ := h.hear hrest hq hactive x.1 x.2
    have hactive' : middle.status ≠ .canceled := by rwa [halike.status]
    obtain ⟨hlistens', query', hq', halike', hresults'⟩ :=
      ih hlistens (calls_settle _) hmiddle hactive'
    refine ⟨hlistens', query', hq', ⟨halike'.matcher.trans halike.matcher,
      halike'.status.trans halike.status⟩, ?_⟩
    rw [hresults', hresults, halike.matcher]
    rfl

/-! ### Interleavings of presences and listings -/

/-- What is heard are these presences and these listings, each in order. -/
structure Interleaves (presences : List PresenceNotice) (listings : List (ProviderId × Room))
    (events : List (Directory × RoomEvent)) : Prop where
  presences : (events.filterMap fun x => x.2.presence?) = presences
  listings : (events.filterMap fun x => x.2.added?) = listings

/-- One of the announcements has this address and this identifier. -/
def Mentions (presences : List PresenceNotice) (listings : List (ProviderId × Room))
    (address identifier : String) : Prop :=
  (∃ notice ∈ presences, notice.room = address ∧ notice.identifier = identifier) ∨
    ∃ listing ∈ listings, listing.2.name = address ∧ listing.2.identifier = identifier

/-- A room that is not listed meanwhile is looked up as in the directory `d` each time. -/
def Steady (d : Directory) (listings : List (ProviderId × Room))
    (events : List (Directory × RoomEvent)) : Prop :=
  ∀ x ∈ events, ∀ provider name, (∀ listing ∈ listings, listing.2.name ≠ name) →
    x.1.findRoom? provider name = d.findRoom? provider name

variable {presences : List PresenceNotice} {listings : List (ProviderId × Room)}
  {events events' : List (Directory × RoomEvent)}

theorem presencesOf_lookedUp (events : List (Directory × RoomEvent)) :
    presencesOf (lookedUp events) = events.filterMap fun x => x.2.presence? := by
  rw [presencesOf, lookedUp, List.filterMap_map]
  rfl

theorem listingsOf_lookedUp (events : List (Directory × RoomEvent)) :
    listingsOf (lookedUp events) = events.filterMap fun x => x.2.added? := by
  rw [listingsOf, lookedUp, List.filterMap_map]
  rfl

theorem Interleaves.mentions (h : Interleaves presences listings events) {x : RoomEvent × Bool}
    (hx : x ∈ lookedUp events) : Mentions presences listings x.1.address x.1.identifier := by
  obtain ⟨e, flag⟩ := x
  cases e with
  | presence notice =>
    refine .inl ⟨notice, ?_, rfl, rfl⟩
    rw [← h.presences, ← presencesOf_lookedUp]
    exact mem_presencesOf.mpr ⟨flag, hx⟩
  | added provider room =>
    refine .inr ⟨(provider, room), ?_, rfl, rfl⟩
    rw [← h.listings, ← listingsOf_lookedUp]
    exact mem_listingsOf.mpr ⟨flag, hx⟩

theorem Steady.lookUp_eq (h : Steady d listings events) {notice : PresenceNotice} {flag : Bool}
    (hmem : (.presence notice, flag) ∈ lookedUp events)
    (hunlisted : ∀ listing ∈ listings, listing.2.name ≠ notice.room) :
    flag = RoomEvent.lookUp d (.presence notice) := by
  obtain ⟨x, hx, heq⟩ := List.mem_map.mp hmem
  obtain ⟨he, hflag⟩ := Prod.mk.inj heq
  rw [← hflag, he, RoomEvent.lookUp, RoomEvent.lookUp, h x hx _ _ hunlisted]

/-- Two interleavings, with what is looked up in each. -/
theorem Interleaves.interleaved (h : Interleaves presences listings events)
    (h' : Interleaves presences listings events')
    (hidentified : ∀ {address a b}, Mentions presences listings address a →
      Mentions presences listings address b → a = b)
    (hsteady : Steady d listings events) (hsteady' : Steady d listings events') :
    ResultSet.Interleaved (fun notice => RoomEvent.lookUp d (.presence notice)) (lookedUp events)
      (lookedUp events') where
  presences := by
    rw [presencesOf_lookedUp, presencesOf_lookedUp, h.presences, h'.presences]
  listings := by
    rw [listingsOf_lookedUp, listingsOf_lookedUp, h.listings, h'.listings]
  identified x hx y hy haddress := hidentified (h.mentions hx) (haddress ▸ h.mentions hy)
  flags notice flag hmem hunlisted := by
    rw [listingsOf_lookedUp, h.listings] at hunlisted
    rcases List.mem_append.mp hmem with hmem | hmem
    · exact hsteady.lookUp_eq hmem hunlisted
    · exact hsteady'.lookUp_eq hmem hunlisted

/-- What is found at an address that is listed. -/
theorem Interleaves.find?_of_listed (h : Interleaves presences listings events)
    (hidentified : ∀ {address a b}, Mentions presences listings address a →
      Mentions presences listings address b → a = b)
    {accepts : String → String → Bool} {address : String} {provider : ProviderId} {room : Room}
    (hlast : (listings.filter fun listing => listing.2.name == address).getLast? =
      some (provider, room)) (haccepts : accepts room.name room.identifier = true)
    (found : ResultSet) :
    (found.hearAll accepts (lookedUp events)).find? address = some { Entry.ofRoom provider room with
      presence := (presences.filter fun notice => notice.room == address).getLast?.elim
        (presenceAt (found.find? address)) fun notice => notice.change.presence } := by
  have hmem := List.mem_of_getLast? hlast
  obtain ⟨hlisted, hname⟩ := List.mem_filter.mp hmem
  have haddress : room.name = address := beq_iff_eq.mp hname
  have hmatching : ∀ x ∈ eventsAt address (lookedUp events),
      accepts x.1.address x.1.identifier = true := by
    intro x hx
    obtain ⟨hx, hxaddress⟩ := List.mem_filter.mp hx
    have hxname : x.1.address = room.name := (beq_iff_eq.mp hxaddress).trans haddress.symm
    have hmentions := h.mentions hx
    rw [hxname] at hmentions ⊢
    rw [hidentified hmentions (.inr ⟨_, hlisted, rfl, rfl⟩)]
    exact haccepts
  have hlast' : (listingsOf (eventsAt address (lookedUp events))).getLast? =
      some (provider, room) := by
    rw [listingsOf_eventsAt, listingsOf_lookedUp, h.listings, hlast]
  rw [ResultSet.find?_hearAll found hmatching, reviseAll_of_listed _ hlast',
    presencesOf_eventsAt, presencesOf_lookedUp, h.presences]

/-- A listing keeps the presence of every result. -/
theorem Listens.presence_kept (h : s.Listens q) (hrest : s.calls = [])
    (hq : s.world.query? q = some query) (hactive : query.status ≠ .canceled) (d : Directory)
    (provider : ProviderId) (room : Room) : ∃ query',
      (s.hear q d (.added provider room)).world.query? q = some query' ∧
        ∀ {address old}, query.results.find? address = some old →
          ∃ new, query'.results.find? address = some new ∧ new.presence = old.presence := by
  obtain ⟨-, query', hq', -, hresults⟩ := h.hear hrest hq hactive d (.added provider room)
  refine ⟨query', hq', fun {address old} hold => ?_⟩
  rw [hresults, ResultSet.find?_hear]
  split
  · have hkept := presenceAt_revise_added (query.accepts room.name room.identifier) false
      (query.results.find? address) provider room
    rw [hold] at hkept ⊢
    rw [RoomEvent.revise]
    split
    · exact ⟨_, rfl, rfl⟩
    · exact ⟨old, rfl, rfl⟩
  · exact ⟨old, hold, rfl⟩

/-- At rest after announcements. -/
theorem calls_hearAll (hrest : s.calls = []) (events : List (Directory × RoomEvent)) :
    (s.hearAll q events).calls = [] := by
  induction events generalizing s with
  | nil => exact hrest
  | cons x rest ih => exact ih (calls_settle _)

/-- **All interleavings of presences and listings** lead to the same results, whatever has been
found before and however often a room is announced, as long as a room has one identifier in all of
them and a room that is not listed meanwhile is looked up the same each time.  A room that matches
and is listed is found as it was listed last, with the presence that was announced last; and no
listing takes a presence back. -/
theorem interleavings_converge (hs : s.Listens q) (hrest : s.calls = [])
    (hq : s.world.query? q = some query) (hactive : query.status ≠ .canceled)
    (hsorted : query.results.Sorted)
    (hidentified : ∀ {address a b}, Mentions presences listings address a →
      Mentions presences listings address b → a = b)
    (h : Interleaves presences listings events) (h' : Interleaves presences listings events')
    (hsteady : Steady s.world.directory listings events)
    (hsteady' : Steady s.world.directory listings events') :
    ∃ a b, (s.hearAll q events).world.query? q = some a ∧
      (s.hearAll q events').world.query? q = some b ∧ a.results = b.results ∧
      (∀ address provider room,
        (listings.filter fun listing => listing.2.name == address).getLast? =
          some (provider, room) →
        query.accepts room.name room.identifier = true →
        a.results.find? address = some { Entry.ofRoom provider room with
          presence := (presences.filter fun notice => notice.room == address).getLast?.elim
            (presenceAt (query.results.find? address)) fun notice => notice.change.presence }) ∧
      ∀ before d provider room, ∃ c c', (s.hearAll q before).world.query? q = some c ∧
        (s.hearAll q (before ++ [(d, .added provider room)])).world.query? q = some c' ∧
        ∀ {address old}, c.results.find? address = some old →
          ∃ new, c'.results.find? address = some new ∧ new.presence = old.presence := by
  -- either way the results are those of the announcements, one after the other
  obtain ⟨-, a, ha, -, hresults⟩ := hs.hearAll hrest hq hactive events
  obtain ⟨-, b, hb, -, hresults'⟩ := hs.hearAll hrest hq hactive events'
  have hinterleaved := h.interleaved h' hidentified hsteady hsteady'
  refine ⟨a, b, ha, hb, ?_, ?_, ?_⟩
  · rw [hresults, hresults', hinterleaved.hearAll_eq hsorted]
  · intro address provider room hlast haccepts
    rw [hresults]
    exact h.find?_of_listed hidentified hlast haccepts query.results
  · intro before d provider room
    obtain ⟨hlistens, c, hc, halike, -⟩ := hs.hearAll hrest hq hactive before
    have hactive' : c.status ≠ .canceled := by rwa [halike.status]
    obtain ⟨c', hc', hkept⟩ :=
      hlistens.presence_kept (calls_hearAll hrest before) hc hactive' d provider room
    refine ⟨c, c', hc, ?_, hkept⟩
    rw [hearAll, List.foldl_append]
    exact hc'

/-! ### A room that is joined and listed -/

/-- A room that the user has joined, and then the list of its provider. -/
def joinedFirst : List (Directory × RoomEvent) :=
  [(twoRooms, .presence ⟨⟨"p"⟩, "c", "c", .joined⟩), (twoRooms, .added ⟨"p"⟩ ⟨"c", "c", true⟩)]

/-- The list first, and then the presence. -/
def listedFirst : List (Directory × RoomEvent) := joinedFirst.reverse

theorem listens_searched : searched.Listens ⟨0⟩ where
  sound := sound_of_reachable reachable_searched
  passive := (ordered_of_reachable reachable_searched).undisturbed.passive
  unhooked := rfl
  held := ⟨("q", ⟨0⟩), List.mem_singleton.mpr rfl, rfl⟩

/-- Either way the room is found with the flag that it is listed with, and the user is there. -/
theorem interleavings_converge_searched : ∃ a b,
    (searched.hearAll ⟨0⟩ joinedFirst).world.query? ⟨0⟩ = some a ∧
      (searched.hearAll ⟨0⟩ listedFirst).world.query? ⟨0⟩ = some b ∧ a.results = b.results ∧
      a.results.find? "c" = some ⟨"c", "c", ⟨"p"⟩, .online, true⟩ := by
  obtain ⟨query, hq, hactive, hsorted, haccepts⟩ : ∃ query,
      searched.world.query? ⟨0⟩ = some query ∧ query.status ≠ .canceled ∧
        query.results.Sorted ∧ query.accepts "c" "c" = true :=
    ⟨_, rfl, nofun, (orderly_of_reachable reachable_searched).tidy (q := ⟨0⟩) rfl, rfl⟩
  have hidentified : ∀ {address a b},
      Mentions [⟨⟨"p"⟩, "c", "c", .joined⟩] [(⟨"p"⟩, ⟨"c", "c", true⟩)] address a →
      Mentions [⟨⟨"p"⟩, "c", "c", .joined⟩] [(⟨"p"⟩, ⟨"c", "c", true⟩)] address b → a = b := by
    simp only [Mentions, List.mem_singleton, exists_eq_left]
    rintro address a b (⟨-, rfl⟩ | ⟨-, rfl⟩) (⟨-, rfl⟩ | ⟨-, rfl⟩) <;> rfl
  have hsteady : ∀ events ⊆ joinedFirst, Steady searched.world.directory
      [(⟨"p"⟩, ⟨"c", "c", true⟩)] events := by
    intro events hsub x hx provider name _
    have hd : ∀ y ∈ joinedFirst, y.1 = searched.world.directory := by decide +kernel
    rw [hd x (hsub hx)]
  have hjoined : Interleaves [⟨⟨"p"⟩, "c", "c", .joined⟩] [(⟨"p"⟩, ⟨"c", "c", true⟩)]
      joinedFirst := ⟨rfl, rfl⟩
  have hlisted : Interleaves [⟨⟨"p"⟩, "c", "c", .joined⟩] [(⟨"p"⟩, ⟨"c", "c", true⟩)]
      listedFirst := ⟨rfl, rfl⟩
  obtain ⟨a, b, ha, hb, hsame, hfound, -⟩ := interleavings_converge listens_searched rfl hq
    hactive hsorted hidentified hjoined hlisted (hsteady _ (List.Subset.refl _))
    (hsteady _ (List.reverse_subset.mpr (List.Subset.refl _)))
  refine ⟨a, b, ha, hb, hsame, ?_⟩
  exact hfound "c" ⟨"p"⟩ ⟨"c", "c", true⟩ rfl haccepts

end Session

end RoomSearch
