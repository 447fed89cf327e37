import RoomSearch.Proofs.Convergence.KeepingUp
import RoomSearch.Proofs.Results

/-!
# Offers of rooms, and what becomes of them

Several providers may list a room of the same name, and a query has one entry for all of them.  So
an offer, a room as one provider lists it, is found if there is an entry under its name, whoever the
entry says the provider is.  What a query has found it keeps, with two exceptions: it hears that a
room of the name is gone, or that the provider is gone which the entry names.  What is new in the
directory is found once the query has heard of it; until then some task is going to find it.

## Main definitions

* `Offer`, `Directory.Offers` — a room as a provider lists it.
* `Notice.evicts` — who hears of it loses an entry.
* `Task.Seeks` — a task is going to find an offer for a query.
* `World.Retains` — what a query has found is kept, but for what is lost.
* `World.Heralds` — a move after which new offers are going to be found.

## Main results

* `World.Advances.retains` — tasks keep what has been found, but for what is evicted.
* `World.find?_follow_of_isRemoval` — and a query that hears of a removal loses just that.
* `World.reaches_advance` — what a task is going to find is found, or its tasks are going to.
* `World.heralds_acts` — what actions bring is going to be found.
-/

namespace RoomSearch

/-- A room as a provider lists it, whatever its settings are. -/
structure Offer where
  /-- The provider. -/
  provider : ProviderId
  /-- The name of the room. -/
  name : String
  /-- The identifier of the room. -/
  identifier : String
deriving DecidableEq, Repr

/-- The room is the one that is offered. -/
def Offer.Describes (o : Offer) (room : Room) : Prop :=
  room.name = o.name ∧ room.identifier = o.identifier

instance (o : Offer) (room : Room) : Decidable (o.Describes room) :=
  inferInstanceAs (Decidable (_ ∧ _))

/-- The provider lists the room. -/
def Directory.Offers (d : Directory) (o : Offer) : Prop :=
  ∃ room ∈ d.rooms o.provider, o.Describes room

instance (d : Directory) (o : Offer) : Decidable (d.Offers o) :=
  inferInstanceAs (Decidable (∃ room ∈ d.rooms o.provider, o.Describes room))

namespace Directory

variable {d : Directory} {o : Offer} {p : ProviderId}

/-- What is offered after the rooms of one provider have been replaced. -/
theorem Offers.of_setRooms {rooms : List Room} (h : (d.setRooms p rooms).Offers o) :
    d.Offers o ∨ o.provider = p ∧ ∃ room ∈ rooms, o.Describes room := by
  obtain ⟨room, hroom, hdescribes⟩ := h
  rcases (mem_rooms_setRooms ..).mp hroom with ⟨hp, hnew⟩ | ⟨-, hold⟩
  · exact .inr ⟨hp, room, hnew, hdescribes⟩
  · exact .inl ⟨room, hold, hdescribes⟩

/-- Where the new list describes nothing but what the old one did, nothing new is offered. -/
theorem Offers.of_setRooms_of_old {rooms : List Room} (h : (d.setRooms p rooms).Offers o)
    (hold : ∀ room ∈ rooms, o.Describes room → ∃ old ∈ d.rooms p, o.Describes old) :
    d.Offers o := by
  rcases h.of_setRooms with hoffers | ⟨rfl, room, hroom, hdescribes⟩
  · exact hoffers
  · exact hold room hroom hdescribes

theorem Offers.of_addRoom {room : Room} (h : (d.addRoom p room).Offers o) :
    d.Offers o ∨ o.Describes room := by
  obtain ⟨r, hr, hdescribes⟩ := h
  rcases (mem_rooms_addRoom ..).mp hr with hold | ⟨-, rfl⟩
  · exact .inl ⟨r, hold, hdescribes⟩
  · exact .inr hdescribes

theorem Offers.of_removeRoom {name : String} (h : (d.removeRoom p name).Offers o) : d.Offers o :=
  h.of_setRooms_of_old fun room hroom hdescribes =>
    ⟨room, List.mem_of_mem_eraseP hroom, hdescribes⟩

/-- Setting a flag leaves names and identifiers. -/
theorem exists_describes_of_mem_flagged {name : String} {autoJoin : Bool} {rooms : List Room}
    {room : Room} (hroom : room ∈ flagged name autoJoin rooms) (h : o.Describes room) :
    ∃ old ∈ rooms, o.Describes old := by
  induction rooms with
  | nil => cases hroom
  | cons r rest ih =>
    rw [flagged] at hroom
    split at hroom
    · rcases List.mem_cons.mp hroom with rfl | hrest
      · exact ⟨r, List.mem_cons_self, h⟩
      · exact ⟨room, List.mem_cons_of_mem _ hrest, h⟩
    · rcases List.mem_cons.mp hroom with rfl | hrest
      · exact ⟨room, List.mem_cons_self, h⟩
      · obtain ⟨old, hold, hdescribes⟩ := ih hrest
        exact ⟨old, List.mem_cons_of_mem _ hold, hdescribes⟩

theorem Offers.of_setAutoJoin {name : String} {autoJoin : Bool}
    (h : (d.setAutoJoin p name autoJoin).Offers o) : d.Offers o :=
  h.of_setRooms_of_old fun _ hroom hdescribes => exists_describes_of_mem_flagged hroom hdescribes

theorem Offers.of_removeProvider (h : (d.removeProvider p).Offers o) : d.Offers o := by
  obtain ⟨room, hroom, hdescribes⟩ := h
  exact ⟨room, ((mem_rooms_removeProvider ..).mp hroom).1, hdescribes⟩

end Directory

/-- Whether something is announced to be gone. -/
def Notice.isRemoval : Notice → Bool
  | .rooms notice => notice.change == .removed
  | .providers notice => notice.change == .removed
  | _ => false

/-- Whether a query that hears of it loses an entry: the room at its address is gone, whoever listed
it, or the provider that the entry names is. -/
def Notice.evicts (e : Entry) : Notice → Bool
  | .rooms ⟨_, room, .removed⟩ => room.name == e.address
  | .providers ⟨p, .removed⟩ => e.provider == p
  | _ => false

/-- Whether a query loses an entry when the task goes on. -/
def Task.evicts (q : QueryId) (e : Entry) : Task → Bool
  | .deliver notice (.query p :: _) => p == q && notice.evicts e
  | _ => false

/-- Such a task tells the query of something that evicts the entry. -/
theorem Task.exists_of_evicts {q : QueryId} {e : Entry} {t : Task} (h : t.evicts q e = true) :
    ∃ notice rest, t = .deliver notice (.query q :: rest) ∧ notice.evicts e = true := by
  unfold Task.evicts at h
  split at h
  · next notice p rest =>
    obtain ⟨hp, hevicts⟩ := Bool.and_eq_true_iff.mp h
    exact ⟨notice, rest, by rw [beq_iff_eq.mp hp], hevicts⟩
  · cases h

/-- A query that hears of it finds the room that is offered, or searches the provider. -/
def Notice.Brings (o : Offer) : Notice → Prop
  | .rooms notice => notice.change = .added ∧ o.Describes notice.room
  | .providers notice => notice = ⟨o.provider, .added⟩
  | _ => False

/-- A task is going to find an offer for a query that is in this epoch.  Rooms that were read in an
epoch of the past are read again. -/
def Task.Seeks (q : QueryId) (epoch : Nat) (o : Offer) : Task → Prop
  | .deliver notice rest => notice.Brings o ∧ .query q ∈ rest
  | .scan owner p => owner = q ∧ p = o.provider
  | .merge owner p read rooms =>
    owner = q ∧ p = o.provider ∧ (read < epoch ∨ ∃ room ∈ rooms, o.Describes room)
  | .search owner rest => owner = q ∧ o.provider ∈ rest
  | _ => False

/-- Later it is found all the same. -/
theorem Task.Seeks.mono {q : QueryId} {epoch epoch' : Nat} {o : Offer} {t : Task}
    (h : t.Seeks q epoch o) (hle : epoch ≤ epoch') : t.Seeks q epoch' o := by
  cases t with
  | merge owner p read rooms =>
    obtain ⟨howner, hp, hread⟩ := h
    exact ⟨howner, hp, hread.imp_left fun hlt => Nat.lt_of_lt_of_le hlt hle⟩
  | _ => exact h

/-! ### Addresses after a rule of change -/

namespace ResultSet

variable {s : ResultSet}

theorem contains_of_find? {address : String} {e : Entry} (h : s.find? address = some e) :
    s.contains address = true := by
  rw [contains, h, Option.isSome_some]

theorem contains_mergeRoom (s : ResultSet) (p : ProviderId) (room : Room) (address : String) :
    (s.mergeRoom p room).2.contains address = true ↔
      room.name = address ∨ s.contains address = true := by
  rw [contains, find?_mergeRoom_eq]
  split
  · next hname => exact iff_of_true rfl (.inl hname)
  · next hname => exact (or_iff_right hname).symm

theorem contains_mergeRooms (s : ResultSet) (p : ProviderId) (rooms : List Room)
    (address : String) : (s.mergeRooms p rooms).2.contains address = true ↔
      (∃ room ∈ rooms, room.name = address) ∨ s.contains address = true := by
  induction rooms generalizing s with
  | nil => exact (or_iff_right nofun).symm
  | cons room rest ih =>
    rw [mergeRooms]
    refine (ih _).trans ?_
    rw [contains_mergeRoom, List.exists_mem_cons_iff, ← or_assoc,
      or_comm (a := ∃ r ∈ rest, r.name = address)]

theorem contains_setAutoJoin (s : ResultSet) (name : String) (autoJoin : Bool)
    (address : String) : (s.setAutoJoin name autoJoin).2.contains address = s.contains address := by
  rw [contains, find?_setAutoJoin, contains]
  split
  · exact Option.isSome_map
  · rfl

theorem contains_setPresence? {name : String} {presence : Presence}
    {outcome : List News × ResultSet} (h : s.setPresence? name presence = some outcome)
    (address : String) (hs : s.contains address = true) : outcome.2.contains address = true := by
  cases hfound : s.find? name with
  | none =>
    rw [setPresence?_of_none hfound] at h
    cases h
  | some old =>
    obtain ⟨outcome', houtcome, hfind⟩ := exists_setPresence? hfound presence
    cases Option.some.inj (houtcome.symm.trans h)
    rw [contains, hfind]
    split
    · rfl
    · exact hs

theorem contains_mergeJoined (s : ResultSet) (notice : PresenceNotice) (autoJoin : Bool)
    (address : String) (hs : s.contains address = true) :
    (s.mergeJoined notice autoJoin).2.contains address = true := by
  cases hfound : s.find? notice.room with
  | none =>
    rw [contains, find?_mergeJoined_of_none hfound]
    split
    · rfl
    · exact hs
  | some old =>
    obtain ⟨outcome, houtcome, -⟩ := exists_setPresence? hfound .online
    rw [mergeJoined, houtcome]
    exact contains_setPresence? houtcome address hs

/-- What becomes of results when something is announced to be gone. -/
theorem find?_filter_evicts_rooms (s : ResultSet) (p : ProviderId) (room : Room)
    (address : String) : (s.dropRoom room.name).2.find? address =
      (s.find? address).filter fun e => !(Notice.rooms ⟨p, room, .removed⟩).evicts e := by
  rw [find?_dropRoom]
  cases hfound : s.find? address with
  | none => exact ite_self none
  | some e =>
    rw [Option.filter_some, Notice.evicts, address_of_find? hfound]
    by_cases hname : address = room.name
    · rw [if_pos hname, hname, beq_self_eq_true]
      rfl
    · rw [if_neg hname, beq_eq_false_iff_ne.mpr (Ne.symm hname)]
      rfl

theorem find?_filter_evicts_providers (h : s.Sorted) (p : ProviderId) (address : String) :
    (s.dropProvider p).2.find? address =
      (s.find? address).filter fun e => !(Notice.providers ⟨p, .removed⟩).evicts e :=
  find?_dropProvider h p address

end ResultSet

/-! ### What has been found is kept -/

/-- From one state of a query to another, what it has found is kept, but for entries that are
lost. -/
structure Query.Retains (lost : Entry → Prop) (a b : Query) : Prop where
  matcher : b.matcher = a.matcher
  started : b.started = a.started
  epoch : a.epoch ≤ b.epoch
  found : ∀ {address e}, a.results.find? address = some e →
    b.results.contains address = true ∨ lost e

namespace World

/-- The directory is the same, and what a query has found is kept, but for entries that are lost. -/
structure Retains (q : QueryId) (lost : Entry → Prop) (w w' : World) : Prop where
  directory : w'.directory = w.directory
  query : ∀ {query}, w.query? q = some query →
    ∃ query', w'.query? q = some query' ∧ query.Retains lost query'

variable {w w' : World} {q p : QueryId} {query query' : Query} {m : Move} {lost : Entry → Prop}

/-- A query in its course keeps what it has found. -/
theorem SameCourse.retains (h : SameCourse q w w') : Retains q lost w w' where
  directory := h.directory
  query hq := by
    obtain ⟨query', hq', hsame⟩ := h.query hq
    refine ⟨query', hq', hsame.matcher, hsame.started, Nat.le_of_eq hsame.epoch.symm, ?_⟩
    intro address e he
    rw [hsame.results]
    exact .inl (ResultSet.contains_of_find? he)

/-- After a query has become another one. -/
theorem Retains.of_query? (hdirectory : w'.directory = w.directory)
    (hq : w.query? q = some query) (hq' : w'.query? q = some query')
    (h : query.Retains lost query') : Retains q lost w w' where
  directory := hdirectory
  query hquery := by
    cases Option.some.inj (hq.symm.trans hquery)
    exact ⟨query', hq', h⟩

/-- The query that remains after a change of results. -/
theorem query?_change (hq : w.query? q = some query) (outcome : List News × ResultSet) :
    (w.change q outcome).world.query? q = some { query with results := outcome.2 } := by
  rw [change, world_commit, query?_modifyQuery_self _ hq]

theorem directory_change (w : World) (q : QueryId) (outcome : List News × ResultSet) :
    (w.change q outcome).world.directory = w.directory := by
  rw [change, world_commit]
  rfl

/-- Results change. -/
theorem retains_change (hq : w.query? q = some query) {outcome : List News × ResultSet}
    (hfound : ∀ {address e}, query.results.find? address = some e →
      outcome.2.contains address = true ∨ lost e) :
    Retains q lost w (w.change q outcome).world :=
  .of_query? (directory_change ..) hq (query?_change hq outcome)
    ⟨rfl, rfl, Nat.le_refl _, hfound⟩

/-- Results change in an epoch that has just begun. -/
theorem retains_change_advanceEpoch (hq : w.query? q = some query)
    {outcome : List News × ResultSet}
    (hfound : ∀ {address e}, query.results.find? address = some e →
      outcome.2.contains address = true ∨ lost e) :
    Retains q lost w ((w.modifyQuery q Query.advanceEpoch).change q outcome).world :=
  .of_query? (directory_change ..) hq (query?_change (query?_modifyQuery_self _ hq) outcome)
    ⟨rfl, rfl, Nat.le_succ _, hfound⟩

/-- What survives a filter is still there. -/
theorem contains_or_of_filter {s s' : ResultSet} {address : String} {e : Entry} {out : Entry → Bool}
    (hfind : s'.find? address = (s.find? address).filter fun e => !out e)
    (he : s.find? address = some e) : s'.contains address = true ∨ out e = true := by
  cases hout : out e with
  | true => exact .inr rfl
  | false =>
    rw [he, Option.filter_some, hout, Bool.not_false, if_pos rfl] at hfind
    exact .inl (ResultSet.contains_of_find? hfind)

/-- **A query that hears of something** keeps what it has found, but for what is evicted. -/
theorem Follows.retains {notice : Notice} (hfollows : w.Follows q query notice m)
    (h : w.Accounts) (hq : w.query? q = some query) (hsorted : query.results.Sorted) :
    Retains q (notice.evicts · = true) w m.world := by
  cases hfollows with
  | still | joined => exact (SameCourse.refl q w).retains
  | presence houtcome =>
    exact retains_change hq fun {address _} he =>
      .inl (ResultSet.contains_setPresence? houtcome address (ResultSet.contains_of_find? he))
  | rooms notice =>
    obtain ⟨p, room, change⟩ := notice
    refine retains_change_advanceEpoch hq fun {address e} he => ?_
    cases change with
    | added =>
      exact .inl ((ResultSet.contains_mergeRoom ..).mpr (.inr (ResultSet.contains_of_find? he)))
    | removed => exact contains_or_of_filter (ResultSet.find?_filter_evicts_rooms _ p room _) he
    | changed =>
      refine .inl ?_
      rw [ResultSet.revise, ResultSet.contains_setAutoJoin]
      exact ResultSet.contains_of_find? he
  | entered p =>
    exact .of_query? rfl hq (query?_modifyQuery_self _ hq) ⟨rfl, rfl, Nat.le_succ _, fun he =>
      .inl (ResultSet.contains_of_find? he)⟩
  | gone p =>
    exact retains_change_advanceEpoch hq fun he =>
      contains_or_of_filter (ResultSet.find?_filter_evicts_providers hsorted p _) he
  | registration notice => exact (bystands_followRegistry h hq notice).course.retains

/-- **A query that hears of a removal** loses just what is evicted. -/
theorem find?_follow_of_isRemoval {notice : Notice} (hremoval : notice.isRemoval = true)
    (hq : w.query? q = some query) (halive : query.alive = true)
    (hactive : query.status ≠ .canceled) (hsorted : query.results.Sorted) :
    ∃ query', (w.follow q notice).world.query? q = some query' ∧
      ∀ address, query'.results.find? address =
        (query.results.find? address).filter fun e => !notice.evicts e := by
  have hcanceled := isCanceled_eq_false hactive
  have hnext : (w.modifyQuery q Query.advanceEpoch).query? q = some query.advanceEpoch :=
    query?_modifyQuery_self _ hq
  rw [follow, hq]
  dsimp only
  rw [halive, Bool.not_true, if_neg Bool.false_ne_true]
  cases notice with
  | rooms notice =>
    obtain ⟨p, room, change⟩ := notice
    cases beq_iff_eq.mp hremoval
    show ∃ query', (w.followRooms q query _).world.query? q = some query' ∧ _
    unfold followRooms
    dsimp only
    rw [if_neg fun hadded => RoomChange.noConfusion hadded.1, hcanceled,
      if_neg Bool.false_ne_true]
    exact ⟨_, query?_change hnext _, ResultSet.find?_filter_evicts_rooms query.results p room⟩
  | providers notice =>
    obtain ⟨p, change⟩ := notice
    cases beq_iff_eq.mp hremoval
    show ∃ query', (w.followProviders q query _).world.query? q = some query' ∧ _
    unfold followProviders
    dsimp only
    rw [hcanceled, if_neg Bool.false_ne_true]
    exact ⟨_, query?_change hnext _, ResultSet.find?_filter_evicts_providers hsorted p⟩
  | presence | registration => cases hremoval

/-- **A task keeps what has been found**, but for what is evicted. -/
theorem Advances.retains {t : Task} (hadvances : w.Advances t m) (h : w.Accounts)
    (hq : w.query? q = some query) (hsorted : query.results.Sorted) :
    Retains q (t.evicts q · = true) w m.world := by
  cases hadvances with
  | spent | dropped | tap | scan | rescan | search | hear => exact (SameCourse.refl q w).retains
  | withdraw s =>
    -- the query stays in its course
    have hcourse : SameCourse q w
        { w with registry := w.registry.filter fun other => other != s } := .of_queries_eq rfl rfl
    exact hcourse.retains
  | publish p audience d rest b =>
    have hcourse : SameCourse q w (w.publish b ⟨.query p, d.news⟩) := .of_queries_eq rfl rfl
    exact hcourse.retains
  | tell notice p rest =>
    by_cases hpq : p = q
    · subst hpq
      have hlost : ∀ e, (Task.deliver notice (.query p :: rest)).evicts p e = notice.evicts e := by
        intro e
        rw [Task.evicts, beq_self_eq_true, Bool.true_and]
      rcases follow_spec w p notice with hstill | ⟨query', hq', hfollows⟩
      · rw [hstill]
        exact (SameCourse.refl p w).retains
      · cases Option.some.inj (hq.symm.trans hq')
        simp only [hlost]
        exact hfollows.retains h hq hsorted
    · exact (bystands_follow h hpq notice).course.retains
  | @mergeJoined p _ hp notice autoJoin =>
    by_cases hpq : p = q
    · subst hpq
      cases Option.some.inj (hp.symm.trans hq)
      -- merging takes no entry out
      exact retains_change hq fun he =>
        .inl (ResultSet.contains_mergeJoined _ notice autoJoin _ (ResultSet.contains_of_find? he))
    · exact (bystands_change (.refl q w) hpq _).course.retains
  | @merge p _ hp provider rooms matching =>
    by_cases hpq : p = q
    · subst hpq
      cases Option.some.inj (hp.symm.trans hq)
      exact retains_change hq fun he =>
        .inl ((ResultSet.contains_mergeRooms ..).mpr (.inr (ResultSet.contains_of_find? he)))
    · exact (bystands_change (.refl q w) hpq _).course.retains
  | complete => exact (bystands_moveTo (.refl q w) _ _).course.retains
  | cancelEach p rest => exact (bystands_cancel h p).course.retains

end World

/-! ### What is going to be found -/

/-- After a move a query has found the offer, or tasks of the move are going to find it. -/
def Move.Reaches (m : Move) (q : QueryId) (o : Offer) : Prop :=
  ∃ query, m.world.query? q = some query ∧
    (query.results.contains o.name = true ∨ ∃ t ∈ m.tasks, t.Seeks q query.epoch o)

theorem Move.Reaches.andThen {m : Move} {q : QueryId} {o : Offer} (h : m.Reaches q o)
    (tasks : List Task) : (m.andThen tasks).Reaches q o := by
  obtain ⟨query, hq, hreached⟩ := h
  refine ⟨query, hq, hreached.imp_right ?_⟩
  rintro ⟨t, ht, hseeks⟩
  exact ⟨t, List.mem_append_left _ ht, hseeks⟩

namespace World

variable {w w' : World} {q p : QueryId} {query : Query} {m : Move} {o : Offer}

/-- The offer is among those that match. -/
theorem accepts_of_describes {room : Room} (hroom : o.Describes room)
    (haccepts : query.accepts o.name o.identifier = true) :
    query.accepts room.name room.identifier = true := by
  rw [hroom.1, hroom.2]
  exact haccepts

/-- A task remains that is going to find the offer. -/
theorem reaches_task (hq : w.query? q = some query) {tasks : List Task}
    {callback : Option Callback} {notes : List Note} {t : Task} (ht : t ∈ tasks)
    (hseeks : t.Seeks q query.epoch o) : Move.Reaches ⟨w, tasks, callback, notes⟩ q o :=
  ⟨query, hq, .inr ⟨t, ht, hseeks⟩⟩

/-- Results change, and the offer is among them. -/
theorem reaches_change (hq : w.query? q = some query) {outcome : List News × ResultSet}
    (hcontains : outcome.2.contains o.name = true) : (w.change q outcome).Reaches q o :=
  ⟨_, query?_change hq outcome, .inl hcontains⟩

/-- **A query hears of what brings the offer.** -/
theorem reaches_follow {notice : Notice} (hbrings : notice.Brings o)
    (hq : w.query? q = some query) (halive : query.alive = true)
    (hactive : query.status ≠ .canceled)
    (haccepts : query.accepts o.name o.identifier = true) : (w.follow q notice).Reaches q o := by
  have hcanceled := isCanceled_eq_false hactive
  have hnext : (w.modifyQuery q Query.advanceEpoch).query? q = some query.advanceEpoch :=
    query?_modifyQuery_self _ hq
  rw [follow, hq]
  dsimp only
  rw [halive, Bool.not_true, if_neg Bool.false_ne_true]
  cases notice with
  | rooms notice =>
    obtain ⟨provider, room, change⟩ := notice
    obtain ⟨hadded, hroom⟩ := hbrings
    cases hadded
    show (w.followRooms q query _).Reaches q o
    unfold followRooms
    dsimp only
    rw [accepts_of_describes hroom haccepts, if_neg fun hpassed => Bool.false_ne_true hpassed.2,
      hcanceled, if_neg Bool.false_ne_true]
    exact reaches_change hnext ((ResultSet.contains_mergeRoom ..).mpr (.inl hroom.1))
  | providers notice =>
    cases hbrings
    exact reaches_task hnext List.mem_cons_self ⟨rfl, rfl⟩
  | presence | registration => cases hbrings

/-- An announcement that brings the offer goes to the next watcher. -/
theorem reaches_advanceDelivery {notice : Notice} {rest : List Watcher}
    (hseeks : (Task.deliver notice rest).Seeks q query.epoch o) (h : w.Accounts)
    (hq : w.query? q = some query) (halive : query.alive = true)
    (hactive : query.status ≠ .canceled)
    (haccepts : query.accepts o.name o.identifier = true) :
    (w.advanceDelivery notice rest).Reaches q o := by
  obtain ⟨hbrings, hmem⟩ := hseeks
  cases rest with
  | nil => cases hmem
  | cons v rest =>
    -- the query itself is told now, or later
    by_cases hv : v = .query q
    · subst hv
      exact (reaches_follow hbrings hq halive hactive haccepts).andThen _
    · have hlater : .query q ∈ rest := (List.mem_cons.mp hmem).resolve_left (Ne.symm hv)
      cases v with
      | tap t => exact reaches_task hq List.mem_cons_self ⟨hbrings, hlater⟩
      | query p =>
        have hpq : p ≠ q := fun heq => hv (congrArg Watcher.query heq)
        obtain ⟨query', hq', hsame⟩ := (bystands_follow h hpq notice).course.query hq
        exact ⟨query', hq', .inr ⟨_, List.mem_append_right _ List.mem_cons_self, hbrings, hlater⟩⟩

/-- **What a task is going to find** is found when it goes on, or is going to be found by its
tasks. -/
theorem reaches_advance {t : Task} (hseeks : t.Seeks q query.epoch o) (h : w.Accounts)
    (hq : w.query? q = some query) (halive : query.alive = true)
    (hactive : query.status ≠ .canceled) (haccepts : query.accepts o.name o.identifier = true)
    (hoffers : w.directory.Offers o) : (w.advance t).Reaches q o := by
  have hcanceled := isCanceled_eq_false hactive
  cases t with
  | deliver notice rest => exact reaches_advanceDelivery hseeks h hq halive hactive haccepts
  | scan owner provider =>
    obtain ⟨rfl, rfl⟩ := hseeks
    show (w.advanceScan _ _).Reaches _ o
    rw [advanceScan, hq]
    dsimp only
    rw [hcanceled, if_neg Bool.false_ne_true]
    -- the rooms are about to be read, and the room is among them
    exact reaches_task hq List.mem_cons_self ⟨rfl, rfl, .inr hoffers⟩
  | merge owner provider read rooms =>
    obtain ⟨rfl, rfl, hread⟩ := hseeks
    show (w.advanceMerge _ _ _ _).Reaches _ o
    rw [advanceMerge, hq]
    dsimp only
    rw [hcanceled, if_neg Bool.false_ne_true]
    split
    · -- something has happened since the rooms were read, so they are read again
      exact reaches_task hq List.mem_cons_self ⟨rfl, rfl⟩
    · next hepoch =>
      -- read in this epoch, so the room is among those that were read
      have heq : query.epoch = read := not_not.mp hepoch
      obtain ⟨room, hroom, hdescribes⟩ := hread.resolve_left fun hlt => Nat.ne_of_gt hlt heq
      refine reaches_change hq ((ResultSet.contains_mergeRooms ..).mpr (.inl ⟨room, ?_, ?_⟩))
      · exact List.mem_filter.mpr ⟨hroom, accepts_of_describes hdescribes haccepts⟩
      · exact hdescribes.1
  | search owner rest =>
    obtain ⟨rfl, hmem⟩ := hseeks
    cases rest with
    | nil => cases hmem
    | cons provider rest =>
      show (w.advanceSearch _ _).Reaches _ o
      rw [advanceSearch, hq]
      dsimp only
      rw [hcanceled, if_neg Bool.false_ne_true]
      -- the provider comes next, or later
      rcases List.mem_cons.mp hmem with hp | hmem
      · exact reaches_task hq List.mem_cons_self ⟨rfl, hp.symm⟩
      · exact reaches_task hq (List.mem_cons_of_mem _ List.mem_cons_self) ⟨rfl, hmem⟩
  | withdraw | mergeJoined | notify | cancelEach => cases hseeks

/-! ### What actions bring -/

/-- What a query has found is the same after a move, and what is offered afterwards was offered
before, while the search had begun, or tasks of the move are going to find it. -/
structure Heralds (w : World) (q : QueryId) (m : Move) : Prop where
  query : ∀ {query}, w.query? q = some query → ∃ query', m.world.query? q = some query' ∧
    query'.matcher = query.matcher ∧ query'.results = query.results ∧
    query'.epoch = query.epoch ∧ ∀ {o}, query'.started = true → m.world.directory.Offers o →
      query.started = true ∧ w.directory.Offers o ∨ ∃ t ∈ m.tasks, t.Seeks q query.epoch o

/-- A move after which the query is in its course. -/
theorem SameCourse.heralds (h : SameCourse q w m.world) : w.Heralds q m where
  query hq := by
    obtain ⟨query', hq', hsame⟩ := h.query hq
    refine ⟨query', hq', hsame.matcher, hsame.results, hsame.epoch, fun hstarted hoffers => ?_⟩
    rw [hsame.started] at hstarted
    rw [h.directory] at hoffers
    exact .inl ⟨hstarted, hoffers⟩

/-- The search begins with all providers. -/
theorem heralds_run (hq : w.query? q = some query) (hactive : query.status ≠ .canceled) :
    w.Heralds q (w.run q).1 := by
  rw [run, hq]
  dsimp only
  split
  · exact (SameCourse.refl q w).heralds
  · rw [isCanceled_eq_false hactive, if_neg Bool.false_ne_true]
    refine ⟨fun hquery => ?_⟩
    cases Option.some.inj (hq.symm.trans hquery)
    refine ⟨_, query?_modifyQuery_self _ hq, rfl, rfl, rfl, fun {o} _ hoffers => .inr ?_⟩
    obtain ⟨room, hroom, -⟩ := hoffers
    exact ⟨_, List.mem_cons_self, rfl, Directory.mem_providers_of_mem_rooms hroom⟩

/-- The directory changes, and this is announced to the query. -/
theorem heralds_announce {d : Directory} {x : Source} {notice : Notice}
    (hmem : .query q ∈ w.audience x)
    (hbrings : ∀ {o}, d.Offers o → w.directory.Offers o ∨ notice.Brings o) :
    w.Heralds q (World.announce { w with directory := d } x notice) where
  query hq := by
    refine ⟨_, hq, rfl, rfl, rfl, fun hstarted hoffers => ?_⟩
    refine (hbrings hoffers).imp (fun hold => ⟨hstarted, hold⟩) fun hnew => ?_
    exact ⟨_, List.mem_cons_self, hnew, hmem⟩

/-- **What actions bring** is going to be found. -/
theorem heralds_acts {named : String → Option QueryId} {a : Action} (hacts : Acts w named a m)
    (h : w.Accounts) (hattends : w.Attends q)
    (hnamed : ∀ {name p}, named name = some p →
      ∃ query, w.query? p = some query ∧ query.alive = true) : w.Heralds q m := by
  have hheard : ∀ x ∈ [Source.rooms, .providers, .registrations], .query q ∈ w.audience x :=
    fun x hx => List.count_pos_iff.mp (by
      have hone : (w.audience x).count (.query q) = 1 := hattends.listeners h hx
      omega)
  obtain ⟨query, hq, -, hactive⟩ := hattends
  rcases hacts.bystands h hq hnamed with hm | rfl | hspreads
  · exact hm.course.heralds
  · exact heralds_run hq hactive
  · cases hspreads with
    | addRoom p room =>
      exact heralds_announce (hheard .rooms (by simp)) fun hoffers =>
        hoffers.of_addRoom.imp_right fun hdescribes => ⟨rfl, hdescribes⟩
    | removeRoom p name =>
      exact heralds_announce (hheard .rooms (by simp)) fun hoffers => .inl hoffers.of_removeRoom
    | setAutoJoin p name autoJoin =>
      exact heralds_announce (hheard .rooms (by simp)) fun hoffers => .inl hoffers.of_setAutoJoin
    | addProvider p rooms =>
      exact heralds_announce (hheard .providers (by simp)) fun hoffers =>
        hoffers.of_setRooms.imp_right fun hnew => congrArg (ProviderNotice.mk · _) hnew.1.symm
    | removeProvider p =>
      exact heralds_announce (hheard .providers (by simp)) fun hoffers =>
        .inl hoffers.of_removeProvider
    | announceRoom | announceProvider => exact SameCourse.heralds (SameCourse.refl q w)
    | presence service => exact SameCourse.heralds (SameCourse.mention w service)

end World

end RoomSearch
