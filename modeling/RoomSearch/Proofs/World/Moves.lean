import RoomSearch.World.Calls

/-!
# What a move can be

The moves of queries and of tasks, one constructor for each kind.  The branches of the program are
looked at here once; what is to be known of all moves is then proved by cases on their kind.

## Main definitions

* `ResultSet.revise` — what becomes of results when a list of rooms has changed.
* `World.Follows` — how a query answers an announcement.
* `World.Advances` — how a task goes on.
* `World.Runs`, `World.Sets` — how a query answers a request to search, or to have a status.

## Main results

* `World.follow_spec`, `World.advances_advance`, `World.runs_run`, `World.sets_setStatus` — all
  moves are of these kinds.
-/

namespace RoomSearch

/-- What becomes of results when a list of rooms has changed. -/
def ResultSet.revise (s : ResultSet) (notice : RoomNotice) : List News × ResultSet :=
  match notice.change with
  | .added => s.mergeRoom notice.provider notice.room
  | .removed => s.dropRoom notice.room.name
  | .changed => s.setAutoJoin notice.room.name notice.room.autoJoin

/-- Whether nothing is left of a task. -/
def Task.isSpent : Task → Bool
  | .deliver _ rest => rest.isEmpty
  | .search _ rest => rest.isEmpty
  | .notify _ _ rest => rest.isEmpty
  | .cancelEach rest => rest.isEmpty
  | _ => false

/-- The query that a task finds results for. -/
def Task.searcher? : Task → Option QueryId
  | .mergeJoined q .. => some q
  | .scan q _ => some q
  | .merge q .. => some q
  | .search q _ => some q
  | _ => none

namespace World

/-- How a query answers an announcement. -/
inductive Follows (w : World) (q : QueryId) (query : Query) : Notice → Move → Prop where
  /-- It is not concerned. -/
  | still {notice : Notice} : Follows w q query notice (.still w)
  /-- A result has another presence. -/
  | presence {notice : PresenceNotice} {outcome : List News × ResultSet}
      (h : query.results.setPresence? notice.room notice.change.presence = some outcome) :
      Follows w q query (.presence notice) (w.change q outcome)
  /-- A room that has been joined is looked up. -/
  | joined (notice : PresenceNotice) (autoJoin : Bool) :
      Follows w q query (.presence notice)
        ⟨w, [.mergeJoined q notice autoJoin], some .read, [.consulted q]⟩
  /-- The results change with a list of rooms. -/
  | rooms (notice : RoomNotice) :
      Follows w q query (.rooms notice)
        ((w.modifyQuery q Query.advanceEpoch).change q (query.results.revise notice))
  /-- A new provider is scanned. -/
  | entered (p : ProviderId) :
      Follows w q query (.providers ⟨p, .added⟩)
        (.doing (w.modifyQuery q Query.advanceEpoch) [.scan q p])
  /-- The results of a provider that is gone are dropped. -/
  | gone (p : ProviderId) :
      Follows w q query (.providers ⟨p, .removed⟩)
        ((w.modifyQuery q Query.advanceEpoch).change q (query.results.dropProvider p))
  /-- The subscriptions change with the registry. -/
  | registration (notice : RegistrationNotice ServiceId) :
      Follows w q query (.registration notice) (w.followRegistry q query notice)

/-- How a task goes on. -/
inductive Advances (w : World) : Task → Move → Prop where
  /-- Nothing is left of it. -/
  | spent {t : Task} (h : t.isSpent = true) : Advances w t (.still w)
  /-- The query that it is for has been canceled. -/
  | dropped {t : Task} {q : QueryId} (hq : t.searcher? = some q)
      (h : ∀ query, w.query? q = some query → query.isCanceled = true) : Advances w t (.still w)
  /-- An announcement reaches a query. -/
  | tell (notice : Notice) (q : QueryId) (rest : List Watcher) :
      Advances w (.deliver notice (.query q :: rest))
        ((w.follow q notice).andThen [.deliver notice rest])
  /-- An announcement reaches an observer. -/
  | tap (notice : Notice) (t : TapId) (rest : List Watcher) :
      Advances w (.deliver notice (.tap t :: rest))
        ⟨w, [.deliver notice rest], some (.tap t notice), [.tapped t notice]⟩
  | withdraw (s : ServiceId) :
      Advances w (.withdraw s)
        (.still { w with registry := w.registry.filter fun other => other != s })
  /-- A joined room becomes a result. -/
  | mergeJoined {q : QueryId} {query : Query} (hq : w.query? q = some query)
      (notice : PresenceNotice) (autoJoin : Bool) :
      Advances w (.mergeJoined q notice autoJoin)
        (w.change q (query.results.mergeJoined notice autoJoin))
  /-- Rooms are read. -/
  | scan {q : QueryId} {query : Query} (hq : w.query? q = some query) (p : ProviderId) :
      Advances w (.scan q p)
        ⟨w, [.merge q p query.epoch (w.directory.rooms p)], some .read, [.consulted q]⟩
  /-- Rooms are read again. -/
  | rescan (q : QueryId) (p : ProviderId) (epoch : Nat) (rooms : List Room) :
      Advances w (.merge q p epoch rooms) (.doing w [.scan q p])
  /-- Rooms that have been read become results. -/
  | merge {q : QueryId} {query : Query} (hq : w.query? q = some query) (p : ProviderId)
      (rooms matching : List Room) :
      Advances w (.merge q p query.epoch rooms) (w.change q (query.results.mergeRooms p matching))
  /-- A search is complete. -/
  | complete {q : QueryId} {query : Query} (hq : w.query? q = some query)
      (hrunning : query.status = .running) : Advances w (.search q []) (w.moveTo q .completed)
  /-- A search goes on with a provider. -/
  | search (q : QueryId) (p : ProviderId) (rest : List ProviderId) :
      Advances w (.search q (p :: rest)) (.doing w [.scan q p, .search q rest])
  /-- News reach a bus. -/
  | publish (q : QueryId) (audience : List Subscriber) (d : Delivery) (rest : List Delivery)
      (b : BusId) (hb : d.subscriber = .bus b) :
      Advances w (.notify q audience (d :: rest))
        ⟨w.publish b ⟨.query q, d.news⟩, [.notify q audience rest], none, [.delivered q d]⟩
  /-- News reach a listener. -/
  | hear (q : QueryId) (audience : List Subscriber) (d : Delivery) (rest : List Delivery)
      (name : String) (hname : d.subscriber = .listener name) :
      Advances w (.notify q audience (d :: rest))
        ⟨w, [.notify q audience rest], some (.listener name ⟨.query q, d.news⟩), [.delivered q d]⟩
  | cancelEach (q : QueryId) (rest : List QueryId) :
      Advances w (.cancelEach (q :: rest)) ((w.cancel q).andThen [.cancelEach rest])

/-- How a query answers a request to search. -/
inductive Runs (w : World) (q : QueryId) : Move → Prop where
  /-- It has been asked before. -/
  | still : Runs w q (.still w)
  /-- It has been canceled. -/
  | late : Runs w q (.still (w.modifyQuery q fun query => { query with started := true }))
  /-- The search begins. -/
  | search :
      Runs w q ⟨w.modifyQuery q fun query => { query with started := true },
        [.search q w.directory.providers], none, [.consulted q]⟩

/-- How a query answers a request to have a status. -/
inductive Sets (w : World) (q : QueryId) : Move → Prop where
  | still : Sets w q (.still w)
  | canceled : Sets w q (w.cancel q)
  | completed {query : Query} (hq : w.query? q = some query) (hrunning : query.status = .running) :
      Sets w q (w.moveTo q .completed)

variable (w : World) (q : QueryId)

/-! ### Answers to announcements -/

theorem follows_followPresence (query : Query) (notice : PresenceNotice) :
    w.Follows q query (.presence notice) (w.followPresence q query notice) := by
  unfold followPresence
  split
  · exact .still
  · split
    · next outcome houtcome => exact .presence houtcome
    · split
      · exact .joined notice _
      · exact .still

theorem follows_followRooms (query : Query) (notice : RoomNotice) :
    w.Follows q query (.rooms notice) (w.followRooms q query notice) := by
  have hrevise : w.Follows q query (.rooms notice)
      ((w.modifyQuery q Query.advanceEpoch).change q (query.results.revise notice)) := .rooms notice
  unfold ResultSet.revise at hrevise
  unfold followRooms
  dsimp only
  split
  · exact .still
  · split
    · exact .still
    · split
      all_goals
        next hchange =>
          rw [hchange] at hrevise
          exact hrevise

theorem follows_followProviders (query : Query) (notice : ProviderNotice) :
    w.Follows q query (.providers notice) (w.followProviders q query notice) := by
  obtain ⟨p, change⟩ := notice
  unfold followProviders
  cases change with
  | added => exact .entered p
  | removed =>
    dsimp only
    split
    · exact .still
    · exact .gone p

/-- **A query answers an announcement** if it is referred to. -/
theorem follow_spec (notice : Notice) :
    w.follow q notice = .still w ∨ ∃ query, w.query? q = some query ∧
      w.Follows q query notice (w.follow q notice) := by
  unfold follow
  split
  · exact .inl rfl
  · next query hq =>
    split
    · exact .inl rfl
    · refine .inr ⟨query, hq, ?_⟩
      cases notice with
      | presence notice => exact follows_followPresence w q query notice
      | rooms notice => exact follows_followRooms w q query notice
      | providers notice => exact follows_followProviders w q query notice
      | registration notice => exact .registration notice

/-- Nothing but the world changes when a query follows the registry. -/
theorem followRegistry_eq_still (query : Query) (notice : RegistrationNotice ServiceId) :
    w.followRegistry q query notice = .still (w.followRegistry q query notice).world := by
  unfold followRegistry
  split
  · split <;> rfl
  · rfl

/-! ### Tasks -/

variable {w q}

theorem Advances.of_none {t : Task} (ht : t.searcher? = some q) (hq : w.query? q = none) :
    w.Advances t (.still w) := by
  refine .dropped ht ?_
  intro query hquery
  rw [hq] at hquery
  cases hquery

theorem Advances.of_canceled {t : Task} {query : Query} (ht : t.searcher? = some q)
    (hq : w.query? q = some query) (hcanceled : query.isCanceled = true) :
    w.Advances t (.still w) := by
  refine .dropped ht ?_
  intro other hother
  cases Option.some.inj (hq.symm.trans hother)
  exact hcanceled

variable (w q)

theorem advances_advanceDelivery (notice : Notice) (rest : List Watcher) :
    w.Advances (.deliver notice rest) (w.advanceDelivery notice rest) := by
  cases rest with
  | nil => exact .spent rfl
  | cons v rest =>
    cases v with
    | query q => exact .tell notice q rest
    | tap t => exact .tap notice t rest

theorem advances_advanceJoined (notice : PresenceNotice) (autoJoin : Bool) :
    w.Advances (.mergeJoined q notice autoJoin) (w.advanceJoined q notice autoJoin) := by
  unfold advanceJoined
  split
  · next hq => exact .of_none rfl hq
  · next query hq =>
    split
    · next hcanceled => exact .of_canceled rfl hq hcanceled
    · exact .mergeJoined hq notice autoJoin

theorem advances_advanceScan (p : ProviderId) :
    w.Advances (.scan q p) (w.advanceScan q p) := by
  unfold advanceScan
  split
  · next hq => exact .of_none rfl hq
  · next query hq =>
    split
    · next hcanceled => exact .of_canceled rfl hq hcanceled
    · exact .scan hq p

theorem advances_advanceMerge (p : ProviderId) (epoch : Nat) (rooms : List Room) :
    w.Advances (.merge q p epoch rooms) (w.advanceMerge q p epoch rooms) := by
  unfold advanceMerge
  split
  · next hq => exact .of_none rfl hq
  · next query hq =>
    split
    · next hcanceled => exact .of_canceled rfl hq hcanceled
    · split
      · exact .rescan q p epoch rooms
      · next hepoch =>
        have heq : query.epoch = epoch := Decidable.of_not_not hepoch
        rw [← heq]
        exact .merge hq p rooms _

theorem advances_advanceSearch (rest : List ProviderId) :
    w.Advances (.search q rest) (w.advanceSearch q rest) := by
  cases rest with
  | nil =>
    rw [advanceSearch]
    split
    · exact .spent rfl
    · next query hq =>
      split
      · next hrunning => exact .complete hq hrunning
      · exact .spent rfl
  | cons p rest =>
    rw [advanceSearch]
    split
    · next hq => exact .of_none rfl hq
    · next query hq =>
      split
      · next hcanceled => exact .of_canceled rfl hq hcanceled
      · exact .search q p rest

theorem advances_advanceNotification (audience : List Subscriber) (rest : List Delivery) :
    w.Advances (.notify q audience rest) (w.advanceNotification q audience rest) := by
  cases rest with
  | nil => exact .spent rfl
  | cons d rest =>
    unfold advanceNotification
    dsimp only
    split
    · next b hb => exact .publish q audience d rest b hb
    · next name hname => exact .hear q audience d rest name hname

/-- **A task goes on** by a move of one of these kinds. -/
theorem advances_advance (t : Task) : w.Advances t (w.advance t) := by
  cases t with
  | deliver notice rest => exact advances_advanceDelivery w notice rest
  | withdraw s => exact .withdraw s
  | mergeJoined q notice autoJoin => exact advances_advanceJoined w q notice autoJoin
  | scan q p => exact advances_advanceScan w q p
  | merge q p epoch rooms => exact advances_advanceMerge w q p epoch rooms
  | search q rest => exact advances_advanceSearch w q rest
  | notify q audience rest => exact advances_advanceNotification w q audience rest
  | cancelEach rest =>
    cases rest with
    | nil => exact .spent rfl
    | cons q rest => exact .cancelEach q rest

/-! ### Requests -/

theorem runs_run : w.Runs q (w.run q).1 := by
  unfold run
  split
  · exact .still
  · split
    · exact .still
    · dsimp only
      split
      · exact .late
      · exact .search

theorem sets_setStatus (status : Status) : w.Sets q (w.setStatus q status).1 := by
  unfold setStatus
  split
  · exact .still
  · next query hq =>
    split
    · exact .canceled
    · exact .still
    · exact .still
    · next hrunning => exact .completed hq hrunning
    · exact .still

variable {w}

/-- A presence is announced on the channel of a service. -/
theorem exists_of_announcePresence? {s : ServiceId} {provider : Option ProviderId}
    {room identifier : String} {change : PresenceChange} {m : Move}
    (h : w.announcePresence? s provider room identifier change = some m) :
    ∃ notice, m = w.announce (.presence s) (.presence notice) := by
  unfold announcePresence? at h
  split at h
  · cases h
  · split at h
    · cases h
    · exact ⟨_, (Option.some.inj h).symm⟩

end World

end RoomSearch
