import RoomSearch.World.Move

/-!
# Queries follow their sources

What a query does when one of its sources announces a change, and how tasks go on.

A scan reads the rooms of a provider and merges them.  The directory may be changed while it is
being read; a change that the query has taken notice of begins a new epoch, and what was read
before it is thrown away and read again.  A joined room that is no result yet is looked up in the
directory; whether it became a result meanwhile, or the query was canceled, is checked afterwards.

## Main definitions

* `World.followRooms`, `World.followProviders`, `World.followRegistry`, `World.followPresence` —
  a query's answer to an announcement.
* `World.cancel` — ends a query.
* `World.advance` — the next move of a task.
-/

namespace RoomSearch.World

/-! ### Answers to announcements -/

/-- A list of rooms has changed.  A new room that does not match is passed over. -/
def followRooms (w : World) (q : QueryId) (query : Query) (notice : RoomNotice) : Move :=
  let room := notice.room
  if notice.change = .added ∧ !query.accepts room.name room.identifier then .still w
  else if query.isCanceled then .still w
  else
    -- whatever comes of it, the query has taken notice of a change
    let w := w.modifyQuery q Query.advanceEpoch
    match notice.change with
    | .added => w.change q (query.results.mergeRoom notice.provider room)
    | .removed => w.change q (query.results.dropRoom room.name)
    | .changed => w.change q (query.results.setAutoJoin room.name room.autoJoin)

/-- The list of providers has changed.  A new provider is scanned; the results of one that is gone
are dropped. -/
def followProviders (w : World) (q : QueryId) (query : Query) (notice : ProviderNotice) : Move :=
  match notice.change with
  | .added => .doing (w.modifyQuery q Query.advanceEpoch) [.scan q notice.provider]
  | .removed =>
    if query.isCanceled then .still w
    else (w.modifyQuery q Query.advanceEpoch).change q (query.results.dropProvider notice.provider)

/-- The registry changes.  An attached query begins or ends its subscription to the presence channel
of the service, unless the unit that owns the service is being stopped. -/
def followRegistry (w : World) (q : QueryId) (query : Query)
    (notice : RegistrationNotice ServiceId) : Move :=
  match query.attachment, w.service? notice.service with
  | some attachment, some service =>
    if notice.ownerStopping then .still w
    else
      let (w, attachment) :=
        match notice.change with
        | .registered => w.linkPresence q attachment notice.service
        | .unregistering => w.unlinkPresence attachment service.provider
      .still (w.modifyQuery q fun query => { query with attachment := some attachment })
  | _, _ => .still w

/-- The local user's presence in a room has changed.  If the room is no result, but has been joined
and matches, it is looked up in the directory. -/
def followPresence (w : World) (q : QueryId) (query : Query) (notice : PresenceNotice) : Move :=
  if query.isCanceled then .still w
  else
    match query.results.setPresence? notice.room notice.change.presence with
    | some outcome => w.change q outcome
    | none =>
      if notice.change.isJoin && query.accepts notice.room notice.identifier then
        -- an unknown room is taken as one that is not rejoined
        let autoJoin := (w.directory.findRoom? notice.provider notice.room).elim false Room.autoJoin
        ⟨w, [.mergeJoined q notice autoJoin], some .read, [.consulted q]⟩
      else .still w

/-- The answer of a query to an announcement; one that nothing refers to does not answer. -/
def follow (w : World) (q : QueryId) (notice : Notice) : Move :=
  match w.query? q with
  | none => .still w
  | some query =>
    if !query.alive then .still w
    else
      match notice with
      | .presence notice => w.followPresence q query notice
      | .rooms notice => w.followRooms q query notice
      | .providers notice => w.followProviders q query notice
      | .registration notice => w.followRegistry q query notice

/-! ### Moves of the status -/

/-- Moves the status of a query and makes that known. -/
def moveTo (w : World) (q : QueryId) (status : Status) : Move :=
  (w.modifyQuery q fun query => { query with status }).commit q [.moved status]

/-- Ends a query: it is detached, and unless it has been canceled before, that is made known. -/
def cancel (w : World) (q : QueryId) : Move :=
  match w.query? q with
  | none => .still w
  | some query => if query.isCanceled then .still (w.detach q) else (w.detach q).moveTo q .canceled

/-! ### The next move of a task -/

/-- An announcement reaches the next watcher. -/
def advanceDelivery (w : World) (notice : Notice) : List Watcher → Move
  | [] => .still w
  | .query q :: rest => (w.follow q notice).andThen [.deliver notice rest]
  | .tap t :: rest => ⟨w, [.deliver notice rest], some (.tap t notice), [.tapped t notice]⟩

/-- A joined room becomes a result, unless the query has been canceled meanwhile. -/
def advanceJoined (w : World) (q : QueryId) (notice : PresenceNotice) (autoJoin : Bool) : Move :=
  match w.query? q with
  | none => .still w
  | some query =>
    if query.isCanceled then .still w else w.change q (query.results.mergeJoined notice autoJoin)

/-- The rooms of a provider are read, unless the query has been canceled. -/
def advanceScan (w : World) (q : QueryId) (provider : ProviderId) : Move :=
  match w.query? q with
  | none => .still w
  | some query =>
    if query.isCanceled then .still w
    else
      ⟨w, [.merge q provider query.epoch (w.directory.rooms provider)], some .read, [.consulted q]⟩

/-- Rooms that have been read are merged, unless the query has been canceled.  If it is in another
epoch now, they are read again instead. -/
def advanceMerge (w : World) (q : QueryId) (provider : ProviderId) (epoch : Nat)
    (rooms : List Room) : Move :=
  match w.query? q with
  | none => .still w
  | some query =>
    if query.isCanceled then .still w
    else if query.epoch ≠ epoch then .doing w [.scan q provider]
    else
      -- nothing has happened since the rooms were read, so they are up to date
      let matching := rooms.filter fun room => query.accepts room.name room.identifier
      w.change q (query.results.mergeRooms provider matching)

/-- The first search goes on with the next provider, or is complete.  It ends when the query has
been canceled; if the query is completed already, that is not made known again. -/
def advanceSearch (w : World) (q : QueryId) : List ProviderId → Move
  | [] =>
    match w.query? q with
    | none => .still w
    | some query => if query.status = .running then w.moveTo q .completed else .still w
  | provider :: rest =>
    match w.query? q with
    | none => .still w
    | some query =>
      if query.isCanceled then .still w else .doing w [.scan q provider, .search q rest]

/-- News reach the next subscriber. -/
def advanceNotification (w : World) (q : QueryId) (audience : List Subscriber) :
    List Delivery → Move
  | [] => .still w
  | d :: rest =>
    let event : Event Origin := ⟨.query q, d.news⟩
    match d.subscriber with
    | .bus b => ⟨w.publish b event, [.notify q audience rest], none, [.delivered q d]⟩
    | .listener name =>
      ⟨w, [.notify q audience rest], some (.listener name event), [.delivered q d]⟩

/-- The next move of a task. -/
def advance (w : World) : Task → Move
  | .deliver notice rest => w.advanceDelivery notice rest
  | .withdraw s => .still { w with registry := w.registry.filter fun other => other != s }
  | .mergeJoined q notice autoJoin => w.advanceJoined q notice autoJoin
  | .scan q provider => w.advanceScan q provider
  | .merge q provider epoch rooms => w.advanceMerge q provider epoch rooms
  | .search q rest => w.advanceSearch q rest
  | .notify q audience rest => w.advanceNotification q audience rest
  | .cancelEach [] => .still w
  | .cancelEach (q :: rest) => (w.cancel q).andThen [.cancelEach rest]

end RoomSearch.World
