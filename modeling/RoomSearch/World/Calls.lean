import RoomSearch.World.Following

/-!
# Calls on queries and changes of their sources

The calls that the world outside can make.  A call that tells anybody anything, or reads the
directory, leaves tasks behind; its own answer is settled at once all the same.

## Main definitions

* `World.createQuery`, `World.run`, `World.setStatus` — calls on queries.
* `World.activeQueries`, `World.cancelAll` — the queries that are kept track of.
* `World.addRoom`, `World.removeRoom`, `World.setAutoJoin`, `World.addProvider`,
  `World.removeProvider` — changes of the directory, which are announced.
* `World.register`, `World.unregister` — changes of the registry, which are announced.
* `World.announce` — an announcement alone.
* `World.release` — lets go of what nothing refers to.
-/

namespace RoomSearch.World

/-! ### Queries -/

/-- Makes a query.  A query that is kept track of is canceled with the others of its kind; those
that are gone are forgotten on this occasion. -/
def createQuery (w : World) (text : String) (isTracked : Bool) : World × QueryId :=
  let q : QueryId := ⟨w.queries.length⟩
  let isAlive (old : QueryId) : Bool := (w.query? old).elim false Query.alive
  let query := Query.ofMatcher ⟨text, w.config.matchMode⟩
  ({ w with
      queries := w.queries ++ [query]
      tracked := if isTracked then w.tracked.filter isAlive ++ [q] else w.tracked }, q)

/-- The first search of a query: all rooms of all providers that the directory has now.  It can be
asked for only once. -/
def run (w : World) (q : QueryId) : Move × Except (QueryError QueryId) Unit :=
  match w.query? q with
  | none => (.still w, .ok ())
  | some query =>
    if query.started then (.still w, .error (.alreadyStarted q))
    else
      let w := w.modifyQuery q fun query => { query with started := true }
      -- a search that was asked for after the end is over at once
      if query.isCanceled then (.still w, .ok ())
      else (⟨w, [.search q w.directory.providers], none, [.consulted q]⟩, .ok ())

/-- Asks for a status.  A query can be canceled at any time, and completed while it runs; nothing
else is a move. -/
def setStatus (w : World) (q : QueryId) (requested : Status) :
    Move × Except (QueryError QueryId) Unit :=
  match w.query? q with
  | none => (.still w, .ok ())
  | some query =>
    match query.status, requested with
    | _, .canceled => (w.cancel q, .ok ())
    | .running, .running => (.still w, .ok ())
    | .completed, .completed => (.still w, .ok ())
    | .running, .completed => (w.moveTo q .completed, .ok ())
    | current, requested => (.still w, .error (.invalidMove current requested))

/-- The queries kept track of that are still referred to. -/
def aliveQueries (w : World) : List QueryId :=
  w.tracked.filter fun q => (w.query? q).elim false Query.alive

/-- The queries kept track of that are still referred to and have not been canceled. -/
def activeQueries (w : World) : List QueryId :=
  w.aliveQueries.filter fun q => (w.query? q).elim false fun query => !query.isCanceled

/-- Cancels the queries that are kept track of, which are then no longer kept track of. -/
def cancelAll (w : World) : Move := .doing { w with tracked := [] } [.cancelEach w.aliveQueries]

/-! ### Announcements -/

/-- Who an announcement of a source goes to now. -/
def audience (w : World) (source : Source) : List Watcher :=
  (w.feed? source).elim [] Feed.audience

/-- An announcement of a source goes to all who follow it at this moment. -/
def announce (w : World) (source : Source) (notice : Notice) : Move :=
  .doing w [.deliver notice (w.audience source)]

/-- The lists of rooms announce a change. -/
def announceRoom (w : World) (provider : ProviderId) (room : Room) (change : RoomChange) : Move :=
  w.announce .rooms (.rooms ⟨provider, room, change⟩)

/-- The list of providers announces a change. -/
def announceProvider (w : World) (provider : ProviderId) (change : ProviderChange) : Move :=
  w.announce .providers (.providers ⟨provider, change⟩)

/-- The registry announces a change. -/
def announceRegistration (w : World) (s : ServiceId) (change : RegistrationChange)
    (ownerStopping : Bool) : Move :=
  w.announce .registrations (.registration ⟨s, change, ownerStopping⟩)

/-! ### The directory -/

/-- Lists one more room and announces it. -/
def addRoom (w : World) (provider : ProviderId) (room : Room) : Move :=
  announceRoom { w with directory := w.directory.addRoom provider room } provider room .added

/-- Takes a room out of a list and announces that, even if there is no room of this name. -/
def removeRoom (w : World) (provider : ProviderId) (name : String) : Move :=
  let room := (w.directory.findRoom? provider name).getD ⟨name, name, false⟩
  announceRoom { w with directory := w.directory.removeRoom provider name } provider room .removed

/-- Sets the flag of a room and announces that, even if there is no room of this name. -/
def setAutoJoin (w : World) (provider : ProviderId) (name : String) (autoJoin : Bool) : Move :=
  let room := (w.directory.findRoom? provider name).getD ⟨name, name, false⟩
  announceRoom { w with directory := w.directory.setAutoJoin provider name autoJoin } provider
    { room with autoJoin } .changed

/-- Replaces the rooms of a provider and announces the provider. -/
def addProvider (w : World) (provider : ProviderId) (rooms : List Room) : Move :=
  announceProvider { w with directory := w.directory.setRooms provider rooms } provider .added

/-- Forgets a provider and announces that. -/
def removeProvider (w : World) (provider : ProviderId) : Move :=
  announceProvider { w with directory := w.directory.removeProvider provider } provider .removed

/-! ### The registry -/

/-- Registers a service and announces it. -/
def register (w : World) (s : ServiceId) : Move :=
  announceRegistration { w with registry := w.registry ++ [s] } s .registered false

/-- Announces that a service goes, and then takes it out of the registry. -/
def unregister (w : World) (s : ServiceId) (ownerStopping : Bool) : Move :=
  (w.announceRegistration s .unregistering ownerStopping).andThen [.withdraw s]

/-- The local user's presence in a room of a service changes.  The room's provider may be another
one than the service's.  Nothing is announced by a service without a channel. -/
def announcePresence? (w : World) (s : ServiceId) (provider : Option ProviderId)
    (room identifier : String) (change : PresenceChange) : Option Move :=
  match w.service? s with
  | none => none
  | some service =>
    if service.channel.isNone then none
    else
      let notice : PresenceNotice := ⟨provider.getD service.provider, room, identifier, change⟩
      some (w.announce (.presence s) (.presence notice))

/-! ### Letting go -/

/-- Lets go of the queries that are not in use. -/
def releaseQueries (w : World) (inUse : QueryId → Bool) : World :=
  (List.range w.queries.length).foldl
    (fun w i =>
      if (w.query? ⟨i⟩).elim false Query.alive && !inUse ⟨i⟩ then w.retire ⟨i⟩ else w)
    w

/-- Whether a bus is subscribed to some query. -/
def busIsSubscribed (w : World) (b : BusId) : Bool :=
  w.queries.any fun query => query.subscribers.any fun s => s.2 == .bus b

/-- Closes the buses that are not in use. -/
def releaseBuses (w : World) (inUse : BusId → Bool) : World :=
  { w with
    closedBuses := ((List.range w.buses.length).map BusId.mk).filter fun b =>
      w.closedBuses.contains b || !(inUse b || w.busIsSubscribed b) }

/-- Lets go of the queries that are not in use, and then of the buses that are neither in use nor
subscribed to a query. -/
def release (w : World) (queryInUse : QueryId → Bool) (busInUse : BusId → Bool) : World :=
  (w.releaseQueries queryInUse).releaseBuses busInUse

end RoomSearch.World
