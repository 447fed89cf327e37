import RoomSearch.Bus
import RoomSearch.Config
import RoomSearch.Directory
import RoomSearch.Query

/-!
# The world of queries

The world holds the sources of rooms, the queries that follow them, and the buses that pass events
on.  Queries, buses and subscriptions are referred to by their identities, which are never used
again.

## Main definitions

* `Watcher` — what can be subscribed to a source: a query or a tap.
* `Service` — a provider service with its presence channel.
* `Source` — names a source that announces changes.
* `Origin` — where an event comes from.
* `World` — everything.
* `World.query?`, `World.modifyQuery`, `World.feed?`, `World.modifyFeed` — access to its parts.
-/

namespace RoomSearch

/-- What can be subscribed to a source. -/
inductive Watcher where
  /-- A query. -/
  | query (query : QueryId)
  /-- An observer from outside. -/
  | tap (tap : TapId)
deriving DecidableEq, Repr

/-- A provider service: the connection of a provider, with a presence channel if it has rooms.  Two
services may serve the same provider. -/
structure Service where
  /-- The service. -/
  id : ServiceId
  /-- The provider it serves. -/
  provider : ProviderId
  /-- The presence channel. -/
  channel : Option (Feed Watcher)
deriving DecidableEq, Repr

/-- A service with an empty presence channel, or without one. -/
def Service.ofParts (id : ServiceId) (provider : ProviderId) (hasChannel : Bool) : Service :=
  ⟨id, provider, if hasChannel then some .empty else none⟩

/-- The text that a service is ordered by. -/
def Service.key (s : Service) : String := s.id.text

/-- Names a source that announces changes. -/
inductive Source where
  /-- The directory's lists of rooms. -/
  | rooms
  /-- The directory's list of providers. -/
  | providers
  /-- The registry of services. -/
  | registrations
  /-- The presence channel of a service. -/
  | presence (service : ServiceId)
deriving DecidableEq, Repr

/-- Where an event comes from. -/
inductive Origin where
  /-- A query of this world. -/
  | query (query : QueryId)
  /-- Somewhere else. -/
  | foreign (id : Uuid)
deriving DecidableEq, Repr

/-- The sources, the queries and the buses. -/
structure World where
  /-- How queries are made. -/
  config : Config
  /-- The greatest capacity that a bus can be built with. -/
  busLimit : Nat
  /-- The rooms of all providers. -/
  directory : Directory
  /-- Who follows the lists of rooms. -/
  roomFeed : Feed Watcher
  /-- Who follows the list of providers. -/
  providerFeed : Feed Watcher
  /-- The registered services, in the order of registration; one may be registered twice. -/
  registry : List ServiceId
  /-- Who follows the registry. -/
  registryFeed : Feed Watcher
  /-- All services, registered or not, in order. -/
  services : List Service
  /-- All queries, in the order in which they were made. -/
  queries : List Query
  /-- The queries that are canceled together, in the order in which they were made. -/
  tracked : List QueryId
  /-- All buses, in the order in which they were made, those that are gone included. -/
  buses : List (Bus (Event Origin))
  /-- The buses that nobody can publish on any more. -/
  closedBuses : List BusId
  /-- The identity of the subscription to come. -/
  nextSubscription : SubscriptionId

namespace World

/-- A world with these rooms and services, no query and no subscription. -/
def ofSources (config : Config) (directory : Directory) (services : List Service)
    (registry : List ServiceId) (busLimit : Nat := Bus.maxCapacity) : World where
  config := config
  busLimit := busLimit
  directory := directory
  roomFeed := .empty
  providerFeed := .empty
  registry := registry
  registryFeed := .empty
  services := services
  queries := []
  tracked := []
  buses := []
  closedBuses := []
  nextSubscription := .first

/-! ### Queries -/

/-- The query with the given identity. -/
def query? (w : World) (q : QueryId) : Option Query := w.queries[q.index]?

/-- Changes a query. -/
def modifyQuery (w : World) (q : QueryId) (f : Query → Query) : World :=
  { w with queries := w.queries.modify q.index f }

/-- Changes of the directory that a query has taken notice of; none for no query. -/
def epoch (w : World) (q : QueryId) : Nat := (w.query? q).elim 0 Query.epoch

/-! ### Services and feeds -/

/-- The service with the given identity. -/
def service? (w : World) (s : ServiceId) : Option Service :=
  Keyed.find? Service.key s.text w.services

/-- Makes a service; one with this identity stays as it is. -/
def ensureService (w : World) (s : ServiceId) (provider : ProviderId) (hasChannel : Bool) : World :=
  { w with services :=
      Keyed.insertNew Service.key (.ofParts s provider hasChannel) w.services }

/-- Changes the presence channel of a service, if it has one. -/
def modifyChannel (s : ServiceId) (f : Feed Watcher → Feed Watcher) (services : List Service) :
    List Service :=
  services.map fun service =>
    if service.id = s then { service with channel := service.channel.map f } else service

/-- The subscriptions to a source; a service may have no channel. -/
def feed? (w : World) : Source → Option (Feed Watcher)
  | .rooms => some w.roomFeed
  | .providers => some w.providerFeed
  | .registrations => some w.registryFeed
  | .presence s => (w.service? s).bind Service.channel

/-- Changes the subscriptions to a source. -/
def modifyFeed (w : World) (source : Source) (f : Feed Watcher → Feed Watcher) : World :=
  match source with
  | .rooms => { w with roomFeed := f w.roomFeed }
  | .providers => { w with providerFeed := f w.providerFeed }
  | .registrations => { w with registryFeed := f w.registryFeed }
  | .presence s => { w with services := modifyChannel s f w.services }

/-- A new identity of a subscription. -/
def freshSubscription (w : World) : World × SubscriptionId :=
  ({ w with nextSubscription := w.nextSubscription.next }, w.nextSubscription)

/-- Subscribes a watcher to a source. -/
def watch (w : World) (source : Source) (watcher : Watcher) : World × SubscriptionId :=
  let (w, id) := w.freshSubscription
  (w.modifyFeed source fun feed => feed.subscribe id watcher, id)

/-- Ends a subscription to a source. -/
def unwatch (w : World) (source : Source) (id : SubscriptionId) : World :=
  w.modifyFeed source fun feed => feed.unsubscribe id

/-! ### Buses -/

/-- The bus with the given identity. -/
def bus? (w : World) (b : BusId) : Option (Bus (Event Origin)) := w.buses[b.index]?

/-- Changes a bus. -/
def modifyBus (w : World) (b : BusId) (f : Bus (Event Origin) → Bus (Event Origin)) : World :=
  { w with buses := w.buses.modify b.index f }

/-- Adds a bus. -/
def addBus (w : World) (bus : Bus (Event Origin)) : World × BusId :=
  ({ w with buses := w.buses ++ [bus] }, ⟨w.buses.length⟩)

/-- Publishes an event on a bus. -/
def publish (w : World) (b : BusId) (event : Event Origin) : World :=
  w.modifyBus b fun bus => bus.publish event

end World

end RoomSearch
