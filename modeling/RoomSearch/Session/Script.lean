import RoomSearch.World.Calls

/-!
# Scripts

A session drives a world by actions.  Actions name queries, subscriptions, buses and readers by
texts.  They are performed one after the other, and some of them put further actions in store:
for the next time the directory is read, for a listener that is told something, and for an observer
of a source.  So actions are performed from inside a call as well.

## Main definitions

* `Reaction` — what a listener does when it is told something.
* `Action` — a step of a script.
* `Reply` — what an action gives back.
-/

namespace RoomSearch

/-- What a listener does when it is told something; `α` is the type of its actions. -/
structure Reaction (α : Type) where
  /-- The kind of news it is for, if not for all. -/
  kind : Option String
  /-- The address it is for, if not for all; news of the status count as having an empty one. -/
  address : Option String
  /-- How many times it can still be used. -/
  uses : Nat
  /-- What is done. -/
  steps : List α

/-- A service as an action names it.  It is made at the first mention, and later mentions do not
change it. -/
structure ServiceMention where
  /-- The service. -/
  id : ServiceId
  /-- The provider it serves, if it is to be made. -/
  provider : ProviderId
  /-- Whether it has a presence channel, if it is to be made. -/
  hasChannel : Bool

/-- The capacity of a bus that is to be made. -/
inductive BusSize where
  /-- A given one. -/
  | events (capacity : Nat)
  /-- The one of the configuration. -/
  | configured
  /-- The one of the default configuration. -/
  | default

/-- The source that is to be observed. -/
inductive TapTarget where
  /-- The lists of rooms. -/
  | rooms
  /-- The list of providers. -/
  | providers
  /-- The registry. -/
  | registry
  /-- The presence channel of a service. -/
  | presence (service : ServiceMention)

/-- A step of a script.  Queries are named by the texts under which they are held. -/
inductive Action where
  /-- Makes a query and holds it under a name, in place of the one that was held there. -/
  | create (name text : String) (isTracked : Bool)
  /-- Holds a query no longer. -/
  | drop (name : String)
  /-- Begins the first search of a query. -/
  | run (name : String)
  /-- Begins the first search of a query in the background and waits for its end. -/
  | start (name : String)
  /-- Cancels a query. -/
  | cancel (name : String)
  /-- Asks for a status of a query. -/
  | setStatus (name : String) (status : Status)
  /-- Looks up the result with an address. -/
  | find (name address : String)
  /-- Looks up the place of an address in the results. -/
  | indexOf (name address : String)
  /-- Shows everything. -/
  | overview
  /-- Subscribes a listener, or a bus if one is named, to a query, and holds the subscription under
  a name.  A listener has the reactions it is first mentioned with. -/
  | listen (name listener subscription : String) (reactions : List (Reaction Action))
      (bus : Option String)
  /-- Ends the subscription to a query that is held under a name. -/
  | unlisten (name subscription : String)
  /-- Lists one more room. -/
  | addRoom (provider : ProviderId) (room : Room)
  /-- Takes a room out of a list. -/
  | removeRoom (provider : ProviderId) (room : String)
  /-- Sets the flag of a room. -/
  | setAutoJoin (provider : ProviderId) (room : String) (autoJoin : Bool)
  /-- Replaces the rooms of a provider. -/
  | addProvider (provider : ProviderId) (rooms : List Room)
  /-- Forgets a provider. -/
  | removeProvider (provider : ProviderId)
  /-- Announces a change of a list of rooms, without making it. -/
  | announceRoom (provider : ProviderId) (room : Room) (change : RoomChange)
  /-- Announces a change of the list of providers, without making it. -/
  | announceProvider (provider : ProviderId) (change : ProviderChange)
  /-- Reads the whole directory. -/
  | directory
  /-- Looks up a room in the directory. -/
  | findRoom (provider : ProviderId) (room : String)
  /-- Puts actions in store for the next time rooms are read. -/
  | afterRead (steps : List Action)
  /-- Registers a service. -/
  | register (service : ServiceMention)
  /-- Takes a service out of the registry. -/
  | unregister (service : ServiceMention) (ownerStopping : Bool)
  /-- Announces a change of the registry, without making it. -/
  | announceRegistration (service : ServiceMention) (change : RegistrationChange)
      (ownerStopping : Bool)
  /-- Announces a change of the local user's presence in a room. -/
  | presence (service : ServiceMention) (provider : Option ProviderId) (room identifier : String)
      (change : PresenceChange)
  /-- Observes a source; the actions are performed the first few times. -/
  | tap (target : TapTarget) (name : String) (uses : Nat) (steps : List Action)
  /-- Shows how queries are made. -/
  | source
  /-- Names the queries that are kept track of. -/
  | active
  /-- Cancels the queries that are kept track of. -/
  | cancelAll
  /-- Makes a bus and holds it under a name. -/
  | bus (name : String) (size : BusSize)
  /-- Holds a bus no longer. -/
  | busDrop (name : String)
  /-- Publishes an event on a bus. -/
  | publish (name : String) (event : Event Uuid)
  /-- Makes a reader of a bus and holds it under a name. -/
  | receiver (bus name : String)
  /-- Ends a reader. -/
  | receiverDrop (name : String)
  /-- Counts the readers of a bus. -/
  | receivers (bus : String)
  /-- Reads from a bus. -/
  | tryReceive (name : String)
  /-- Reads from a bus, waiting for an event if there is none yet. -/
  | receive (name : String)

/-- The word that an action is reported under. -/
def Action.verb : Action → String
  | .create .. => "create"
  | .drop .. => "drop"
  | .run .. => "run"
  | .start .. => "start"
  | .cancel .. => "cancel"
  | .setStatus .. => "set_status"
  | .find .. => "find"
  | .indexOf .. => "index_of"
  | .overview => "state"
  | .listen .. => "listen"
  | .unlisten .. => "unlisten"
  | .addRoom .. => "add_room"
  | .removeRoom .. => "remove_room"
  | .setAutoJoin .. => "set_auto_join"
  | .addProvider .. => "add_provider"
  | .removeProvider .. => "remove_provider"
  | .announceRoom .. => "fire_room"
  | .announceProvider .. => "fire_provider"
  | .directory => "directory"
  | .findRoom .. => "find_room"
  | .afterRead .. => "after_read"
  | .register .. => "register"
  | .unregister .. => "unregister"
  | .announceRegistration .. => "fire_registration"
  | .presence .. => "presence"
  | .tap .. => "tap"
  | .source => "source"
  | .active => "active"
  | .cancelAll => "cancel_all"
  | .bus .. => "bus"
  | .busDrop .. => "bus_drop"
  | .publish .. => "publish"
  | .receiver .. => "receiver"
  | .receiverDrop .. => "receiver_drop"
  | .receivers .. => "receivers"
  | .tryReceive .. => "try_recv"
  | .receive .. => "recv"

/-- Why an action fails. -/
inductive Failure where
  /-- No query is held under the name. -/
  | noQuery
  /-- No bus is held under the name. -/
  | noBus
  /-- No reader is held under the name. -/
  | noReceiver
  /-- The service has no presence channel. -/
  | noChannel
  /-- No bus of the capacity can be built. -/
  | unbuildable
  /-- The query refuses. -/
  | refused (error : QueryError QueryId)
deriving DecidableEq, Repr

/-- The parts of a session that can be seen: the queries that are held, the feeds and the services,
each in order. -/
structure Overview where
  /-- The queries, with the names under which they are held. -/
  queries : List (String × Query)
  /-- Who follows the lists of rooms. -/
  rooms : Feed Watcher
  /-- Who follows the list of providers. -/
  providers : Feed Watcher
  /-- Who follows the registry. -/
  registry : Feed Watcher
  /-- The services. -/
  services : List Service

/-- What an action gives back. -/
inductive Reply where
  /-- It is done. -/
  | done
  /-- Whether there was something to be done. -/
  | flag (value : Bool)
  /-- A text. -/
  | text (value : String)
  /-- A result, if there is one. -/
  | entry (value : Option Entry)
  /-- A place in the results, if there is one. -/
  | position (value : Option Nat)
  /-- Everything that can be seen. -/
  | overview (value : Overview)
  /-- The rooms of all providers. -/
  | listings (value : List Listing)
  /-- A room, if there is one. -/
  | room (value : Option Room)
  /-- How queries are made. -/
  | source (config : Config)
  /-- Queries, by their names. -/
  | names (value : List String)
  /-- A number. -/
  | count (value : Nat)
  /-- What a reader has read, if anything, and how much it has lost. -/
  | received (event : Option (Event Origin)) (skipped : Nat)
  /-- A reader waits, having lost so much. -/
  | pending (skipped : Nat)
  /-- The action fails. -/
  | failed (cause : Failure)

end RoomSearch
