import RoomSearch.Changes
import RoomSearch.Subscription

/-!
# Queries

A query holds its results and knows its subscribers.  While it has subscribers and has not been
canceled it is attached: it is subscribed to the directory's lists of rooms and of providers, to
the registry, and to the presence channels of provider services, at most one for each provider.

The epoch of a query counts the changes of the directory that the query has taken notice of.  What
was read from the directory in an earlier epoch is out of date.

## Main definitions

* `QueryId`, `ServiceId`, `BusId`, `TapId` — identities.
* `Attachment` — the subscriptions of an attached query.
* `Subscriber` — what can be subscribed to a query.
* `Query` — a query.
-/

namespace RoomSearch

/-- The identity of a query: how many were made before it. -/
structure QueryId where
  /-- The number of queries made before it. -/
  index : Nat
deriving DecidableEq, Repr

/-- The identity of a provider service. -/
structure ServiceId where
  /-- The text that tells the service from the others. -/
  text : String
deriving DecidableEq, Repr

/-- The identity of an event bus: how many were made before it. -/
structure BusId where
  /-- The number of buses made before it. -/
  index : Nat
deriving DecidableEq, Repr

/-- The identity of a tap, an observer of a source: how many were made before it. -/
structure TapId where
  /-- The number of taps made before it. -/
  index : Nat
deriving DecidableEq, Repr

/-- The subscription to the presence channel of a service. -/
structure PresenceLink where
  /-- The provider of the service. -/
  provider : ProviderId
  /-- The service. -/
  service : ServiceId
  /-- The subscription to its channel. -/
  subscription : SubscriptionId
deriving DecidableEq, Repr

/-- The subscriptions of an attached query. -/
structure Attachment where
  /-- To the lists of rooms. -/
  rooms : SubscriptionId
  /-- To the list of providers. -/
  providers : SubscriptionId
  /-- To the registry. -/
  registrations : SubscriptionId
  /-- To presence channels, at most one for each provider. -/
  presence : List PresenceLink
deriving DecidableEq, Repr

/-- What can be subscribed to a query. -/
inductive Subscriber where
  /-- A listener with a name. -/
  | listener (name : String)
  /-- An event bus. -/
  | bus (bus : BusId)
deriving DecidableEq, Repr

/-- A query. -/
structure Query where
  /-- What it searches for. -/
  matcher : Matcher
  /-- How far it is. -/
  status : Status
  /-- Whether the first search has been asked for. -/
  started : Bool
  /-- What it has found. -/
  results : ResultSet
  /-- How many changes of the directory it has taken notice of. -/
  epoch : Nat
  /-- Who is told, in the order of subscription. -/
  subscribers : List (SubscriptionId × Subscriber)
  /-- The count of subscribers that decides when the query is attached and detached. -/
  subscriberCount : Nat
  /-- Its own subscriptions, while it is attached. -/
  attachment : Option Attachment
  /-- Whether it is still referred to. -/
  alive : Bool
deriving DecidableEq, Repr

namespace Query

/-- A query that has not begun. -/
def ofMatcher (matcher : Matcher) : Query where
  matcher := matcher
  status := .running
  started := false
  results := .empty
  epoch := 0
  subscribers := []
  subscriberCount := 0
  attachment := none
  alive := true

/-- Whether the query is attached to its sources. -/
def isAttached (q : Query) : Bool := q.attachment.isSome

/-- The number of presence channels the query is subscribed to. -/
def presenceCount (q : Query) : Nat := q.attachment.elim 0 fun a => a.presence.length

/-- Whether the query has been canceled. -/
def isCanceled (q : Query) : Bool := q.status == .canceled

/-- Whether a room matches the query. -/
def accepts (q : Query) (name identifier : String) : Bool := q.matcher.accepts name identifier

/-- The same query in its next epoch. -/
def advanceEpoch (q : Query) : Query := { q with epoch := q.epoch + 1 }

end Query

end RoomSearch
