import RoomSearch.World.Attaching

/-!
# Calls in progress

A call on a query, or an announcement of a source, takes several moves.  Between two of them the
world outside may act: whoever is notified may call back, and so may the directory while it is
read.  So each move changes the world in one go, and leaves behind what remains to be done, which
may also be a call to the outside to be answered first.

## Main definitions

* `Notice` — an announcement of any source.
* `Task` — what remains to be done of a call.
* `Callback` — a call to the outside.
* `Note` — what a move did that an observer may want to know.
* `Move` — a changed world with all that follows from the change.
* `World.commit` — makes a change known to the subscribers there are at this moment.
-/

namespace RoomSearch

/-- An announcement of any source. -/
inductive Notice where
  /-- Of a presence channel. -/
  | presence (notice : PresenceNotice)
  /-- Of the lists of rooms. -/
  | rooms (notice : RoomNotice)
  /-- Of the list of providers. -/
  | providers (notice : ProviderNotice)
  /-- Of the registry. -/
  | registration (notice : RegistrationNotice ServiceId)
deriving DecidableEq, Repr

/-- News on their way to one subscriber. -/
structure Delivery where
  /-- The subscription. -/
  subscription : SubscriptionId
  /-- The subscriber. -/
  subscriber : Subscriber
  /-- The news. -/
  news : News
deriving DecidableEq, Repr

/-- What remains to be done of a call. -/
inductive Task where
  /-- An announcement goes to these watchers. -/
  | deliver (notice : Notice) (rest : List Watcher)
  /-- A service is taken out of the registry. -/
  | withdraw (s : ServiceId)
  /-- A joined room, whose flag has been looked up, becomes a result. -/
  | mergeJoined (q : QueryId) (notice : PresenceNotice) (autoJoin : Bool)
  /-- The rooms of a provider are read for a query. -/
  | scan (q : QueryId) (provider : ProviderId)
  /-- Rooms that were read in some epoch of the query are merged into its results. -/
  | merge (q : QueryId) (provider : ProviderId) (epoch : Nat) (rooms : List Room)
  /-- The first search of a query goes on with these providers. -/
  | search (q : QueryId) (rest : List ProviderId)
  /-- News of a query go out.  The subscribers that are told stay referred to until all is done. -/
  | notify (q : QueryId) (audience : List Subscriber) (rest : List Delivery)
  /-- These queries are canceled one after the other. -/
  | cancelEach (rest : List QueryId)
deriving DecidableEq, Repr

/-- A call to the outside. -/
inductive Callback where
  /-- Rooms have been read from the directory and are about to be handed over. -/
  | read
  /-- A listener is told. -/
  | listener (name : String) (event : Event Origin)
  /-- An observer of a source is told. -/
  | tap (tap : TapId) (notice : Notice)
deriving DecidableEq, Repr

/-- What a move did. -/
inductive Note where
  /-- A query has read from the directory. -/
  | consulted (q : QueryId)
  /-- A query has changed, and news of that go to these subscriptions. -/
  | committed (q : QueryId) (news : List News) (subscriptions : List SubscriptionId)
  /-- News of a query have reached a subscriber. -/
  | delivered (q : QueryId) (delivery : Delivery)
  /-- An announcement has reached an observer of a source. -/
  | tapped (tap : TapId) (notice : Notice)
deriving DecidableEq, Repr

/-- A changed world with all that follows from the change. -/
structure Move where
  /-- The world after the move. -/
  world : World
  /-- What remains to be done, in this order. -/
  tasks : List Task
  /-- The call to the outside that comes before it. -/
  callback : Option Callback
  /-- What the move did, in this order. -/
  notes : List Note

namespace Move

/-- A change from which nothing follows. -/
def still (w : World) : Move := ⟨w, [], none, []⟩

/-- A change after which tasks remain. -/
def doing (w : World) (tasks : List Task) : Move := ⟨w, tasks, none, []⟩

/-- The same move with more to be done at the end. -/
def andThen (m : Move) (tasks : List Task) : Move := { m with tasks := m.tasks ++ tasks }

end Move

namespace World

/-- The news on their way to the subscribers, each piece of news to all of them in turn. -/
def deliveries (news : List News) (subscribers : List (SubscriptionId × Subscriber)) :
    List Delivery :=
  news.flatMap fun n => subscribers.map fun s => ⟨s.1, s.2, n⟩

/-- Makes a change of a query known: the news are on their way to the subscribers that the query
has at this moment.  Without news there is nothing to be made known. -/
def commit (w : World) (q : QueryId) (news : List News) : Move :=
  match news with
  | [] => .still w
  | _ :: _ =>
    let subscribers := (w.query? q).elim [] Query.subscribers
    ⟨w, [.notify q (subscribers.map (·.2)) (deliveries news subscribers)], none,
      [.committed q news (subscribers.map (·.1))]⟩

/-- Changes the results of a query and makes the change known. -/
def change (w : World) (q : QueryId) (outcome : List News × ResultSet) : Move :=
  (w.modifyQuery q fun query => { query with results := outcome.2 }).commit q outcome.1

end World

end RoomSearch
