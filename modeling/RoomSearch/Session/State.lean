import RoomSearch.Session.Script

/-!
# Sessions

A session is a world with the names that scripts use, with the actions that are in store, and with
the calls in progress.  The innermost call is the first; when it is over, the next one goes on where
it was interrupted.  What happens is written into a journal.

## Main definitions

* `Call` — a call in progress: a script, a task of the world, or an answer about to be given.
* `Line` — a line of the journal.
* `Session` — the session.
* `Session.absorb` — the session after a move of the world, with the answer to its callback.
* `Session.sweep` — lets go of what nothing refers to.
-/

namespace RoomSearch

/-- A call in progress. -/
inductive Call where
  /-- Actions that are performed one after the other. -/
  | script (rest : List Action)
  /-- A task of the world. -/
  | task (task : Task)
  /-- The directory is read, provider by provider; the newest listing comes first. -/
  | listing (verb : String) (done : List Listing) (rest : List ProviderId)
  /-- An action is about to be over. -/
  | answer (verb : String) (reply : Reply)

/-- A line of the journal. -/
inductive Line where
  /-- Something that a move of the world did. -/
  | noted (note : Note)
  /-- An action is over. -/
  | answered (verb : String) (reply : Reply)

/-- A listener with the reactions it has left. -/
structure Listener where
  /-- Its name. -/
  name : String
  /-- Its reactions, the first that applies being used. -/
  reactions : List (Reaction Action)

/-- An observer of a source. -/
structure Tap where
  /-- Its name. -/
  name : String
  /-- How many times its actions will still be performed. -/
  uses : Nat
  /-- Its actions. -/
  steps : List Action

/-- A world that is driven by scripts. -/
structure Session where
  /-- The world. -/
  world : World
  /-- The names under which queries are or were held, in the order in which they were made. -/
  labels : List String
  /-- The queries that are held, by name. -/
  held : List (String × QueryId)
  /-- The subscriptions that are held, by name. -/
  subscriptions : List (String × SubscriptionId)
  /-- The buses that are held, by name. -/
  heldBuses : List (String × BusId)
  /-- The readers that are held, by name. -/
  receivers : List (String × BusId × ReaderId)
  /-- The actions in store for the next time rooms are read. -/
  hook : Option (List Action)
  /-- The listeners, by name. -/
  listeners : List Listener
  /-- The observers, in the order in which they were made. -/
  taps : List Tap
  /-- The calls in progress, the innermost first. -/
  calls : List Call
  /-- What has happened, the latest first. -/
  journal : List Line

/-- Whether a reaction is for the news and can still be used. -/
def Reaction.applies {α : Type} (r : Reaction α) (news : News) : Bool :=
  r.uses != 0 &&
    (r.kind.elim true fun kind => kind == news.kind) &&
    (r.address.elim true fun address => address == news.entry?.elim "" Entry.address)

/-! ### What a call refers to -/

/-- The queries that a task refers to. -/
def Task.queries : Task → List QueryId
  | .deliver .. => []
  | .withdraw _ => []
  | .mergeJoined q .. => [q]
  | .scan q _ => [q]
  | .merge q .. => [q]
  | .search q _ => [q]
  | .notify q .. => [q]
  | .cancelEach qs => qs

/-- The subscribers that a task refers to. -/
def Task.subscribers : Task → List Subscriber
  | .notify _ audience _ => audience
  | _ => []

/-- The queries that a call refers to. -/
def Call.queries : Call → List QueryId
  | .task t => t.queries
  | _ => []

/-- The subscribers that a call refers to. -/
def Call.subscribers : Call → List Subscriber
  | .task t => t.subscribers
  | _ => []

namespace Session

/-- A session over a world that has just been made. -/
def ofWorld (world : World) : Session where
  world := world
  labels := []
  held := []
  subscriptions := []
  heldBuses := []
  receivers := []
  hook := none
  listeners := []
  taps := []
  calls := []
  journal := []

/-- A session over these rooms, with these services registered in order. -/
def ofSources (config : Config) (directory : Directory) (registered : List ServiceMention)
    (busLimit : Nat := Bus.maxCapacity) : Session :=
  let services := registered.foldl
    (fun services m =>
      Keyed.insertNew Service.key (Service.ofParts m.id m.provider m.hasChannel) services) []
  ofWorld (.ofSources config directory services (registered.map ServiceMention.id) busLimit)

/-! ### Names -/

/-- The query that is held under a name. -/
def query? (s : Session) (name : String) : Option QueryId :=
  (Keyed.find? Prod.fst name s.held).map (·.2)

/-- The bus that is held under a name. -/
def bus? (s : Session) (name : String) : Option BusId :=
  (Keyed.find? Prod.fst name s.heldBuses).map (·.2)

/-- The reader that is held under a name, with its bus. -/
def receiver? (s : Session) (name : String) : Option (BusId × ReaderId) :=
  (Keyed.find? Prod.fst name s.receivers).map (·.2)

/-- The name that a query was given when it was made. -/
def label (s : Session) (q : QueryId) : String := (s.labels[q.index]?).getD ""

/-- Everything that can be seen. -/
def overview (s : Session) : Overview where
  queries := s.held.filterMap fun (name, q) => (s.world.query? q).map (name, ·)
  rooms := s.world.roomFeed
  providers := s.world.providerFeed
  registry := s.world.registryFeed
  services := s.world.services

/-! ### Answering callbacks -/

/-- The actions of the first reaction that applies, and the reactions after it has been used. -/
def react (news : News) : List (Reaction Action) → Option (List Action × List (Reaction Action))
  | [] => none
  | r :: rest =>
    if r.applies news then some (r.steps, { r with uses := r.uses - 1 } :: rest)
    else (react news rest).map fun (steps, rest) => (steps, r :: rest)

/-- What a listener does when it is told something. -/
def reactOf (name : String) (news : News) : List Listener → Option (List Action × List Listener)
  | [] => none
  | l :: rest =>
    if l.name = name then
      (react news l.reactions).map fun (steps, reactions) => (steps, { l with reactions } :: rest)
    else (reactOf name news rest).map fun (steps, rest) => (steps, l :: rest)

/-- Performs actions before anything else. -/
def interrupt (s : Session) (steps : List Action) : Session :=
  { s with calls := .script steps :: s.calls }

/-- Answers a call from the world. -/
def respond (s : Session) : Callback → Session
  | .read =>
    match s.hook with
    | none => s
    | some steps => { s with hook := none }.interrupt steps
  | .listener name event =>
    match reactOf name event.news s.listeners with
    | none => s
    | some (steps, listeners) => { s with listeners }.interrupt steps
  | .tap t _ =>
    match s.taps[t.index]? with
    | none => s
    | some tap =>
      if tap.uses = 0 then s
      else
        { s with taps := s.taps.set t.index { tap with uses := tap.uses - 1 } }.interrupt tap.steps

/-- The session after a move of the world.  What remains to be done comes before `after`, and both
before the calls in progress; the answer to the callback comes first. -/
def absorb (s : Session) (m : Move) (after : List Call) : Session :=
  let s :=
    { s with
      world := m.world
      journal := (m.notes.map Line.noted).reverse ++ s.journal
      calls := m.tasks.map Call.task ++ after ++ s.calls }
  match m.callback with
  | none => s
  | some callback => s.respond callback

/-! ### Letting go -/

/-- Whether a query is held or taking part in a call. -/
def usesQuery (s : Session) (q : QueryId) : Bool :=
  (s.held.any fun h => h.2 == q) || s.calls.any fun call => call.queries.contains q

/-- Whether a bus is held or taking part in a call. -/
def usesBus (s : Session) (b : BusId) : Bool :=
  (s.heldBuses.any fun h => h.2 == b) ||
    s.calls.any fun call => call.subscribers.contains (.bus b)

/-- Lets go of the queries and buses that nothing refers to. -/
def sweep (s : Session) : Session := { s with world := s.world.release s.usesQuery s.usesBus }

end Session

end RoomSearch
