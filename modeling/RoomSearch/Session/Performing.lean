import RoomSearch.Session.State

/-!
# Performing actions

## Main definitions

* `Session.perform` — begins an action: its answer is settled, and comes after all that the action
  leads to.
* `Session.step` — the next step of the innermost call.
-/

namespace RoomSearch.Session

/-- The session after an action that has led to a move, and whose answer is settled. -/
def conclude (s : Session) (a : Action) (m : Move) (reply : Reply) : Session :=
  s.absorb m [.answer a.verb reply]

/-- The session after an action that leads to nothing else. -/
def answer (s : Session) (a : Action) (reply : Reply) : Session :=
  s.conclude a (.still s.world) reply

/-- The reply of a call that may be refused. -/
def replyOf (outcome : Except (QueryError QueryId) Unit) : Reply :=
  match outcome with
  | .ok () => .done
  | .error e => .failed (.refused e)

/-- Does something with the query that is held under a name, if there is one. -/
def withQuery (s : Session) (a : Action) (name : String) (f : QueryId → Session) : Session :=
  match s.query? name with
  | none => s.answer a (.failed .noQuery)
  | some q => f q

/-- Does something with the bus that is held under a name, if there is one. -/
def withBus (s : Session) (a : Action) (name : String) (f : BusId → Session) : Session :=
  match s.bus? name with
  | none => s.answer a (.failed .noBus)
  | some b => f b

/-- Does something with the reader that is held under a name, if there is one. -/
def withReceiver (s : Session) (a : Action) (name : String) (f : BusId → ReaderId → Session) :
    Session :=
  match s.receiver? name with
  | none => s.answer a (.failed .noReceiver)
  | some (b, r) => f b r

/-- Makes a service that is mentioned for the first time. -/
def mention (s : Session) (m : ServiceMention) : Session :=
  { s with world := s.world.ensureService m.id m.provider m.hasChannel }

/-- Ends the reader that is held under a name, if there is one. -/
def endReader (s : Session) (name : String) : Session :=
  match s.receiver? name with
  | none => s
  | some (b, r) => { s with world := s.world.modifyBus b fun bus => bus.leave r }

/-- Subscribes to a query and holds the subscription under a name. -/
def subscribe (s : Session) (a : Action) (q : QueryId) (subscriber : Subscriber) (name : String) :
    Session :=
  let (world, id) := s.world.subscribe q subscriber
  let s := { s with subscriptions := Keyed.insert Prod.fst (name, id) s.subscriptions }
  s.conclude a (.still world) .done

/-- Reads from a bus once: what was read, the session, and how much the reader has lost. -/
def readBus (s : Session) (b : BusId) (r : ReaderId) : Option (Event Origin) × Session × Nat :=
  match s.world.bus? b with
  | none => (none, s, 0)
  | some bus =>
    let (event, bus) := bus.read r
    (event, { s with world := s.world.modifyBus b fun _ => bus }, bus.skipped r)

/-- The capacity that a bus is to have. -/
def capacityOf (s : Session) : BusSize → Nat
  | .events capacity => capacity
  | .configured => s.world.config.busCapacity.toNat
  | .default => Config.default.busCapacity.toNat

/-- The source that an observer is to be subscribed to, its service being made if need be. -/
def targetOf (s : Session) : TapTarget → Session × Source
  | .rooms => (s, .rooms)
  | .providers => (s, .providers)
  | .registry => (s, .registrations)
  | .presence m => (s.mention m, .presence m.id)

/-- Begins an action. -/
def perform (s : Session) (a : Action) : Session :=
  match a with
  | .create name text isTracked =>
    let (world, q) := s.world.createQuery text isTracked
    let s :=
      { s with labels := s.labels ++ [name], held := Keyed.insert Prod.fst (name, q) s.held }
    s.conclude a (.still world) (.text text)
  | .drop name =>
    { s with held := Keyed.erase Prod.fst name s.held }.answer a (.flag (s.query? name).isSome)
  | .run name | .start name =>
    s.withQuery a name fun q =>
      let (m, outcome) := s.world.run q
      s.conclude a m (replyOf outcome)
  | .cancel name => s.withQuery a name fun q => s.conclude a (s.world.cancel q) .done
  | .setStatus name status =>
    s.withQuery a name fun q =>
      let (m, outcome) := s.world.setStatus q status
      s.conclude a m (replyOf outcome)
  | .find name address =>
    s.withQuery a name fun q =>
      s.answer a (.entry ((s.world.query? q).bind fun query => query.results.find? address))
  | .indexOf name address =>
    s.withQuery a name fun q =>
      s.answer a (.position ((s.world.query? q).bind fun query => query.results.indexOf? address))
  | .overview => s.answer a (.overview s.overview)
  | .listen name listener subscription reactions bus =>
    s.withQuery a name fun q =>
      match bus with
      | some busName => s.withBus a busName fun b => s.subscribe a q (.bus b) subscription
      | none =>
        let s := { s with
          listeners := Keyed.insertNew Listener.name ⟨listener, reactions⟩ s.listeners }
        s.subscribe a q (.listener listener) subscription
  | .unlisten name subscription =>
    s.withQuery a name fun q =>
      match Keyed.find? Prod.fst subscription s.subscriptions with
      | none => s.answer a (.flag false)
      | some (_, id) =>
        let (world, wasThere) := s.world.unsubscribe q id
        s.conclude a (.still world) (.flag wasThere)
  | .addRoom provider room => s.conclude a (s.world.addRoom provider room) .done
  | .removeRoom provider room => s.conclude a (s.world.removeRoom provider room) .done
  | .setAutoJoin provider room autoJoin =>
    s.conclude a (s.world.setAutoJoin provider room autoJoin) .done
  | .addProvider provider rooms => s.conclude a (s.world.addProvider provider rooms) .done
  | .removeProvider provider => s.conclude a (s.world.removeProvider provider) .done
  | .announceRoom provider room change =>
    s.conclude a (s.world.announceRoom provider room change) .done
  | .announceProvider provider change =>
    s.conclude a (s.world.announceProvider provider change) .done
  | .directory => { s with calls := .listing a.verb [] s.world.directory.providers :: s.calls }
  | .findRoom provider room =>
    s.conclude a ⟨s.world, [], some .read, []⟩ (.room (s.world.directory.findRoom? provider room))
  | .afterRead steps => { s with hook := some steps }.answer a .done
  | .register m =>
    let s := s.mention m
    s.conclude a (s.world.register m.id) .done
  | .unregister m ownerStopping =>
    let s := s.mention m
    s.conclude a (s.world.unregister m.id ownerStopping) .done
  | .announceRegistration m change ownerStopping =>
    let s := s.mention m
    s.conclude a (s.world.announceRegistration m.id change ownerStopping) .done
  | .presence m provider room identifier change =>
    let s := s.mention m
    match s.world.announcePresence? m.id provider room identifier change with
    | none => s.answer a (.failed .noChannel)
    | some move => s.conclude a move .done
  | .tap target name uses steps =>
    let (s, source) := s.targetOf target
    match s.world.feed? source with
    | none => s.answer a (.failed .noChannel)
    | some _ =>
      let (world, _) := s.world.watch source (.tap ⟨s.taps.length⟩)
      let tap : Tap := ⟨name, uses, steps⟩
      { s with taps := s.taps ++ [tap] }.conclude a (.still world) .done
  | .source => s.answer a (.source s.world.config)
  | .active => s.answer a (.names (s.world.activeQueries.map s.label))
  | .cancelAll => s.conclude a s.world.cancelAll .done
  | .bus name size =>
    match Bus.ofCapacity? (s.capacityOf size) s.world.busLimit with
    | none => s.answer a (.failed .unbuildable)
    | some bus =>
      let (world, b) := s.world.addBus bus
      { s with heldBuses := Keyed.insert Prod.fst (name, b) s.heldBuses }.conclude a (.still world)
        .done
  | .busDrop name =>
    { s with heldBuses := Keyed.erase Prod.fst name s.heldBuses }.answer a
      (.flag (s.bus? name).isSome)
  | .publish name event =>
    s.withBus a name fun b =>
      s.conclude a (.still (s.world.publish b ⟨.foreign event.query, event.news⟩)) .done
  | .receiver busName name =>
    s.withBus a busName fun b =>
      match s.world.bus? b with
      | none => s.answer a (.failed .noBus)
      | some bus =>
        -- a reader held under the name before is ended only now
        let (bus, r) := bus.subscribe
        let s := { s with world := s.world.modifyBus b fun _ => bus }.endReader name
        { s with receivers := Keyed.insert Prod.fst (name, b, r) s.receivers }.answer a .done
  | .receiverDrop name =>
    { s.endReader name with receivers := Keyed.erase Prod.fst name s.receivers }.answer a
      (.flag (s.receiver? name).isSome)
  | .receivers busName =>
    s.withBus a busName fun b =>
      s.answer a (.count ((s.world.bus? b).elim 0 fun bus => bus.readers.length))
  | .tryReceive name =>
    s.withReceiver a name fun b r =>
      let (event, s, skipped) := s.readBus b r
      s.answer a (.received event skipped)
  | .receive name =>
    s.withReceiver a name fun b r =>
      let (event, s, skipped) := s.readBus b r
      -- an open bus may still bring an event, so a reader without one waits
      if event.isSome || s.world.closedBuses.contains b then s.answer a (.received event skipped)
      else s.answer a (.pending skipped)

/-- Reads the next listing of the directory, or answers with all of them. -/
def proceedListing (s : Session) (verb : String) (done : List Listing) :
    List ProviderId → Session
  | [] => { s with calls := .answer verb (.listings done.reverse) :: s.calls }
  | provider :: rest =>
    let listing : Listing := ⟨provider, s.world.directory.rooms provider⟩
    s.absorb ⟨s.world, [], some .read, []⟩ [.listing verb (listing :: done) rest]

/-- Goes on with a call that has been taken off the calls in progress. -/
def proceed (s : Session) : Call → Session
  | .script [] => s
  | .script (a :: rest) => { s with calls := .script rest :: s.calls }.perform a
  | .task t => s.absorb (s.world.advance t) []
  | .listing verb done rest => s.proceedListing verb done rest
  | .answer verb reply => { s with journal := .answered verb reply :: s.journal }

/-- The next step of the innermost call; afterwards whatever nothing refers to is let go. -/
def step (s : Session) : Session :=
  match s.calls with
  | [] => s
  | call :: calls => ({ s with calls }.proceed call).sweep

end RoomSearch.Session
