import RoomSearch.Proofs.World.Change
import RoomSearch.Session.Report

/-!
# What an action does

An action reads the names of a session and moves its world.  `World.Acts` lists the moves there
are, one constructor for each kind, and `Session.enacts_perform` says that every action is one of
them: what an action leads to is then known by cases on the move and not on the action.

## Main definitions

* `World.Acts` — the moves of the world that actions lead to.
* `Session.Begins` — how an action leaves everything but the world.
* `Session.Enacts` — a session after an action.

## Main results

* `World.chain_acts` — the moves of actions are chains of elementary changes.
* `Session.enacts_perform` — every action is one of the moves.
-/

namespace RoomSearch

/-- The task that a call is, if it is one. -/
def Call.task? : Call → Option Task
  | .task t => some t
  | _ => none

/-- The action that a call performs next, if it is a script. -/
def Call.action? : Call → Option Action
  | .script (a :: _) => some a
  | _ => none

/-- The name of the query that an action asks to search, if it does. -/
def Action.searched? : Action → Option String
  | .run name => some name
  | .start name => some name
  | _ => none

/-- Whether an action, if it subscribes to a query, gives no reactions to its listener. -/
def Action.isPassive : Action → Bool
  | .listen _ _ _ reactions _ => reactions.isEmpty
  | _ => true

/-- Whether an action, if it observes a source, never lets its observer act. -/
def Action.isDiscreet : Action → Bool
  | .tap _ _ uses _ => uses == 0
  | _ => true

namespace World

/-- Only buses are different. -/
def Aside (w w' : World) : Prop :=
  ∃ buses closedBuses, w' = { w with buses := buses, closedBuses := closedBuses }

theorem Aside.refl (w : World) : w.Aside w := ⟨w.buses, w.closedBuses, rfl⟩

theorem Aside.trans {w w' w'' : World} (h : w.Aside w') (h' : w'.Aside w'') : w.Aside w'' := by
  obtain ⟨buses, closedBuses, rfl⟩ := h
  obtain ⟨buses', closedBuses', rfl⟩ := h'
  exact ⟨buses', closedBuses', rfl⟩

/-- Mentions a service. -/
def mention (w : World) (m : ServiceMention) : World :=
  w.ensureService m.id m.provider m.hasChannel

/-- The moves of the world that an action can lead to; `named` are the queries that are held under
a name. -/
inductive Acts (w : World) (named : String → Option QueryId) : Action → Move → Prop where
  | idle {a : Action} {w' : World} (h : w.Aside w') : Acts w named a (.still w')
  | read {a : Action} : Acts w named a ⟨w, [], some .read, []⟩
  | create (name text : String) (isTracked : Bool) :
      Acts w named (.create name text isTracked) (.still (w.createQuery text isTracked).1)
  | run {a : Action} (q : QueryId) {name : String} (ha : a.searched? = some name)
      (hq : named name = some q) : Acts w named a (w.run q).1
  | setStatus {name : String} (q : QueryId) (status : Status) (hq : named name = some q) :
      Acts w named (.setStatus name status) (w.setStatus q status).1
  | cancel {name : String} (q : QueryId) (hq : named name = some q) :
      Acts w named (.cancel name) (w.cancel q)
  | cancelAll : Acts w named .cancelAll w.cancelAll
  | listen {name listener subscription : String} {reactions : List (Reaction Action)}
      {bus : Option String} {q : QueryId} (hq : named name = some q) (subscriber : Subscriber) :
      Acts w named (.listen name listener subscription reactions bus)
        (.still (w.subscribe q subscriber).1)
  | unlisten {name subscription : String} {q : QueryId} (hq : named name = some q)
      (id : SubscriptionId) :
      Acts w named (.unlisten name subscription) (.still (w.unsubscribe q id).1)
  | addRoom (provider : ProviderId) (room : Room) :
      Acts w named (.addRoom provider room) (w.addRoom provider room)
  | removeRoom (provider : ProviderId) (name : String) :
      Acts w named (.removeRoom provider name) (w.removeRoom provider name)
  | setAutoJoin (provider : ProviderId) (name : String) (autoJoin : Bool) :
      Acts w named (.setAutoJoin provider name autoJoin) (w.setAutoJoin provider name autoJoin)
  | addProvider (provider : ProviderId) (rooms : List Room) :
      Acts w named (.addProvider provider rooms) (w.addProvider provider rooms)
  | removeProvider (provider : ProviderId) :
      Acts w named (.removeProvider provider) (w.removeProvider provider)
  | announceRoom (provider : ProviderId) (room : Room) (change : RoomChange) :
      Acts w named (.announceRoom provider room change) (w.announceRoom provider room change)
  | announceProvider (provider : ProviderId) (change : ProviderChange) :
      Acts w named (.announceProvider provider change) (w.announceProvider provider change)
  | register (m : ServiceMention) : Acts w named (.register m) ((w.mention m).register m.id)
  | unregister (m : ServiceMention) (ownerStopping : Bool) :
      Acts w named (.unregister m ownerStopping) ((w.mention m).unregister m.id ownerStopping)
  | announceRegistration (m : ServiceMention) (change : RegistrationChange)
      (ownerStopping : Bool) :
      Acts w named (.announceRegistration m change ownerStopping)
        ((w.mention m).announceRegistration m.id change ownerStopping)
  | presence (m : ServiceMention) (provider : Option ProviderId) (room identifier : String)
      (change : PresenceChange) {move : Move}
      (h : (w.mention m).announcePresence? m.id provider room identifier change = some move) :
      Acts w named (.presence m provider room identifier change) move
  | mention {a : Action} (m : ServiceMention) : Acts w named a (.still (w.mention m))
  | tap (target : TapTarget) (name : String) (uses : Nat) (steps : List Action) {w' : World}
      (hw : w' = w ∨ ∃ m, w' = w.mention m) {x : Source} (hfeed : w'.feed? x ≠ none) (t : TapId) :
      Acts w named (.tap target name uses steps) (.still (w'.watch x (.tap t)).1)

variable {w : World} {named : String → Option QueryId}

/-! ### Calls to the outside -/

@[simp] theorem callback_commit (w : World) (q : QueryId) (news : List News) :
    (w.commit q news).callback = none := by
  cases news <;> rfl

@[simp] theorem callback_moveTo (w : World) (q : QueryId) (status : Status) :
    (w.moveTo q status).callback = none := callback_commit ..

@[simp] theorem callback_cancel (w : World) (q : QueryId) : (w.cancel q).callback = none := by
  unfold cancel
  split
  · rfl
  · split
    · rfl
    · exact callback_moveTo ..

theorem Runs.callback {q : QueryId} {m : Move} (h : w.Runs q m) : m.callback = none := by
  cases h <;> rfl

theorem Sets.callback {q : QueryId} {m : Move} (h : w.Sets q m) : m.callback = none := by
  cases h with
  | still => rfl
  | canceled => exact callback_cancel w q
  | completed => exact callback_moveTo ..

/-- An action calls the outside only when it reads the directory. -/
theorem Acts.callback {a : Action} {m : Move} (h : Acts w named a m) :
    m.callback = none ∨ m.callback = some .read := by
  cases h with
  | read => exact .inr rfl
  | run q => exact .inl (runs_run w q).callback
  | setStatus q status => exact .inl (sets_setStatus w q status).callback
  | cancel q => exact .inl (callback_cancel w q)
  | presence m provider room identifier change h =>
    obtain ⟨notice, rfl⟩ := exists_of_announcePresence? h
    exact .inl rfl
  | _ => exact .inl rfl

/-! ### Chains -/

theorem Aside.change {w' : World} (h : w.Aside w') : Change w w' := by
  obtain ⟨buses, closedBuses, rfl⟩ := h
  exact .aside rfl (fun _ => feed?_congr rfl rfl rfl rfl _) rfl rfl

/-- A change of the directory concerns no query as such. -/
theorem chain_directory (w : World) (d : Directory) : Chain w { w with directory := d } :=
  .single (.aside rfl (fun _ => feed?_congr rfl rfl rfl rfl _) rfl rfl)

theorem chain_registry (w : World) (registry : List ServiceId) :
    Chain w { w with registry := registry } :=
  .single (.aside rfl (fun _ => feed?_congr rfl rfl rfl rfl _) rfl rfl)

theorem chain_mention (w : World) (m : ServiceMention) : Chain w (w.mention m) :=
  .single (.mention ..)

/-- **An action** moves the world by a chain of elementary changes, if the queries that are held are
alive. -/
theorem chain_acts {a : Action} {m : Move} (h : Acts w named a m)
    (hnamed : ∀ {name q}, named name = some q →
      ∃ query, w.query? q = some query ∧ query.alive = true) : Chain w m.world := by
  cases h with
  | idle h => exact .single h.change
  | read => exact .refl
  | create name text isTracked => exact .single (.create text isTracked)
  | run q => exact (runs_run w q).chain
  | setStatus q status => exact (sets_setStatus w q status).chain
  | cancel q => exact chain_cancel w q
  | cancelAll => exact .single (.aside rfl (fun _ => feed?_congr rfl rfl rfl rfl _) rfl rfl)
  | listen hq subscriber =>
    obtain ⟨query, hquery, halive⟩ := hnamed hq
    exact .single (.subscribe hquery halive subscriber)
  | unlisten hq id =>
    obtain ⟨query, hquery, -⟩ := hnamed hq
    by_cases hany : (query.subscribers.any fun s => s.1 == id) = true
    · exact .single (.unsubscribe hquery hany)
    · -- the subscription is not there
      rw [unsubscribe, hquery]
      dsimp only
      rw [if_neg hany]
      exact .refl
  | addRoom provider room => exact chain_directory ..
  | removeRoom provider name => exact chain_directory ..
  | setAutoJoin provider name autoJoin => exact chain_directory ..
  | addProvider provider rooms => exact chain_directory ..
  | removeProvider provider => exact chain_directory ..
  | announceRoom provider room change => exact .refl
  | announceProvider provider change => exact .refl
  | register m => exact (chain_mention w m).trans (chain_registry ..)
  | unregister m ownerStopping => exact chain_mention w m
  | announceRegistration m change ownerStopping => exact chain_mention w m
  | presence m provider room identifier change h =>
    obtain ⟨notice, rfl⟩ := exists_of_announcePresence? h
    -- the service is mentioned before its channel is looked for
    exact chain_mention w m
  | mention m => exact chain_mention w m
  | tap target name uses steps hw hfeed t =>
    -- an observer of a presence channel mentions the service
    rcases hw with rfl | ⟨m, rfl⟩
    · exact .single (.tap hfeed t)
    · exact (chain_mention w m).tail (.tap hfeed t)

end World

/-! ### Performing an action -/

namespace Session

/-- How an action leaves everything but the world: `base` is the session with the names and stores
that the action has changed, `m` is the move of the world, and `after` is what comes after it. -/
structure Begins (s : Session) (a : Action) (base : Session) (m : Move) (after : List Call) :
    Prop where
  /-- The move is one of those that the action can lead to. -/
  acts : World.Acts s.world s.query? a m
  /-- The calls in progress stay. -/
  calls : base.calls = s.calls
  /-- The journal stays. -/
  journal : base.journal = s.journal
  /-- No task and no script comes after the move. -/
  bare : ∀ c ∈ after, c.task? = none ∧ c.action? = none
  /-- A query that is held was held before, or has just been made. -/
  held : ∀ h ∈ base.held, h ∈ s.held ∨
    ∃ query, m.world.query? h.2 = some query ∧ query.alive = true
  /-- A listener was there before, or has the reactions that the action gives it. -/
  listeners : a.isPassive = true → (∀ l ∈ s.listeners, l.reactions = []) →
    ∀ l ∈ base.listeners, l.reactions = []
  /-- An observer was there before, or acts as often as the action lets it. -/
  taps : a.isDiscreet = true → (∀ tap ∈ s.taps, tap.uses = 0) → ∀ tap ∈ base.taps, tap.uses = 0

/-- The session `t` comes from `s` by the action `a`. -/
def Enacts (s : Session) (a : Action) (t : Session) : Prop :=
  ∃ base m after, t = base.absorb m after ∧ s.Begins a base m after

variable {s : Session} {a : Action}

/-- An action whose answer is settled, and that changes at most the names and stores. -/
theorem enacts_conclude {base : Session} {m : Move} (hacts : World.Acts s.world s.query? a m)
    (hcalls : base.calls = s.calls) (hjournal : base.journal = s.journal)
    (hheld : ∀ h ∈ base.held, h ∈ s.held ∨
      ∃ query, m.world.query? h.2 = some query ∧ query.alive = true)
    (hlisteners : a.isPassive = true → (∀ l ∈ s.listeners, l.reactions = []) →
      ∀ l ∈ base.listeners, l.reactions = [])
    (htaps : a.isDiscreet = true → (∀ tap ∈ s.taps, tap.uses = 0) → ∀ tap ∈ base.taps, tap.uses = 0)
    (reply : Reply) : s.Enacts a (base.conclude a m reply) := by
  refine ⟨base, m, [.answer a.verb reply], rfl, hacts, hcalls, hjournal, ?_, hheld, hlisteners,
    htaps⟩
  intro c hc
  rw [List.mem_singleton.mp hc]
  exact ⟨rfl, rfl⟩

/-- Two sessions that differ in their worlds, and otherwise only in what names stand for. -/
structure Resembles (s base : Session) : Prop where
  calls : base.calls = s.calls
  journal : base.journal = s.journal
  held : base.held = s.held
  listeners : base.listeners = s.listeners
  taps : base.taps = s.taps

/-- An action that changes nothing but the world and what names stand for. -/
theorem enacts_move {m : Move} (hacts : World.Acts s.world s.query? a m) {base : Session}
    (hbase : s.Resembles base) (reply : Reply) : s.Enacts a (base.conclude a m reply) := by
  refine enacts_conclude hacts hbase.calls hbase.journal ?_ ?_ ?_ reply
  · rw [hbase.held]
    exact fun h hh => .inl hh
  · rw [hbase.listeners]
    exact fun _ h => h
  · rw [hbase.taps]
    exact fun _ h => h

theorem Resembles.refl (s : Session) : s.Resembles s := ⟨rfl, rfl, rfl, rfl, rfl⟩

/-- An action that changes nothing but the world. -/
theorem enacts_self {m : Move} (hacts : World.Acts s.world s.query? a m) (reply : Reply) :
    s.Enacts a (s.conclude a m reply) := enacts_move hacts (.refl s) reply

theorem enacts_answer (s : Session) (a : Action) (reply : Reply) :
    s.Enacts a (s.answer a reply) := enacts_self (.idle (.refl _)) reply

/-- What is done with the query that is held under a name. -/
theorem withQuery_of_some {name : String} {q : QueryId} (hq : s.query? name = some q) (a : Action)
    (f : QueryId → Session) : s.withQuery a name f = f q := by
  rw [withQuery, hq]

/-- Nothing is done with a query where none is held. -/
theorem withQuery_of_none {name : String} (hnone : s.query? name = none) (a : Action)
    (f : QueryId → Session) : s.withQuery a name f = s.answer a (.failed .noQuery) := by
  rw [withQuery, hnone]

/-- What is done with the bus that is held under a name. -/
theorem withBus_of_some {name : String} {b : BusId} (hb : s.bus? name = some b) (a : Action)
    (f : BusId → Session) : s.withBus a name f = f b := by
  rw [withBus, hb]

/-- Nothing is done with a bus where none is held. -/
theorem withBus_of_none {name : String} (hnone : s.bus? name = none) (a : Action)
    (f : BusId → Session) : s.withBus a name f = s.answer a (.failed .noBus) := by
  rw [withBus, hnone]

theorem enacts_withQuery {name : String} {f : QueryId → Session}
    (h : ∀ q, s.query? name = some q → s.Enacts a (f q)) : s.Enacts a (s.withQuery a name f) := by
  unfold withQuery
  split
  · exact enacts_answer ..
  · next q hq => exact h q hq

theorem enacts_withBus {name : String} {f : BusId → Session} (h : ∀ b, s.Enacts a (f b)) :
    s.Enacts a (s.withBus a name f) := by
  unfold withBus
  split
  · exact enacts_answer ..
  · next b _ => exact h b

theorem enacts_withReceiver {name : String} {f : BusId → ReaderId → Session}
    (h : ∀ b r, s.Enacts a (f b r)) : s.Enacts a (s.withReceiver a name f) := by
  unfold withReceiver
  split
  · exact enacts_answer ..
  · next b r _ => exact h b r

/-- Changing a bus leaves everything else as it is. -/
theorem aside_modifyBus (w : World) (b : BusId) (f : Bus (Event Origin) → Bus (Event Origin)) :
    w.Aside (w.modifyBus b f) := ⟨_, w.closedBuses, rfl⟩

/-! ### Every action -/

/-- Reading from a bus changes the bus alone. -/
theorem readBus_spec (s : Session) (b : BusId) (r : ReaderId) :
    s.world.Aside (s.readBus b r).2.1.world ∧ s.Resembles (s.readBus b r).2.1 := by
  unfold readBus
  split
  · exact ⟨.refl _, .refl s⟩
  · exact ⟨aside_modifyBus .., ⟨rfl, rfl, rfl, rfl, rfl⟩⟩

/-- Ending a reader changes its bus alone. -/
theorem endReader_spec (s : Session) (name : String) :
    s.world.Aside (s.endReader name).world ∧ s.Resembles (s.endReader name) := by
  unfold endReader
  split
  · exact ⟨.refl _, .refl s⟩
  · exact ⟨aside_modifyBus .., ⟨rfl, rfl, rfl, rfl, rfl⟩⟩

theorem enacts_create (s : Session) (name text : String) (isTracked : Bool) :
    s.Enacts (.create name text isTracked) (s.perform (.create name text isTracked)) := by
  refine enacts_conclude (.create name text isTracked) ?_ ?_ ?_ ?_ ?_ _
  · rfl
  · rfl
  · intro h hh
    rcases Keyed.eq_or_mem_of_mem_insert hh with rfl | hh
    · refine .inr ⟨.ofMatcher ⟨text, s.world.config.matchMode⟩, ?_, rfl⟩
      show (s.world.createQuery text isTracked).1.query? _ = _
      rw [World.query?_createQuery, if_pos rfl]
    · exact .inl hh
  · exact fun _ h => h
  · exact fun _ h => h

theorem enacts_drop (s : Session) (name : String) :
    s.Enacts (.drop name) (s.perform (.drop name)) := by
  refine enacts_conclude (.idle (.refl _)) ?_ ?_ ?_ ?_ ?_ _
  · rfl
  · rfl
  · exact fun h hh => .inl (List.mem_filter.mp hh).1
  · exact fun _ h => h
  · exact fun _ h => h

theorem enacts_listen (s : Session) (name listener subscription : String)
    (reactions : List (Reaction Action)) (bus : Option String) :
    s.Enacts (.listen name listener subscription reactions bus)
      (s.perform (.listen name listener subscription reactions bus)) := by
  apply enacts_withQuery
  intro q hq
  cases bus with
  | some busName =>
    exact enacts_withBus fun b =>
      enacts_move (.listen hq (.bus b)) (by constructor <;> rfl) _
  | none =>
    refine enacts_conclude (.listen hq (.listener listener)) ?_ ?_ ?_ ?_ ?_ _
    · rfl
    · rfl
    · exact fun h hh => .inl hh
    · intro hpassive hall l hl
      rcases Keyed.eq_or_mem_of_mem_insertNew hl with rfl | hl
      · exact List.isEmpty_iff.mp hpassive
      · exact hall l hl
    · exact fun _ h => h

theorem enacts_directory (s : Session) : s.Enacts .directory (s.perform .directory) := by
  refine ⟨s, .still s.world, [.listing _ [] s.world.directory.providers], rfl, .idle (.refl _),
    rfl, rfl, ?_, fun h hh => .inl hh, fun _ h => h, fun _ h => h⟩
  intro c hc
  rw [List.mem_singleton.mp hc]
  exact ⟨rfl, rfl⟩

theorem enacts_tap (s : Session) (target : TapTarget) (name : String) (uses : Nat)
    (steps : List Action) :
    s.Enacts (.tap target name uses steps) (s.perform (.tap target name uses steps)) := by
  -- only the service of a presence channel has to be mentioned
  obtain ⟨w, hw, htarget⟩ : ∃ w, (w = s.world ∨ ∃ m, w = s.world.mention m) ∧
      (s.targetOf target).1 = { s with world := w } := by
    cases target with
    | presence m => exact ⟨_, .inr ⟨m, rfl⟩, rfl⟩
    | rooms | providers | registry => exact ⟨s.world, .inl rfl, rfl⟩
  simp only [perform, htarget]
  split
  · -- there is no such channel
    refine enacts_move ?_ (by constructor <;> rfl) _
    rcases hw with rfl | ⟨m, rfl⟩
    · exact .idle (.refl _)
    · exact .mention m
  · next hfeed =>
    -- the observer is added to those that there are
    refine enacts_conclude (.tap target name uses steps hw ?_ _) ?_ ?_ ?_ ?_ ?_ _
    · rw [hfeed]
      exact Option.some_ne_none _
    · rfl
    · rfl
    · exact fun h hh => .inl hh
    · exact fun _ h => h
    · intro hdiscreet hall tap htap
      -- the new observer is as discreet as the action is
      rcases List.mem_append.mp htap with htap | htap
      · exact hall tap htap
      · rw [List.mem_singleton.mp htap]
        exact beq_iff_eq.mp hdiscreet

theorem enacts_receiver (s : Session) (busName name : String) :
    s.Enacts (.receiver busName name) (s.perform (.receiver busName name)) := by
  apply enacts_withBus
  intro b
  split
  · exact enacts_answer ..
  · next bus _ =>
    obtain ⟨haside, hbase⟩ := endReader_spec
      { s with world := s.world.modifyBus b fun _ => bus.subscribe.1 } name
    refine enacts_move (.idle ((aside_modifyBus ..).trans haside)) ?_ _
    exact ⟨hbase.calls, hbase.journal, hbase.held, hbase.listeners, hbase.taps⟩

/-- **Every action** leads to one of the moves. -/
theorem enacts_perform (s : Session) (a : Action) : s.Enacts a (s.perform a) := by
  cases a with
  | create name text isTracked => exact enacts_create s name text isTracked
  | drop name => exact enacts_drop s name
  | run name | start name => exact enacts_withQuery fun q hq => enacts_self (.run q rfl hq) _
  | cancel name => exact enacts_withQuery fun q hq => enacts_self (.cancel q hq) _
  | setStatus name status =>
    exact enacts_withQuery fun q hq => enacts_self (.setStatus q status hq) _
  | find name address | indexOf name address =>
    exact enacts_withQuery fun q _ => enacts_answer ..
  | overview | source | active => exact enacts_answer ..
  | listen name listener subscription reactions bus =>
    exact enacts_listen s name listener subscription reactions bus
  | unlisten name subscription =>
    -- the subscription may not be held
    apply enacts_withQuery
    intro q hq
    split
    · exact enacts_answer ..
    · next id _ => exact enacts_self (.unlisten hq id) _
  | addRoom provider room => exact enacts_self (.addRoom provider room) _
  | removeRoom provider name => exact enacts_self (.removeRoom provider name) _
  | setAutoJoin provider name autoJoin =>
    exact enacts_self (.setAutoJoin provider name autoJoin) _
  | addProvider provider rooms => exact enacts_self (.addProvider provider rooms) _
  | removeProvider provider => exact enacts_self (.removeProvider provider) _
  | announceRoom provider room change =>
    exact enacts_self (.announceRoom provider room change) _
  | announceProvider provider change =>
    exact enacts_self (.announceProvider provider change) _
  | directory => exact enacts_directory s
  | findRoom provider room => exact enacts_self .read _
  | afterRead steps =>
    exact enacts_move (.idle (.refl _)) (by constructor <;> rfl) _
  | register m => exact enacts_self (.register m) _
  | unregister m ownerStopping => exact enacts_self (.unregister m ownerStopping) _
  | announceRegistration m change ownerStopping =>
    exact enacts_self (.announceRegistration m change ownerStopping) _
  | presence m provider room identifier change =>
    rw [perform]
    split
    · exact enacts_self (.mention m) _
    -- an announcement through a channel, if there is one
    · next move h => exact enacts_self (.presence m provider room identifier change h) _
  | tap target name uses steps => exact enacts_tap s target name uses steps
  | cancelAll => exact enacts_self .cancelAll _
  | bus name size =>
    -- a bus is made aside, if one can be built
    rw [perform]
    split
    · exact enacts_answer ..
    · exact enacts_move (.idle ⟨_, s.world.closedBuses, rfl⟩) (by constructor <;> rfl) _
  | busDrop name =>
    exact enacts_move (.idle (.refl _)) (by constructor <;> rfl) _
  | publish name event =>
    exact enacts_withBus fun b => enacts_self (.idle (aside_modifyBus ..)) _
  | receiver busName name => exact enacts_receiver s busName name
  | receiverDrop name =>
    -- a reader that is ended concerns its bus only
    obtain ⟨haside, hbase⟩ := endReader_spec s name
    refine enacts_move (.idle haside) ?_ _
    exact ⟨hbase.calls, hbase.journal, hbase.held, hbase.listeners, hbase.taps⟩
  | receivers busName => exact enacts_withBus fun b => enacts_answer ..
  | tryReceive name =>
    apply enacts_withReceiver
    intro b r
    obtain ⟨haside, hbase⟩ := readBus_spec s b r
    exact enacts_move (.idle haside) hbase _
  | receive name =>
    -- a reader waits or not, but its bus is read either way
    apply enacts_withReceiver
    intro b r
    obtain ⟨haside, hbase⟩ := readBus_spec s b r
    dsimp only
    split <;> exact enacts_move (.idle haside) hbase _

end Session

end RoomSearch
