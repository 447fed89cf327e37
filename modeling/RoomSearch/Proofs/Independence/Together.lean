import RoomSearch.Proofs.Independence.Alone

/-!
# Actions in both of two sessions

An action that is performed in two sessions that mirror each other as far as a query goes leaves
them so.  If it acts on the query, it is answered in the same way in both; only a query that refuses
to begin again names itself.

## Main definitions

* `Reply.Mirrors` — the same answer, but for the name that a query gives itself.
* `Session.Agree` — two actions leave two sessions so, and have the same answer.

## Main results

* `Session.Mirrors.performShared` — **actions on what queries share.**
* `Session.Mirrors.create`, `Session.Mirrors.drop`, `Session.Mirrors.performOwn`,
  `Session.Mirrors.listen`, `Session.Mirrors.unlisten` — **actions on the query.**
-/

namespace RoomSearch

/-- The same answer, except that a query that has been started names itself. -/
inductive Reply.Mirrors (q q' : QueryId) : Reply → Reply → Prop where
  | same (reply : Reply) : Reply.Mirrors q q' reply reply
  | started : Reply.Mirrors q q' (.failed (.refused (.alreadyStarted q)))
      (.failed (.refused (.alreadyStarted q')))

theorem Outcome.Mirrors.replyOf {q q' : QueryId}
    {outcome outcome' : Except (QueryError QueryId) Unit}
    (h : Outcome.Mirrors q q' outcome outcome') :
    Reply.Mirrors q q' (Session.replyOf outcome) (Session.replyOf outcome') := by
  cases h with
  | same => exact .same _
  | started => exact .started

/-- The name of the query that an action calls, if it changes nothing that is held. -/
def Action.request? : Action → Option String
  | .run name | .start name | .cancel name => some name
  | .setStatus name _ => some name
  | .find name _ | .indexOf name _ => some name
  | _ => none

namespace Session

/-- The subscription that is held under a name. -/
def subscription? (s : Session) (name : String) : Option SubscriptionId :=
  (Keyed.find? Prod.fst name s.subscriptions).map (·.2)

/-- The action is answered with `reply` when all that it leads to is over. -/
def Replies (s : Session) (a : Action) (reply : Reply) : Prop :=
  ∃ above, (s.perform a).calls = above ++ .answer a.verb reply :: s.calls

/-- The action `a'` leaves the session `t` as the action `a` leaves the session `s`, as far as the
query goes, and has the same answer. -/
structure Agree (names : Translation) (q q' : QueryId) (s : Session) (a : Action) (t : Session)
    (a' : Action) : Prop where
  mirrors : (s.perform a).Mirrors names q q' (t.perform a')
  replies : ∃ reply reply', s.Replies a reply ∧ t.Replies a' reply' ∧ reply.Mirrors q q' reply'

variable {names : Translation} {q q' : QueryId} {s t : Session} {m m' : Move} {a a' : Action}
  {name : String}

theorem bus?_insert (s : Session) (name other : String) (b : BusId) :
    bus? { s with heldBuses := Keyed.insert Prod.fst (name, b) s.heldBuses } other =
      if name = other then some b else s.bus? other := by
  rw [bus?, Keyed.find?_insert]
  split <;> rfl

theorem bus?_erase (s : Session) (name other : String) :
    bus? { s with heldBuses := Keyed.erase Prod.fst name s.heldBuses } other =
      if other = name then none else s.bus? other := by
  rw [bus?, Keyed.find?_erase]
  split <;> rfl

theorem Ready.mention (hs : s.Ready) (m : ServiceMention) :
    (s.mention m).Unattended ∧ (s.world.mention m).Accounts :=
  ⟨⟨hs.unhooked, hs.passive, hs.discreet⟩, hs.accounts.of_chain (World.chain_mention s.world m)⟩

/-- A subscription is held under its name, and the query has one more subscriber. -/
theorem perform_listen (hq : s.query? name = some q) (hs : s.Passive) {bus : Option String}
    (hbus : ∀ b, bus = some b → (s.bus? b).isSome = true) (listener subscription : String)
    {reactions : List (Reaction Action)} (hreactions : reactions = []) :
    ∃ subscriber listeners, (∀ l ∈ listeners, l.reactions = []) ∧
      s.perform (.listen name listener subscription reactions bus) =
        Session.conclude
          { s with
            listeners := listeners
            subscriptions :=
              Keyed.insert Prod.fst (subscription, s.world.nextSubscription) s.subscriptions }
          (.listen name listener subscription reactions bus)
          (.still (s.world.subscribe q subscriber).1) .done := by
  have hid : ∀ subscriber, (s.world.subscribe q subscriber).2 = s.world.nextSubscription := by
    intro subscriber
    unfold World.subscribe
    dsimp only
    split
    · rfl
    · split <;> rfl
  rw [perform, withQuery_of_some hq]
  cases bus with
  | none =>
    have hlisteners : ∀ l ∈ Keyed.insertNew Listener.name ⟨listener, reactions⟩ s.listeners,
        l.reactions = [] := hs.insertNew hreactions
    refine ⟨.listener listener, _, hlisteners, ?_⟩
    rw [← hid (.listener listener)]
    rfl
  | some b =>
    obtain ⟨id, hsome⟩ := Option.isSome_iff_exists.mp (hbus b rfl)
    refine ⟨.bus id, s.listeners, hs, ?_⟩
    dsimp only
    rw [withBus_of_some hsome, ← hid (.bus id)]
    rfl

/-- A subscription ends, if one is held under the name. -/
theorem perform_unlisten (hq : s.query? name = some q) (handle : String) :
    s.perform (.unlisten name handle) =
      match s.subscription? handle with
      | none => s.conclude (.unlisten name handle) (.still s.world) (.flag false)
      | some id => s.conclude (.unlisten name handle) (.still (s.world.unsubscribe q id).1)
          (.flag (s.world.unsubscribe q id).2) := by
  rw [perform, withQuery_of_some hq, subscription?]
  cases Keyed.find? Prod.fst handle s.subscriptions with
  | none => rfl
  | some found => rfl

/-- What is concluded with an answer is answered so. -/
theorem replies_of_conclude {base : Session} {reply : Reply} (hbase : base.Unattended)
    (hcalls : base.calls = s.calls) (heq : s.perform a = base.conclude a m reply) :
    s.Replies a reply := by
  refine ⟨m.tasks.map .task, ?_⟩
  rw [heq, hbase.conclude, Session.taking, hcalls, List.append_assoc]
  rfl

/-- What is in one of two corresponding lists corresponds to something. -/
theorem exists_of_forall₂ {α β : Type} {R : α → β → Prop} {l : List α} {l' : List β}
    (h : List.Forall₂ R l l') {x : α} (hx : x ∈ l) : ∃ y, R x y := by
  induction h with
  | nil => cases hx
  | @cons a b _ _ hab _ ih =>
    rcases List.mem_cons.mp hx with rfl | hx
    · exact ⟨b, hab⟩
    · exact ih hx

namespace Mirrors

/-- An action whose answer is settled, in both sessions. -/
theorem conclude (h : s.Mirrors names q q' t) (hs : s.Unattended) (ht : t.Unattended)
    (hm : Move.Mirrors names q q' m m') (a a' : Action) (reply reply' : Reply) :
    (s.conclude a m reply).Mirrors names q q' (t.conclude a' m' reply') := by
  have hbare : ∀ {q : QueryId} {a : Action} {reply : Reply},
      ∀ c ∈ [Call.answer a.verb reply], c.Spares q := by
    intro q a reply c hc
    rw [List.mem_singleton.mp hc]
    trivial
  rw [hs.conclude, ht.conclude]
  exact h.taking hm hbare hbare

theorem answer (h : s.Mirrors names q q' t) (hs : s.Unattended) (ht : t.Unattended)
    (a a' : Action) (reply reply' : Reply) :
    (s.answer a reply).Mirrors names q q' (t.answer a' reply') :=
  h.conclude hs ht (.still h.world) a a' reply reply'

/-- Two actions that are concluded with the same answer. -/
theorem agree {base base' : Session} {reply reply' : Reply}
    (h : base.Mirrors names q q' base') (hbase : base.Unattended) (hbase' : base'.Unattended)
    (hcalls : base.calls = s.calls) (hcalls' : base'.calls = t.calls)
    (hm : Move.Mirrors names q q' m m') (hreply : reply.Mirrors q q' reply')
    (heq : s.perform a = base.conclude a m reply)
    (heq' : t.perform a' = base'.conclude a' m' reply') : Agree names q q' s a t a' where
  mirrors := by
    rw [heq, heq']
    exact h.conclude hbase hbase' hm a a' reply reply'
  replies := ⟨reply, reply', replies_of_conclude hbase hcalls heq,
    replies_of_conclude hbase' hcalls' heq', hreply⟩

/-! ### Actions on what queries share -/

theorem mention (h : s.Mirrors names q q' t) (m : ServiceMention) :
    (s.mention m).Mirrors names q q' (t.mention m) where
  __ := h
  world := h.world.mention m

/-- A bus is made and held in both sessions, if one can be built. -/
theorem performBus (h : s.Mirrors names q q' t) (hs : s.Unattended) (ht : t.Unattended)
    (name : String) (size : BusSize) :
    (s.perform (.bus name size)).Mirrors names q q' (t.perform (.bus name size)) := by
  have hcapacity : t.capacityOf size = s.capacityOf size := by
    cases size with
    | configured =>
      rw [capacityOf, h.world.config]
      rfl
    | events | default => rfl
  rw [perform, perform, hcapacity, h.world.busLimit]
  split
  · exact h.answer hs ht ..
  · next bus _ =>
    have hadd : ∀ w : World, w.Aside (w.addBus bus).1 := fun w => ⟨_, w.closedBuses, rfl⟩
    have hworld := (h.world.left (.of_aside (hadd s.world))).right (.of_aside (hadd t.world))
    apply conclude
    · refine { h with buses := ?_ }
      intro other
      rw [bus?_insert, bus?_insert]
      split
      · rfl
      · exact h.buses other
    · exact ⟨hs.unhooked, hs.passive, hs.discreet⟩
    · exact ⟨ht.unhooked, ht.passive, ht.discreet⟩
    · exact .still hworld

/-- A bus is held no longer in both sessions. -/
theorem performBusDrop (h : s.Mirrors names q q' t) (hs : s.Unattended) (ht : t.Unattended)
    (name : String) :
    (s.perform (.busDrop name)).Mirrors names q q' (t.perform (.busDrop name)) := by
  apply answer
  · refine { h with buses := ?_ }
    intro other
    rw [bus?_erase, bus?_erase]
    split
    · rfl
    · exact h.buses other
  · exact ⟨hs.unhooked, hs.passive, hs.discreet⟩
  · exact ⟨ht.unhooked, ht.passive, ht.discreet⟩

/-- A source gets an observer in one session, if there is one that can be observed. -/
theorem observeLeft (h : s.Mirrors names q q' t) (hs : s.Unattended) {target : TapTarget}
    {uses : Nat} {steps : List Action} (huses : uses = 0) {x : Source}
    {base : Session} (htarget : base.targetOf target = (s, x)) :
    (base.perform (.tap target name uses steps)).Mirrors names q q' t := by
  rw [perform, htarget]
  dsimp only
  split
  · exact h.answerLeft hs ..
  · exact h.watchLeft hs x huses ..

/-- A source gets an observer in both sessions. -/
theorem performTap (h : s.Mirrors names q q' t) (hs : s.Ready) (ht : t.Ready) (target : TapTarget)
    {uses : Nat} (huses : uses = 0) (steps : List Action) :
    (s.perform (.tap target name uses steps)).Mirrors names q q'
      (t.perform (.tap target name uses steps)) := by
  have hboth : ∀ {base base' : Session} {x : Source}, base.Mirrors names q q' base' →
      base.Unattended → base'.Unattended → s.targetOf target = (base, x) →
      t.targetOf target = (base', x) →
      (s.perform (.tap target name uses steps)).Mirrors names q q'
        (t.perform (.tap target name uses steps)) := by
    intro base base' x hbases hbase hbase' htarget htarget'
    exact ((hbases.observeLeft hbase huses htarget).symm.observeLeft hbase' huses htarget').symm
  cases target with
  | rooms | providers | registry => exact hboth h hs.toUnattended ht.toUnattended rfl rfl
  | presence m => exact hboth (h.mention m) (hs.mention m).1 (ht.mention m).1 rfl rfl

/-- **The presence in a room changes** for both sessions, if the service has a channel. -/
theorem performPresence (h : s.Mirrors names q q' t) (hs : s.Ready) (ht : t.Ready)
    (m : ServiceMention) (provider : Option ProviderId) (room identifier : String)
    (change : PresenceChange) :
    (s.perform (.presence m provider room identifier change)).Mirrors names q q'
      (t.perform (.presence m provider room identifier change)) := by
  obtain ⟨hsession, haccounts⟩ := hs.mention m
  obtain ⟨hsession', haccounts'⟩ := ht.mention m
  have hrel := (h.mention m).world.announcePresence haccounts haccounts' m.id provider room
    identifier change
  rw [perform, perform]
  revert hrel
  generalize (s.mention m).world.announcePresence? m.id provider room identifier change = move?
  generalize (t.mention m).world.announcePresence? m.id provider room identifier change = move?'
  intro hrel
  cases hrel with
  | none => exact (h.mention m).answer hsession hsession' ..
  | some hm => exact (h.mention m).conclude hsession hsession' hm ..

/-- **Actions on what queries share** are performed in both sessions. -/
theorem performShared (h : s.Mirrors names q q' t) (hs : s.Ready) (ht : t.Ready)
    (ha : a.isPlain = true) (hsubject : a.subject? = none)
    (hcreate : ∀ name text isTracked, a ≠ .create name text isTracked) :
    (s.perform a).Mirrors names q q' (t.perform a) := by
  have hs' := hs.toUnattended
  have ht' := ht.toUnattended
  -- what is announced depends on the directory and the registry, which are the same
  have hdirectory := h.world.directory
  have hidle : a.isIdle = true → (s.perform a).Mirrors names q q' (t.perform a) := fun hidle =>
    ((h.idleLeft hs' hidle).symm.idleLeft ht' hidle).symm
  cases a with
  | create name text isTracked => exact absurd rfl (hcreate name text isTracked)
  | afterRead steps => cases (isPlain_iff.mp ha).2.2
  -- an action on a query by name is not among these
  | drop | run | start | cancel | setStatus | listen | unlisten => cases hsubject
  -- the directory changes, and the change is announced
  | addRoom provider room =>
    refine h.conclude hs' ht' (h.world.restageAndAnnounce hs.accounts ht.accounts ?_ ?_ _ _) ..
    · rw [hdirectory]
    · exact h.world.registry
  | removeRoom provider name =>
    refine h.conclude hs' ht' ?_ ..
    rw [World.removeRoom, World.removeRoom, hdirectory]
    exact h.world.restageAndAnnounce hs.accounts ht.accounts rfl h.world.registry _ _
  | setAutoJoin provider name autoJoin =>
    refine h.conclude hs' ht' ?_ ..
    rw [World.setAutoJoin, World.setAutoJoin, hdirectory]
    exact h.world.restageAndAnnounce hs.accounts ht.accounts rfl h.world.registry _ _
  | addProvider provider rooms =>
    refine h.conclude hs' ht' (h.world.restageAndAnnounce hs.accounts ht.accounts ?_ ?_ _ _) ..
    · rw [hdirectory]
    · exact h.world.registry
  | removeProvider provider =>
    refine h.conclude hs' ht' (h.world.restageAndAnnounce hs.accounts ht.accounts ?_ ?_ _ _) ..
    · rw [hdirectory]
    · exact h.world.registry
  -- the change is only announced
  | announceRoom provider room change =>
    exact h.conclude hs' ht' (h.world.announce hs.accounts ht.accounts _ _) ..
  | announceProvider provider change =>
    exact h.conclude hs' ht' (h.world.announce hs.accounts ht.accounts _ _) ..
  -- a service that is mentioned for the first time is made in both worlds
  | register m =>
    obtain ⟨hsession, haccounts⟩ := hs.mention m
    obtain ⟨hsession', haccounts'⟩ := ht.mention m
    refine (h.mention m).conclude hsession hsession'
      ((h.world.mention m).restageAndAnnounce haccounts haccounts' ?_ ?_ _ _) ..
    · exact hdirectory
    · exact congrArg (· ++ [m.id]) h.world.registry
  | unregister m ownerStopping =>
    obtain ⟨hsession, haccounts⟩ := hs.mention m
    obtain ⟨hsession', haccounts'⟩ := ht.mention m
    have hannounce := (h.world.mention m).announce haccounts haccounts' .registrations
      (.registration ⟨m.id, .unregistering, ownerStopping⟩)
    exact (h.mention m).conclude hsession hsession' (hannounce.andThen (.withdraw m.id)) ..
  | announceRegistration m change ownerStopping =>
    obtain ⟨hsession, haccounts⟩ := hs.mention m
    obtain ⟨hsession', haccounts'⟩ := ht.mention m
    exact (h.mention m).conclude hsession hsession'
      ((h.world.mention m).announce haccounts haccounts' _ _) ..
  | presence m provider room identifier change =>
    exact h.performPresence hs ht m provider room identifier change
  | tap target name uses steps =>
    exact h.performTap hs ht target (beq_iff_eq.mp (isPlain_iff.mp ha).2.1) steps
  | cancelAll =>
    -- a query is listed once, so it has its turn once in each session
    refine h.conclude hs' ht' (h.world.cancelAll ?_ ?_) ..
    · exact hs.nodup.filter _
    · exact ht.nodup.filter _
  | bus name size => exact h.performBus hs' ht' name size
  | busDrop name => exact h.performBusDrop hs' ht' name
  -- what is left changes nothing that the query depends on
  | _ => exact hidle rfl

/-! ### Actions on the query -/

/-- **The query is made** in both sessions. -/
theorem create (h : s.Mirrors names q q' t) (hs : s.Ready) (ht : t.Ready)
    (hindex : q.index = s.world.queries.length) (hindex' : q'.index = t.world.queries.length)
    (name text : String) (isTracked : Bool) :
    Agree names q q' s (.create name text isTracked) t (.create name text isTracked) := by
  -- a query that is not there yet is not tracked
  have hnew : ∀ {s : Session} {q : QueryId}, s.Ready → q.index = s.world.queries.length →
      q ∉ s.world.tracked := by
    intro s q hs hindex hmem
    obtain ⟨query, hquery⟩ := hs.found q hmem
    have hlt := (List.getElem?_eq_some_iff.mp hquery).1
    omega
  have hid : ∀ {q : QueryId} {n : Nat}, q.index = n → (⟨n⟩ : QueryId) = q := by
    rintro ⟨index⟩ n rfl
    rfl
  have hworld := h.world.create hindex hindex' (hnew hs hindex) (hnew ht hindex') text isTracked
  -- both hold the new query under the name
  have hbases : Mirrors names q q'
      { s with
        labels := s.labels ++ [name]
        held := Keyed.insert Prod.fst (name, ⟨s.world.queries.length⟩) s.held }
      { t with
        labels := t.labels ++ [name]
        held := Keyed.insert Prod.fst (name, ⟨t.world.queries.length⟩) t.held } := by
    refine { h with
      held := ?_
      sorted := Keyed.sorted_insert h.sorted
      sorted' := Keyed.sorted_insert h.sorted' }
    intro other
    rw [query?_hold, query?_hold]
    split
    · exact iff_of_true (congrArg some (hid hindex')) (congrArg some (hid hindex))
    · exact h.held other
  have hbase := hs.toUnattended
  have hbase' := ht.toUnattended
  exact hbases.agree ⟨hbase.unhooked, hbase.passive, hbase.discreet⟩
    ⟨hbase'.unhooked, hbase'.passive, hbase'.discreet⟩ rfl rfl (.still hworld) (.same (.text text))
    rfl rfl

/-- Another query is made under a name, and what was held under it is let go of in the other
session. -/
theorem replace (h : s.Mirrors names q q' t) (hs : s.Unattended) (ht : t.Unattended)
    (hnew : q.index ≠ s.world.queries.length) (name text : String) (isTracked : Bool) :
    (s.perform (.create name text isTracked)).Mirrors names q q' (t.perform (.drop name)) := by
  have hne : (⟨s.world.queries.length⟩ : QueryId) ≠ q := fun heq => hnew (heq ▸ rfl)
  have hbases : Mirrors names q q'
      { s with
        labels := s.labels ++ [name]
        held := Keyed.insert Prod.fst (name, ⟨s.world.queries.length⟩) s.held }
      { t with held := Keyed.erase Prod.fst name t.held } := by
    refine { h with
      held := ?_
      sorted := Keyed.sorted_insert h.sorted
      sorted' := Keyed.sorted_erase h.sorted' }
    intro other
    rw [query?_hold, query?_letGo]
    by_cases hother : other = name
    · rw [if_pos hother, if_pos hother.symm]
      exact iff_of_false nofun fun hsome => hne (Option.some.inj hsome)
    · rw [if_neg hother, if_neg fun heq => hother heq.symm]
      exact h.held other
  have hmade := hbases.concludeLeft ⟨hs.unhooked, hs.passive, hs.discreet⟩
    (World.spares_still (World.leaves_createQuery s.world hnew text isTracked))
    (.create name text isTracked) (.text text)
  exact (hmade.symm.answerLeft ⟨ht.unhooked, ht.passive, ht.discreet⟩ (.drop name) _).symm

/-- **The query is held no longer** in both sessions. -/
theorem drop (h : s.Mirrors names q q' t) (hs : s.Unattended) (ht : t.Unattended)
    (hq : s.query? name = some q) (hq' : t.query? name = some q') :
    Agree names q q' s (.drop name) t (.drop name) := by
  have hbases : Mirrors names q q' { s with held := Keyed.erase Prod.fst name s.held }
      { t with held := Keyed.erase Prod.fst name t.held } := by
    refine { h with
      held := ?_
      sorted := Keyed.sorted_erase h.sorted
      sorted' := Keyed.sorted_erase h.sorted' }
    intro other
    rw [query?_letGo, query?_letGo]
    split
    · exact iff_of_false nofun nofun
    · exact h.held other
  refine hbases.agree ⟨hs.unhooked, hs.passive, hs.discreet⟩
    ⟨ht.unhooked, ht.passive, ht.discreet⟩ rfl rfl (.still h.world) (.same (.flag true)) ?_ ?_
  · rw [perform, hq]
    rfl
  · rw [perform, hq']
    rfl

/-- **Actions on the query** that change nothing that is held are performed in both sessions. -/
theorem performOwn (h : s.Mirrors names q q' t) (hs : s.Unattended) (ht : t.Unattended)
    (ha : a.request? = some name) (hq : s.query? name = some q) (hq' : t.query? name = some q') :
    Agree names q q' s a t a := by
  have hown := withQuery_of_some hq a
  have hown' := withQuery_of_some hq' a
  cases a with
  | run other | start other =>
    -- a request to begin may be refused, and only then does the query name itself
    cases ha
    obtain ⟨hm, hreply⟩ := h.world.run
    exact h.agree hs ht rfl rfl hm hreply.replyOf (hown _) (hown' _)
  | cancel other =>
    cases ha
    exact h.agree hs ht rfl rfl h.world.cancel (.same .done) (hown _) (hown' _)
  | setStatus other status =>
    cases ha
    obtain ⟨hm, hreply⟩ := h.world.setStatus status
    exact h.agree hs ht rfl rfl hm hreply.replyOf (hown _) (hown' _)
  | find other address =>
    cases ha
    -- the results are the same
    have hreply : Reply.Mirrors q q'
        (.entry ((s.world.query? q).bind fun query => query.results.find? address))
        (.entry ((t.world.query? q').bind fun query => query.results.find? address)) := by
      rw [h.world.bind_query? fun hm => by rw [hm.results]]
      exact .same _
    exact h.agree hs ht rfl rfl (.still h.world) hreply (hown _) (hown' _)
  | indexOf other address =>
    cases ha
    have hreply : Reply.Mirrors q q'
        (.position ((s.world.query? q).bind fun query => query.results.indexOf? address))
        (.position ((t.world.query? q').bind fun query => query.results.indexOf? address)) := by
      rw [h.world.bind_query? fun hm => by rw [hm.results]]
      exact .same _
    exact h.agree hs ht rfl rfl (.still h.world) hreply (hown _) (hown' _)
  | _ => cases ha

/-- A listener for the query finds that there is no such bus, in both sessions. -/
theorem listenFails (h : s.Mirrors names q q' t) (hs : s.Unattended) (ht : t.Unattended)
    (hq : s.query? name = some q) (hq' : t.query? name = some q') {bus : String}
    (hbus : s.bus? bus = none) (listener subscription subscription' : String)
    (reactions : List (Reaction Action)) :
    Agree names q q' s (.listen name listener subscription reactions (some bus)) t
      (.listen name listener subscription' reactions (some bus)) := by
  have hbus' : t.bus? bus = none := by
    rw [← Option.not_isSome_iff_eq_none, h.buses, hbus]
    exact Bool.false_ne_true
  refine h.agree hs ht rfl rfl (.still h.world) (.same (.failed .noBus)) ?_ ?_
  · exact (withQuery_of_some hq _ _).trans (withBus_of_none hbus _ _)
  · exact (withQuery_of_some hq' _ _).trans (withBus_of_none hbus' _ _)

/-- **The query gets a subscriber** in both sessions, and the subscriptions correspond. -/
theorem listen {names' : Translation} (h : s.Mirrors names q q' t) (hs : s.Unattended)
    (ht : t.Unattended) (hq : s.query? name = some q) (hq' : t.query? name = some q')
    {query : Query} (hquery : s.world.query? q = some query) {bus : Option String}
    (hbus : ∀ b, bus = some b → (s.bus? b).isSome = true)
    (hnames : ∀ {id id'}, names id id' → names' id id')
    (hnew : names' s.world.nextSubscription t.world.nextSubscription)
    (listener subscription subscription' : String) {reactions : List (Reaction Action)}
    (hreactions : reactions = []) :
    Agree names' q q' s (.listen name listener subscription reactions bus) t
      (.listen name listener subscription' reactions bus) := by
  -- a bus is held in both sessions or in neither
  have hbus' : ∀ b, bus = some b → (t.bus? b).isSome = true := by
    intro b hb
    rw [h.buses]
    exact hbus b hb
  obtain ⟨subscriber, listeners, hpassive, heq⟩ :=
    perform_listen hq hs.passive hbus listener subscription hreactions
  obtain ⟨subscriber', listeners', hpassive', heq'⟩ :=
    perform_listen hq' ht.passive hbus' listener subscription' hreactions
  have hold := h.mono hnames
  have hbases : Mirrors names' q q'
      { s with
        listeners := listeners
        subscriptions :=
          Keyed.insert Prod.fst (subscription, s.world.nextSubscription) s.subscriptions }
      { t with
        listeners := listeners'
        subscriptions :=
          Keyed.insert Prod.fst (subscription', t.world.nextSubscription) t.subscriptions } :=
    { hold with }
  have hm : Move.Mirrors names' q q' (.still (s.world.subscribe q subscriber).1)
      (.still (t.world.subscribe q' subscriber').1) :=
    .still (hold.world.subscribe hquery hnew subscriber subscriber')
  exact hbases.agree ⟨hs.unhooked, hpassive, hs.discreet⟩ ⟨ht.unhooked, hpassive', ht.discreet⟩
    rfl rfl hm (.same .done) heq heq'

/-- **A subscription to the query ends** in both sessions, or is to no subscriber of the query in
both. -/
theorem unlisten (h : s.Mirrors names q q' t) (hs : s.Unattended) (ht : t.Unattended)
    (hq : s.query? name = some q) (hq' : t.query? name = some q')
    {query : Query} (hquery : s.world.query? q = some query) {handle handle' : String}
    (hnone : s.subscription? handle = none → t.subscription? handle' = none)
    (hsome : ∀ {id i i'}, s.subscription? handle = some id → names i i' →
      (t.subscription? handle' = some i' ↔ i = id)) :
    Agree names q q' s (.unlisten name handle) t (.unlisten name handle') := by
  have hperform := perform_unlisten hq handle
  have hperform' := perform_unlisten hq' handle'
  cases hid : s.subscription? handle with
  | none =>
    rw [hid] at hperform
    rw [hnone hid] at hperform'
    exact h.agree hs ht rfl rfl (.still h.world) (.same (.flag false)) hperform hperform'
  | some id =>
    have hsome' : ∀ {i i'}, names i i' → (t.subscription? handle' = some i' ↔ i = id) :=
      fun hi => hsome hid hi
    rw [hid] at hperform
    cases hid' : t.subscription? handle' with
    | some id' =>
      -- the subscription is held in both sessions
      rw [hid'] at hperform'
      have hcorrespond : ∀ {i i'}, names i i' → (i' = id' ↔ i = id) := by
        intro i i' hi
        rw [← hsome' hi, hid', Option.some.injEq]
        exact eq_comm
      obtain ⟨hflag, hworld⟩ := h.world.unsubscribe hcorrespond
      dsimp only at hperform'
      rw [hflag] at hperform'
      exact h.agree hs ht rfl rfl (.still hworld) (.same (.flag _)) hperform hperform'
    | none =>
      -- the subscription is to another query
      rw [hid'] at hperform'
      obtain ⟨query', -, hm⟩ := h.world.exists hquery
      have hnot : (query.subscribers.any fun v => v.1 == id) = false := by
        rw [List.any_eq_false]
        intro v hv
        obtain ⟨v', hnamed⟩ := exists_of_forall₂ hm.subscribers hv
        rw [beq_iff_eq]
        intro heq
        have hbound := (hsome' hnamed).mpr heq
        rw [hid'] at hbound
        cases hbound
      dsimp only at hperform
      rw [World.unsubscribe_of_not_any hquery hnot] at hperform
      exact h.agree hs ht rfl rfl (.still h.world) (.same (.flag false)) hperform hperform'

end Mirrors

end Session

end RoomSearch
