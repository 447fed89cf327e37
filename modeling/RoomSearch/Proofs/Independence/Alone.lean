import RoomSearch.Proofs.Independence.SideBySide
import RoomSearch.Proofs.Tracking

/-!
# Actions in one of two sessions

Two sessions mirror each other as far as a query goes.  If one of them performs an action on another
query, or an action that looks at things only, and the other one does not, they still do.

## Main definitions

* `Action.subject?` — the name of the query that an action acts on.
* `Action.isIdle` — actions that look at things only, or are about the readers of buses.
* `Session.Ready` — what actions can rely on.

## Main results

* `Session.Mirrors.createLeft`, `Session.Mirrors.actLeft` — **actions on other queries.**
* `Session.Mirrors.idleLeft` — actions that look at things only.
-/

namespace RoomSearch

/-- The name of the query that an action acts on, other than by making one. -/
def Action.subject? : Action → Option String
  | .drop name | .run name | .start name | .cancel name => some name
  | .setStatus name _ => some name
  | .listen name .. => some name
  | .unlisten name _ => some name
  | _ => none

/-- Whether an action does no more than look at things, or is about the readers of buses. -/
def Action.isIdle : Action → Bool
  | .find .. | .indexOf .. | .overview | .source | .active | .directory | .findRoom .. | .publish ..
  | .receiver .. | .receiverDrop _ | .receivers _ | .tryReceive _ | .receive _ => true
  | _ => false

namespace Session

/-- What actions can rely on in a session that can be reached. -/
structure Ready (s : Session) : Prop extends Unattended s where
  accounts : s.world.Accounts
  named : ∀ {name p}, s.query? name = some p →
    ∃ query, s.world.query? p = some query ∧ query.alive = true
  nodup : s.world.tracked.Nodup
  found : ∀ p ∈ s.world.tracked, ∃ query, s.world.query? p = some query

variable {names : Translation} {q q' p : QueryId} {s t : Session} {m m' : Move} {a : Action}
  {name : String}

theorem Plain.ready (hs : s.Plain) (calls : List Call) : Ready { s with calls := calls } where
  toUnattended := ⟨hs.unhooked, hs.passive, hs.discreet⟩
  accounts := hs.sound.accounts
  named := hs.sound.named
  nodup := by
    obtain ⟨made, hlogged⟩ : ∃ made, Logged Unrestricted tracks made s := exists_logged hs.reachable
    exact hlogged.accounted.nodup.sublist hlogged.accounted.kept
  found := by
    obtain ⟨made, hlogged⟩ : ∃ made, Logged Unrestricted tracks made s := exists_logged hs.reachable
    exact fun p hp => hlogged.accounted.found p (hlogged.accounted.kept.subset hp)

/-- A listener without reactions is there. -/
theorem Passive.insertNew (hs : s.Passive) {listener : String} {reactions : List (Reaction Action)}
    (hreactions : reactions = []) :
    ∀ l ∈ Keyed.insertNew Listener.name ⟨listener, reactions⟩ s.listeners, l.reactions = [] := by
  intro l hl
  rcases Keyed.eq_or_mem_of_mem_insertNew hl with rfl | hl
  · exact hreactions
  · exact hs l hl

/-! ### Names -/

theorem query?_hold (s : Session) (labels : List String) (name other : String) (p : QueryId) :
    query? { s with labels := labels, held := Keyed.insert Prod.fst (name, p) s.held } other =
      if name = other then some p else s.query? other := by
  rw [query?, Keyed.find?_insert]
  split
  · rfl
  · rfl

theorem query?_letGo (s : Session) (name other : String) :
    query? { s with held := Keyed.erase Prod.fst name s.held } other =
      if other = name then none else s.query? other := by
  rw [query?, Keyed.find?_erase]
  split
  · rfl
  · rfl

namespace Mirrors

/-! ### One session changes -/

theorem withWorldLeft (h : s.Mirrors names q q' t) {w : World} (hw : World.Leaves q s.world w) :
    Mirrors names q q' { s with world := w } t where
  __ := h
  world := h.world.left hw

theorem withHeldLeft (h : s.Mirrors names q q' t) {labels : List String}
    {held : List (String × QueryId)} (hsorted : Keyed.Sorted Prod.fst held)
    (hheld : ∀ name, query? { s with labels := labels, held := held } name = some q ↔
      s.query? name = some q) :
    Mirrors names q q' { s with labels := labels, held := held } t where
  __ := h
  held name := (h.held name).trans (hheld name).symm
  sorted := hsorted

theorem concludeLeft (h : s.Mirrors names q q' t) (hs : s.Unattended) (hm : s.world.Spares q m)
    (a : Action) (reply : Reply) : (s.conclude a m reply).Mirrors names q q' t := by
  rw [hs.conclude]
  refine h.takingLeft hm ?_
  intro c hc
  rw [List.mem_singleton.mp hc]
  trivial

theorem answerLeft (h : s.Mirrors names q q' t) (hs : s.Unattended) (a : Action) (reply : Reply) :
    (s.answer a reply).Mirrors names q q' t :=
  h.concludeLeft hs (World.spares_still (.refl q s.world)) a reply

/-! ### Actions on other queries -/

/-- **Another query is made**, under a name that the query is not held under. -/
theorem createLeft (h : s.Mirrors names q q' t) (hs : s.Unattended)
    (hnew : q.index ≠ s.world.queries.length) (hname : s.query? name ≠ some q) (text : String)
    (isTracked : Bool) : (s.perform (.create name text isTracked)).Mirrors names q q' t := by
  have hne : (⟨s.world.queries.length⟩ : QueryId) ≠ q := fun heq => hnew (heq ▸ rfl)
  apply concludeLeft
  · refine h.withHeldLeft (Keyed.sorted_insert h.sorted) ?_
    intro other
    rw [query?_hold]
    split
    · next heq =>
      subst heq
      exact iff_of_false (fun hsome => hne (Option.some.inj hsome)) hname
    · rfl
  · exact ⟨hs.unhooked, hs.passive, hs.discreet⟩
  · exact World.spares_still (World.leaves_createQuery s.world hnew text isTracked)

/-- A query is held no longer, which is another one. -/
theorem dropLeft (h : s.Mirrors names q q' t) (hs : s.Unattended)
    (hname : s.query? name ≠ some q) : (s.perform (.drop name)).Mirrors names q q' t := by
  apply answerLeft
  · refine h.withHeldLeft (Keyed.sorted_erase h.sorted) ?_
    intro other
    rw [query?_letGo]
    split
    · next heq =>
      subst heq
      exact iff_of_false nofun hname
    · rfl
  · exact ⟨hs.unhooked, hs.passive, hs.discreet⟩

theorem subscribeLeft (h : s.Mirrors names q q' t) (hs : s.Unattended) {subscriber : Subscriber}
    (hleaves : World.Leaves q s.world (s.world.subscribe p subscriber).1) (a : Action)
    (name : String) : (s.subscribe a p subscriber name).Mirrors names q q' t := by
  rw [subscribe_eq]
  apply concludeLeft
  · exact { h with }
  · exact ⟨hs.unhooked, hs.passive, hs.discreet⟩
  · exact World.spares_still hleaves

theorem listenLeft (h : s.Mirrors names q q' t) (hs : s.Unattended) (hp : s.query? name = some p)
    (hleaves : ∀ subscriber, World.Leaves q s.world (s.world.subscribe p subscriber).1)
    {listener subscription : String} {reactions : List (Reaction Action)} {bus : Option String}
    (hpassive : reactions = []) :
    (s.perform (.listen name listener subscription reactions bus)).Mirrors names q q' t := by
  rw [perform, withQuery_of_some hp]
  cases bus with
  | some bus =>
    dsimp only
    rw [withBus]
    split
    · exact h.answerLeft hs ..
    · exact h.subscribeLeft hs (hleaves _) ..
  | none =>
    apply subscribeLeft
    · exact { h with }
    · exact ⟨hs.unhooked, hs.passive.insertNew hpassive, hs.discreet⟩
    · exact hleaves _

/-- **Actions on other queries**, or on none, spare the query. -/
theorem actLeft (h : s.Mirrors names q q' t) (hs : s.Ready) (ha : a.isPlain = true)
    (hsubject : a.subject? = some name) (hname : s.query? name ≠ some q) :
    (s.perform a).Mirrors names q q' t := by
  have hattended := hs.toUnattended
  -- the name stands for another query, or for none
  have hwith : ∀ {f : QueryId → Session},
      (∀ p, s.query? name = some p → p ≠ q → (f p).Mirrors names q q' t) →
      (s.withQuery a name f).Mirrors names q q' t := by
    intro f hf
    unfold withQuery
    split
    · exact h.answerLeft hattended ..
    · next p hp =>
      refine hf p hp ?_
      rintro rfl
      exact hname hp
  cases a with
  | drop other =>
    cases hsubject
    exact h.dropLeft hattended hname
  | run other | start other =>
    cases hsubject
    refine hwith fun p hp hne => h.concludeLeft hattended ?_ _ _
    exact (World.runs_run s.world p).spares hne
  | cancel other =>
    cases hsubject
    exact hwith fun p hp hne => h.concludeLeft hattended (World.spares_cancel s.world hne) _ _
  | setStatus other status =>
    cases hsubject
    refine hwith fun p hp hne => h.concludeLeft hattended ?_ _ _
    exact (World.sets_setStatus s.world p status).spares hne
  | listen other listener subscription reactions bus =>
    cases hsubject
    cases hp : s.query? name with
    | none =>
      rw [perform, withQuery_of_none hp]
      exact h.answerLeft hattended ..
    | some p =>
      obtain ⟨query, hquery, halive⟩ := hs.named hp
      -- the subscriber listens to another query
      have hne : p ≠ q := fun heq => hname (heq ▸ hp)
      refine h.listenLeft hattended hp ?_ (List.isEmpty_iff.mp (isPlain_iff.mp ha).1)
      exact fun subscriber => World.leaves_subscribe hs.accounts hne hquery halive subscriber
  | unlisten other subscription =>
    cases hsubject
    refine hwith fun p hp hne => ?_
    obtain ⟨query, hquery, -⟩ := hs.named hp
    split
    · exact h.answerLeft hattended ..
    · refine h.concludeLeft hattended ?_ _ _
      exact World.spares_still (World.leaves_unsubscribe hs.accounts hne hquery _)
  | _ => cases hsubject

/-! ### Actions that look at things only -/

theorem withBusLeft (h : s.Mirrors names q q' t) (hs : s.Unattended) {f : BusId → Session}
    (hf : ∀ b, (f b).Mirrors names q q' t) : (s.withBus a name f).Mirrors names q q' t := by
  unfold withBus
  split
  · exact h.answerLeft hs ..
  · exact hf _

theorem withReceiverLeft (h : s.Mirrors names q q' t) (hs : s.Unattended)
    {f : BusId → ReaderId → Session} (hf : ∀ b r, (f b r).Mirrors names q q' t) :
    (s.withReceiver a name f).Mirrors names q q' t := by
  unfold withReceiver
  split
  · exact h.answerLeft hs ..
  · exact hf _ _

theorem busLeft (h : s.Mirrors names q q' t) (b : BusId)
    (f : Bus (Event Origin) → Bus (Event Origin)) :
    Mirrors names q q' { s with world := s.world.modifyBus b f } t :=
  h.withWorldLeft (.of_aside (aside_modifyBus s.world b f))

theorem endReaderLeft (h : s.Mirrors names q q' t) (hs : s.Unattended) (name : String) :
    (s.endReader name).Mirrors names q q' t ∧ (s.endReader name).Unattended := by
  unfold endReader
  split
  · exact ⟨h, hs⟩
  · exact ⟨h.busLeft _ _, hs.unhooked, hs.passive, hs.discreet⟩

theorem readBusLeft (h : s.Mirrors names q q' t) (hs : s.Unattended) (b : BusId) (r : ReaderId) :
    (s.readBus b r).2.1.Mirrors names q q' t ∧ (s.readBus b r).2.1.Unattended := by
  unfold readBus
  split
  · exact ⟨h, hs⟩
  · exact ⟨h.busLeft _ _, hs.unhooked, hs.passive, hs.discreet⟩

/-- A source gets an observer that does not act. -/
theorem watchLeft (h : s.Mirrors names q q' t) (hs : s.Unattended) (x : Source) {tap : Tap}
    (htap : tap.uses = 0) (a : Action) (reply : Reply) :
    (conclude { s with taps := s.taps ++ [tap] } a
      (.still (s.world.watch x (.tap ⟨s.taps.length⟩)).1) reply).Mirrors names q q' t := by
  apply concludeLeft
  · exact { h with }
  · refine ⟨hs.unhooked, hs.passive, ?_⟩
    intro other hother
    rcases List.mem_append.mp hother with hother | hother
    · exact hs.discreet other hother
    · rwa [List.mem_singleton.mp hother]
  · exact World.spares_still (.watch s.world x _)

/-- **Actions that look at things only**, or are about the readers of buses, spare all queries. -/
theorem idleLeft (h : s.Mirrors names q q' t) (hs : s.Unattended) (ha : a.isIdle = true) :
    (s.perform a).Mirrors names q q' t := by
  cases a with
  | find name address | indexOf name address =>
    rw [perform, withQuery]
    split <;> exact h.answerLeft hs ..
  | overview | source | active => exact h.answerLeft hs ..
  | directory =>
    exact { h with calls := .left trivial h.calls }
  | findRoom provider room =>
    refine h.concludeLeft hs ⟨.refl q s.world, List.forall_mem_nil _, rfl⟩ ..
  | publish name event =>
    refine h.withBusLeft hs fun b => h.concludeLeft hs (World.spares_still ?_) _ _
    exact .of_aside (aside_modifyBus ..)
  | receiver busName name =>
    rw [perform]
    apply h.withBusLeft hs
    intro b
    dsimp only
    split
    · exact h.answerLeft hs ..
    · next bus _ =>
      -- the new reader begins at the end of the bus, and the one before it is ended
      have hreader : Unattended { s with world := s.world.modifyBus b fun _ => bus.subscribe.1 } :=
        ⟨hs.unhooked, hs.passive, hs.discreet⟩
      have hbus := h.busLeft b fun _ => bus.subscribe.1
      obtain ⟨hended, hattended⟩ := hbus.endReaderLeft hreader name
      apply answerLeft
      · exact { hended with }
      · exact ⟨hattended.unhooked, hattended.passive, hattended.discreet⟩
  | receiverDrop name =>
    obtain ⟨hended, hattended⟩ := h.endReaderLeft hs name
    apply answerLeft
    · exact { hended with }
    · exact ⟨hattended.unhooked, hattended.passive, hattended.discreet⟩
  | receivers name => exact h.withBusLeft hs fun b => h.answerLeft hs ..
  | tryReceive name =>
    refine h.withReceiverLeft hs fun b r => ?_
    obtain ⟨hread, hattended⟩ := h.readBusLeft hs b r
    exact hread.answerLeft hattended ..
  | receive name =>
    rw [perform]
    apply h.withReceiverLeft hs
    intro b r
    obtain ⟨hread, hattended⟩ := h.readBusLeft hs b r
    dsimp only
    split <;> exact hread.answerLeft hattended ..
  | _ => cases ha

end Mirrors

end Session

end RoomSearch
