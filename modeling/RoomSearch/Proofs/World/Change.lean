import Mathlib.Logic.Relation
import RoomSearch.Proofs.World.Accounts
import RoomSearch.Proofs.World.Moves

/-!
# The elementary changes of a world

Every task and every call from outside is a chain of elementary changes.  What they keep is
therefore kept by all that can happen, whatever the order; an invariant of worlds is proved for nine
changes and not for some forty tasks and calls.

## Main definitions

* `World.Change` — one elementary change.
* `World.Chain` — elementary changes one after the other.
* `World.Later` — what all changes have in common: nothing is forgotten and no identity is given
  out twice.

## Main results

* `Advances.chain` — a task goes on by a chain.
* `Accounts.of_chain`, `Later.of_chain`, `alive_of_chain` — what chains keep.
-/

namespace RoomSearch

/-- What never goes back about a query. -/
structure Query.Grows (a b : Query) : Prop where
  matcher : b.matcher = a.matcher
  started : a.started = true → b.started = true
  canceled : a.status = .canceled → b.status = .canceled
  alive : b.alive = true → a.alive = true

theorem Query.Grows.refl (a : Query) : a.Grows a := ⟨rfl, id, id, id⟩

theorem Query.Grows.trans {a b c : Query} (h : a.Grows b) (h' : b.Grows c) : a.Grows c where
  matcher := h'.matcher.trans h.matcher
  started hs := h'.started (h.started hs)
  canceled hc := h'.canceled (h.canceled hc)
  alive ha := h.alive (h'.alive ha)

namespace World

/-- One elementary change of a world. -/
inductive Change : World → World → Prop where
  /-- Something that has nothing to do with queries: the directory, the registry, a bus. -/
  | aside {w w' : World} (hqueries : w'.queries = w.queries)
      (hfeed : ∀ x, w'.feed? x = w.feed? x) (hservices : w'.services = w.services)
      (hnext : w'.nextSubscription = w.nextSubscription) : Change w w'
  /-- The results of a query, its status, its epoch. -/
  | edit {w : World} (q : QueryId) (f : Query → Query)
      (hf : ∀ query, w.query? q = some query → query.SameTies (f query)) :
      Change w (w.modifyQuery q f)
  /-- A query is made. -/
  | create {w : World} (text : String) (isTracked : Bool) :
      Change w (w.createQuery text isTracked).1
  /-- A subscriber comes to a query that is referred to. -/
  | subscribe {w : World} {q : QueryId} {query : Query} (hq : w.query? q = some query)
      (halive : query.alive = true) (subscriber : Subscriber) :
      Change w (w.subscribe q subscriber).1
  /-- A subscriber goes. -/
  | unsubscribe {w : World} {q : QueryId} {query : Query} {id : SubscriptionId}
      (hq : w.query? q = some query) (hany : (query.subscribers.any fun s => s.1 == id) = true) :
      Change w (w.unsubscribe q id).1
  /-- A query is canceled. -/
  | cancel {w : World} {q : QueryId} {query : Query} (hq : w.query? q = some query) :
      Change w (w.cancel q).world
  /-- A query follows the registry. -/
  | follow {w : World} {q : QueryId} {query : Query} (hq : w.query? q = some query)
      (notice : RegistrationNotice ServiceId) : Change w (w.followRegistry q query notice).world
  /-- A service is mentioned. -/
  | mention {w : World} (s : ServiceId) (provider : ProviderId) (hasChannel : Bool) :
      Change w (w.ensureService s provider hasChannel)
  /-- An observer of a source comes. -/
  | tap {w : World} {x : Source} (hfeed : w.feed? x ≠ none) (t : TapId) :
      Change w (w.watch x (.tap t)).1

/-- Elementary changes one after the other. -/
abbrev Chain : World → World → Prop := Relation.ReflTransGen Change

variable {w w' : World}

/-! ### Tasks are chains -/

theorem chain_edit (w : World) (q : QueryId) {f : Query → Query}
    (hf : ∀ query, w.query? q = some query → query.SameTies (f query)) :
    Chain w (w.modifyQuery q f) := .single (.edit q f hf)

theorem chain_change (w : World) (q : QueryId) (outcome : List News × ResultSet) :
    Chain w (w.change q outcome).world := by
  rw [change, world_commit]
  exact chain_edit w q fun _ _ => ⟨rfl, rfl, rfl, rfl, rfl, Iff.rfl, id⟩

theorem chain_advanceEpoch (w : World) (q : QueryId) :
    Chain w (w.modifyQuery q Query.advanceEpoch) :=
  chain_edit w q fun _ _ => ⟨rfl, rfl, rfl, rfl, rfl, Iff.rfl, id⟩

/-- A query that runs is completed. -/
theorem chain_complete {q : QueryId} {query : Query} (hq : w.query? q = some query)
    (hrunning : query.status = .running) : Chain w (w.moveTo q .completed).world := by
  rw [moveTo, world_commit]
  refine chain_edit w q ?_
  intro query' hq'
  cases Option.some.inj (hq.symm.trans hq')
  refine ⟨rfl, rfl, rfl, rfl, rfl, ?_, id⟩
  rw [hrunning]
  show Status.completed = .canceled ↔ Status.running = .canceled
  decide

theorem Follows.chain {q : QueryId} {query : Query} {notice : Notice} {m : Move}
    (h : w.Follows q query notice m) (hq : w.query? q = some query) : Chain w m.world := by
  cases h with
  | still => exact .refl
  | presence => exact chain_change w q _
  | joined => exact .refl
  | rooms | gone => exact (chain_advanceEpoch w q).trans (chain_change ..)
  | entered => exact chain_advanceEpoch w q
  | registration notice => exact .single (.follow hq notice)

theorem chain_follow (w : World) (q : QueryId) (notice : Notice) :
    Chain w (w.follow q notice).world := by
  rcases follow_spec w q notice with hstill | ⟨query, hq, hfollows⟩
  · rw [hstill]
    exact .refl
  · exact hfollows.chain hq

theorem chain_cancel (w : World) (q : QueryId) : Chain w (w.cancel q).world := by
  cases hq : w.query? q with
  | none =>
    rw [cancel, hq]
    exact .refl
  | some query => exact .single (.cancel hq)

/-- **A task goes on** by a chain of elementary changes. -/
theorem Advances.chain {t : Task} {m : Move} (h : w.Advances t m) : Chain w m.world := by
  cases h with
  | spent | dropped | tap | scan | rescan | search | hear => exact .refl
  | tell notice q rest => exact chain_follow w q notice
  | withdraw | publish =>
    exact .single (.aside rfl (fun _ => feed?_congr rfl rfl rfl rfl _) rfl rfl)
  | mergeJoined | merge => exact chain_change ..
  | complete hq hrunning => exact chain_complete hq hrunning
  | cancelEach q rest => exact chain_cancel w q

/-! ### Requests are chains -/

theorem Runs.chain {q : QueryId} {m : Move} (h : w.Runs q m) : Chain w m.world := by
  have hstart : Chain w (w.modifyQuery q fun query => { query with started := true }) :=
    chain_edit w q fun _ _ => ⟨rfl, rfl, rfl, rfl, rfl, Iff.rfl, fun _ => rfl⟩
  cases h with
  | still => exact .refl
  | late | search => exact hstart

theorem Sets.chain {q : QueryId} {m : Move} (h : w.Sets q m) : Chain w m.world := by
  cases h with
  | still => exact .refl
  | canceled => exact chain_cancel w q
  | completed hq hrunning => exact chain_complete hq hrunning

/-! ### What chains keep -/

theorem Accounts.of_change (h : w.Accounts) (hchange : Change w w') : w'.Accounts := by
  cases hchange with
  | aside hqueries hfeed hservices hnext => exact h.of_eq hqueries hfeed hservices hnext
  | edit q f hf => exact h.edit hf
  | create text isTracked => exact h.createQuery text isTracked
  | subscribe hq halive subscriber => exact (h.subscribe hq halive subscriber).accounts
  | unsubscribe hq hany => exact (h.unsubscribe hq hany).accounts
  | cancel hq => exact (h.cancel hq).accounts
  | follow hq notice => exact (h.followRegistry hq notice).accounts
  | mention s provider hasChannel => exact h.ensureService s provider hasChannel
  | tap hfeed t => exact h.watch_tap hfeed t

/-- **The accounts stay balanced** along a chain. -/
theorem Accounts.of_chain (h : w.Accounts) (hchain : Chain w w') : w'.Accounts := by
  induction hchain with
  | refl => exact h
  | tail _ hchange ih => exact ih.of_change hchange

/-- What all changes have in common: queries stay, what has begun or ended stays so, and no identity
of a subscription is given out twice. -/
structure Later (w w' : World) : Prop where
  /-- Identities of subscriptions are given out in order. -/
  next : w.nextSubscription.number ≤ w'.nextSubscription.number
  /-- A query stays, with what it searches for. -/
  kept : ∀ {q query}, w.query? q = some query → ∃ query', w'.query? q = some query' ∧
    query.Grows query'
  /-- A subscriber that is not new was there before. -/
  old : ∀ {q query' v}, w'.query? q = some query' → v ∈ query'.subscribers →
    v.1.number < w.nextSubscription.number → ∃ query, w.query? q = some query ∧
    v ∈ query.subscribers

namespace Later

variable {w'' : World} {q : QueryId} {query query' : Query}

theorem refl (w : World) : Later w w :=
  ⟨Nat.le_refl _, fun hq => ⟨_, hq, .refl _⟩, fun hq hv _ => ⟨_, hq, hv⟩⟩

theorem trans (h : Later w w') (h' : Later w' w'') : Later w w'' where
  next := Nat.le_trans h.next h'.next
  kept hq := by
    obtain ⟨query', hq', hgrows⟩ := h.kept hq
    obtain ⟨query'', hq'', hgrows'⟩ := h'.kept hq'
    exact ⟨query'', hq'', hgrows.trans hgrows'⟩
  old hq hv hlt := by
    obtain ⟨query', hq', hv'⟩ := h'.old hq hv (Nat.lt_of_lt_of_le hlt h.next)
    exact h.old hq' hv' hlt

/-- A change that leaves the queries alone. -/
theorem of_queries_eq (hqueries : w'.queries = w.queries)
    (hnext : w.nextSubscription.number ≤ w'.nextSubscription.number) : Later w w' where
  next := hnext
  kept hq := ⟨_, (query?_of_queries_eq hqueries _).trans hq, .refl _⟩
  old hq hv _ := ⟨_, (query?_of_queries_eq hqueries _).symm.trans hq, hv⟩

/-- A change of one query. -/
theorem of_amends (h : w.Amends w' q query') (hq : w.query? q = some query)
    (hgrows : query.Grows query')
    (hsub : ∀ v ∈ query'.subscribers, v.1.number < w.nextSubscription.number →
      v ∈ query.subscribers) : Later w w' := by
  obtain ⟨a, hq'⟩ := h.found
  refine ⟨h.rewires.next, ?_, ?_⟩
  · intro p old hp
    rcases eq_or_query?_of_others h.rewires.others hq hp with ⟨rfl, rfl⟩ | ⟨-, hold⟩
    · exact ⟨_, hq', hgrows.matcher, hgrows.started, hgrows.canceled, hgrows.alive⟩
    · exact ⟨old, hold, .refl old⟩
  · intro p new v hp hv hlt
    have hothers := fun hne : p ≠ q => (h.rewires.others hne).symm
    rcases eq_or_query?_of_others hothers hq' hp with ⟨rfl, rfl⟩ | ⟨-, hnew⟩
    · exact ⟨query, hq, hsub v hv hlt⟩
    · exact ⟨new, hnew, hv⟩

theorem of_change (h : w.Accounts) (hchange : Change w w') : Later w w' := by
  cases hchange with
  | aside hqueries hfeed hservices hnext =>
    exact of_queries_eq hqueries (Nat.le_of_eq (congrArg SubscriptionId.number hnext.symm))
  | edit q f hf =>
    cases hq : w.query? q with
    | none =>
      rw [modifyQuery_of_none hq]
      exact .refl w
    | some query =>
      -- an edit leaves what a query is tied to
      have hties := hf query hq
      refine of_amends (h.modifyQuery hq hties.attachment ((h.consistent hq).of_sameTies hties) ?_)
        hq ⟨hties.matcher, hties.started, hties.canceled.mpr, fun halive => hties.alive ▸ halive⟩ ?_
      · exact fun v hv => hties.subscribers ▸ hv
      · exact fun v hv _ => hties.subscribers ▸ hv
  | create text isTracked =>
    refine ⟨Nat.le_refl _, ?_, ?_⟩
    · intro q query hq
      exact ⟨query, query?_createQuery_of_some text isTracked hq, .refl query⟩
    · intro q query v hq hv _
      rw [query?_createQuery] at hq
      split at hq
      · -- the query that has just been made has no subscribers
        cases hq
        cases hv
      · exact ⟨query, hq, hv⟩
  | subscribe hq halive subscriber =>
    refine of_amends (h.subscribe hq halive subscriber) hq ⟨rfl, id, id, id⟩ ?_
    intro v hv hlt
    rcases List.mem_append.mp hv with hv | hv
    · exact hv
    · -- the new subscriber comes with a new identity
      rw [List.mem_singleton.mp hv] at hlt
      exact absurd hlt (Nat.lt_irrefl _)
  | unsubscribe hq hany =>
    exact of_amends (h.unsubscribe hq hany) hq ⟨rfl, id, id, id⟩ fun v hv _ =>
      List.mem_of_mem_eraseP hv
  | cancel hq => exact of_amends (h.cancel hq) hq ⟨rfl, id, fun _ => rfl, id⟩ fun v hv _ => hv
  | follow hq notice =>
    exact of_amends (h.followRegistry hq notice) hq (.refl _) fun v hv _ => hv
  | mention s provider hasChannel => exact of_queries_eq rfl (Nat.le_refl _)
  | tap hfeed t =>
    refine of_queries_eq (queries_modifyFeed ..) ?_
    rw [nextSubscription_watch]
    exact Nat.le_succ _

/-- **What all changes have in common** holds along a chain. -/
theorem of_chain (h : w.Accounts) (hchain : Chain w w') : Later w w' := by
  induction hchain with
  | refl => exact .refl w
  | tail hchain hchange ih => exact ih.trans (.of_change (h.of_chain hchain) hchange)

end Later

/-! ### Queries stay alive -/

/-- A change of one query that leaves it alive. -/
theorem alive_of_amends {q p : QueryId} {query query' old : Query} (h : w.Amends w' q query')
    (hq : w.query? q = some query) (halive : query'.alive = query.alive)
    (hp : w.query? p = some old) : ∃ new, w'.query? p = some new ∧ new.alive = old.alive := by
  obtain ⟨a, hfound⟩ := h.found
  rcases eq_or_query?_of_others h.rewires.others hq hp with ⟨rfl, rfl⟩ | ⟨-, hold⟩
  · exact ⟨_, hfound, halive⟩
  · exact ⟨old, hold, rfl⟩

theorem alive_of_change {p : QueryId} {old : Query} (h : w.Accounts) (hchange : Change w w')
    (hp : w.query? p = some old) : ∃ new, w'.query? p = some new ∧ new.alive = old.alive := by
  cases hchange with
  | aside hqueries => exact ⟨old, (query?_of_queries_eq hqueries p).trans hp, rfl⟩
  | edit q f hf =>
    rw [query?_modifyQuery]
    split
    · next heq =>
      subst heq
      rw [hp]
      exact ⟨_, rfl, (hf old hp).alive⟩
    · exact ⟨old, hp, rfl⟩
  | create text isTracked =>
    exact ⟨old, query?_createQuery_of_some text isTracked hp, rfl⟩
  | subscribe hq halive subscriber =>
    exact alive_of_amends (h.subscribe hq halive subscriber) hq rfl hp
  | unsubscribe hq hany => exact alive_of_amends (h.unsubscribe hq hany) hq rfl hp
  | cancel hq => exact alive_of_amends (h.cancel hq) hq rfl hp
  | follow hq notice => exact alive_of_amends (h.followRegistry hq notice) hq rfl hp
  | mention s provider hasChannel => exact ⟨old, hp, rfl⟩
  | tap hfeed t => exact ⟨old, (query?_watch ..).trans hp, rfl⟩

/-- **A query stays alive** along a chain: it is let go between moves only. -/
theorem alive_of_chain {p : QueryId} {old : Query} (h : w.Accounts) (hchain : Chain w w')
    (hp : w.query? p = some old) : ∃ new, w'.query? p = some new ∧ new.alive = old.alive := by
  induction hchain with
  | refl => exact ⟨old, hp, rfl⟩
  | tail hchain hchange ih =>
    obtain ⟨middle, hmiddle, heq⟩ := ih
    obtain ⟨new, hnew, heq'⟩ := alive_of_change (h.of_chain hchain) hchange hmiddle
    exact ⟨new, hnew, heq'.trans heq⟩

end World

end RoomSearch
