import RoomSearch.Proofs.Session.History

/-!
# What queries are asked for

A query searches for what it was made for, and whether it has been asked to search is remembered.
Neither is touched by anything that happens to the query: only an action that makes a query adds
one, and only an action that asks for a search is remembered by one.

## Main definitions

* `Query.request` — what a query searches for, and whether it has been asked to.
* `World.SameRequests` — the same queries are there, with the same requests.
* `Session.searched?` — the query that the next step asks to search.
* `Session.Asked` — what the next step does to the requests.

## Main results

* `Session.Sound.asked` — **every step** does no more than that.
* `Session.Sound.born` — a query that is new has found nothing.
-/

namespace RoomSearch

/-- What a query searches for, and whether it has been asked to. -/
def Query.request (query : Query) : Matcher × Bool := (query.matcher, query.started)

/-- The same query after it has been asked to search. -/
def Query.start (query : Query) : Query := { query with started := true }

namespace World

/-- The same queries are there in both worlds, with the same requests. -/
def SameRequests (w w' : World) : Prop :=
  ∀ q, (w'.query? q).map Query.request = (w.query? q).map Query.request

variable {w w' w'' : World} {q : QueryId} {query query' : Query} {m : Move}

namespace SameRequests

theorem refl (w : World) : SameRequests w w := fun _ => rfl

theorem trans (h : SameRequests w w') (h' : SameRequests w' w'') : SameRequests w w'' :=
  fun q => (h' q).trans (h q)

theorem of_queries_eq (h : w'.queries = w.queries) : SameRequests w w' := by
  intro q
  rw [query?_of_queries_eq h]

/-- A query is still there, with its request. -/
theorem «exists» (h : SameRequests w w') (hq : w.query? q = some query) :
    ∃ query', w'.query? q = some query' ∧ query'.request = query.request := by
  have hsame := h q
  rw [hq] at hsame
  exact Option.map_eq_some_iff.mp hsame

theorem symm (h : SameRequests w w') : SameRequests w' w := fun q => (h q).symm

/-- No query is new. -/
theorem query?_eq_none (h : SameRequests w w') (hq : w.query? q = none) : w'.query? q = none := by
  have hsame := h q
  rw [hq] at hsame
  exact Option.map_eq_none_iff.mp hsame

/-- One query is different, and it has the same request. -/
theorem of_others (hothers : ∀ {p}, p ≠ q → w'.query? p = w.query? p)
    (hq : w.query? q = some query) (hq' : w'.query? q = some query')
    (hsame : query'.request = query.request) : SameRequests w w' := by
  intro p
  by_cases hpq : p = q
  · subst hpq
    rw [hq, hq', Option.map_some, Option.map_some, hsame]
  · rw [hothers hpq]

theorem of_amends (h : w.Amends w' q query') (hq : w.query? q = some query)
    (hsame : query'.request = query.request) : SameRequests w w' := by
  obtain ⟨a, hq'⟩ := h.found
  exact .of_others h.rewires.others hq hq' hsame

theorem modifyQuery (w : World) (q : QueryId) {f : Query → Query}
    (hf : ∀ query, (f query).request = query.request) : SameRequests w (w.modifyQuery q f) := by
  cases hq : w.query? q with
  | none =>
    rw [modifyQuery_of_none hq]
    exact .refl w
  | some query =>
    exact .of_others (fun hp => query?_modifyQuery_of_ne _ _ hp.symm) hq
      (query?_modifyQuery_self f hq) (hf query)

theorem of_sameFindings (h : w.SameFindings w') : SameRequests w w' := by
  intro q
  cases hq : w.query? q with
  | none =>
    have hrel := h q
    rw [hq] at hrel
    cases hq' : w'.query? q with
    | none => rfl
    | some query' =>
      rw [hq'] at hrel
      cases hrel
  | some query =>
    obtain ⟨query', hq', hfound⟩ := h.exists hq
    rw [hq', Option.map_some, Option.map_some, Query.request, Query.request, hfound.matcher,
      hfound.started]

end SameRequests

/-! ### Tasks -/

theorem sameRequests_change (w : World) (q : QueryId) (outcome : List News × ResultSet) :
    SameRequests w (w.change q outcome).world := by
  rw [change, world_commit]
  exact .modifyQuery w q fun _ => rfl

theorem sameRequests_moveTo (w : World) (q : QueryId) (status : Status) :
    SameRequests w (w.moveTo q status).world := by
  rw [moveTo, world_commit]
  exact .modifyQuery w q fun _ => rfl

theorem sameRequests_advanceEpoch (w : World) (q : QueryId) :
    SameRequests w (w.modifyQuery q Query.advanceEpoch) := .modifyQuery w q fun _ => rfl

theorem sameRequests_cancel (h : w.Accounts) (q : QueryId) :
    SameRequests w (w.cancel q).world := by
  cases hq : w.query? q with
  | none =>
    rw [cancel, hq]
    exact .refl w
  | some query => exact .of_amends (h.cancel hq) hq rfl

theorem Follows.sameRequests {notice : Notice} (h : w.Follows q query notice m)
    (haccounts : w.Accounts) (hq : w.query? q = some query) : SameRequests w m.world := by
  cases h with
  | still | joined => exact .refl w
  | presence => exact sameRequests_change w q _
  | rooms | gone => exact (sameRequests_advanceEpoch w q).trans (sameRequests_change _ q _)
  | entered => exact sameRequests_advanceEpoch w q
  | registration notice => exact .of_amends (haccounts.followRegistry hq notice) hq rfl

theorem sameRequests_follow (h : w.Accounts) (q : QueryId) (notice : Notice) :
    SameRequests w (w.follow q notice).world := by
  rcases follow_spec w q notice with hstill | ⟨query, hq, hfollows⟩
  · rw [hstill]
    exact .refl w
  · exact hfollows.sameRequests h hq

/-- **A task** touches no request. -/
theorem Advances.sameRequests {t : Task} (h : w.Advances t m) (haccounts : w.Accounts) :
    SameRequests w m.world := by
  cases h with
  | spent | dropped | tap | scan | rescan | search | hear => exact .refl w
  | tell notice q rest => exact sameRequests_follow haccounts q notice
  | withdraw | publish => exact .of_queries_eq rfl
  | mergeJoined | merge => exact sameRequests_change w _ _
  | complete => exact sameRequests_moveTo w _ _
  | cancelEach q rest => exact sameRequests_cancel haccounts q

/-! ### Actions -/

theorem Sets.sameRequests (h : w.Sets q m) (haccounts : w.Accounts) : SameRequests w m.world := by
  cases h with
  | still => exact .refl w
  | canceled => exact sameRequests_cancel haccounts q
  | completed => exact sameRequests_moveTo w _ _

/-- A query that is asked to search remembers it, whatever it answers. -/
theorem sameRequests_run (w : World) (q : QueryId) :
    SameRequests (w.modifyQuery q Query.start) (w.run q).1.world := by
  cases hq : w.query? q with
  | none =>
    rw [run, hq, modifyQuery_of_none hq]
    exact .refl w
  | some query =>
    rw [run, hq]
    dsimp only
    split
    · next hstarted =>
      -- it has been asked before
      refine .of_others (fun hp => (query?_modifyQuery_of_ne _ _ hp.symm).symm)
        (query?_modifyQuery_self _ hq) hq ?_
      rw [Query.request, Query.request, Query.start, hstarted]
    · split <;> exact .refl _

/-- **What an action does to the requests**: it makes a query, or asks one to search, or does
nothing to them. -/
theorem Acts.requests {named : String → Option QueryId} {a : Action} (h : Acts w named a m)
    (haccounts : w.Accounts)
    (hnamed : ∀ {name q}, named name = some q →
      ∃ query, w.query? q = some query ∧ query.alive = true) :
    (∃ name text isTracked, a = .create name text isTracked ∧
      m = .still (w.createQuery text isTracked).1) ∨
    (∃ name q, a.searched? = some name ∧ named name = some q ∧ m = (w.run q).1) ∨
    SameRequests w m.world := by
  cases h with
  | create name text isTracked => exact .inl ⟨name, text, isTracked, rfl, rfl⟩
  | run q ha hq => exact .inr (.inl ⟨_, q, ha, hq, rfl⟩)
  | idle haside =>
    obtain ⟨buses, closedBuses, rfl⟩ := haside
    exact .inr (.inr (.of_queries_eq rfl))
  | setStatus q status => exact .inr (.inr ((sets_setStatus w q status).sameRequests haccounts))
  | cancel q => exact .inr (.inr (sameRequests_cancel haccounts q))
  | listen hq subscriber =>
    obtain ⟨query, hquery, halive⟩ := hnamed hq
    exact .inr (.inr (.of_amends (haccounts.subscribe hquery halive subscriber) hquery rfl))
  | unlisten hq id =>
    obtain ⟨query, hquery, -⟩ := hnamed hq
    by_cases hany : (query.subscribers.any fun s => s.1 == id) = true
    · exact .inr (.inr (.of_amends (haccounts.unsubscribe hquery hany) hquery rfl))
    · -- nobody is subscribed under this identity
      rw [unsubscribe, hquery]
      dsimp only
      rw [if_neg hany]
      exact .inr (.inr (.refl w))
  | presence m provider room identifier change hpresence =>
    obtain ⟨notice, rfl⟩ := exists_of_announcePresence? hpresence
    exact .inr (.inr (.of_queries_eq rfl))
  | tap target name uses steps hw hfeed t =>
    refine .inr (.inr (.of_queries_eq ((queries_modifyFeed ..).trans ?_)))
    rcases hw with rfl | ⟨m, rfl⟩ <;> rfl
  | _ => exact .inr (.inr (.of_queries_eq rfl))

end World

namespace Session

/-- The query that the next step asks to search, if it asks one. -/
def searched? (s : Session) : Option QueryId := (s.action?.bind Action.searched?).bind s.query?

/-- What the next step does to the requests: `w` is the world with what is different about them. -/
inductive Asked (s : Session) : World → Prop where
  | nothing (hsearched : s.searched? = none) : Asked s s.world
  | search {q : QueryId} (hsearched : s.searched? = some q) :
      Asked s (s.world.modifyQuery q Query.start)
  | create {name text : String} {isTracked : Bool}
      (haction : s.action? = some (.create name text isTracked)) :
      Asked s (s.world.createQuery text isTracked).1

variable {s t : Session} {c : Call} {calls : List Call} {m : Move} {first later : List Call}

theorem action?_of_calls (h : s.calls = c :: calls) : s.action? = c.action? := by
  rw [action?, h]
  rfl

/-- What the next step performs is the next action of the innermost script. -/
theorem exists_calls_of_action? {a : Action} (h : s.action? = some a) :
    ∃ rest calls, s.calls = .script (a :: rest) :: calls := by
  cases hcalls : s.calls with
  | nil =>
    rw [action?, hcalls] at h
    cases h
  | cons c calls =>
    rw [action?_of_calls hcalls] at h
    cases c with
    | script actions =>
      cases actions with
      | nil => cases h
      | cons b rest =>
        cases h
        exact ⟨rest, calls, rfl⟩
    | _ => cases h

/-- **A query that is held and asked to search** answers as it does in its world. -/
theorem perform_searched {a : Action} {name : String} {q : QueryId}
    (ha : a.searched? = some name) (hq : s.query? name = some q) :
    s.perform a = s.conclude a (s.world.run q).1 (replyOf (s.world.run q).2) := by
  cases a with
  | run name' | start name' =>
    cases ha
    exact withQuery_of_some hq _ _
  | _ => cases ha

@[simp] theorem world_conclude (s : Session) (a : Action) (m : Move) (reply : Reply) :
    (s.conclude a m reply).world = m.world := by
  obtain ⟨first, habs⟩ := absorbs_absorb s m [.answer a.verb reply]
  exact habs.world

theorem Goes.sameRequests (h : s.Goes c calls m first later t) (hs : s.Sound) :
    m.world.SameRequests t.world := .of_sameFindings (h.releases hs).findings

/-- **Every step** does to the requests what its action says, and nothing else. -/
theorem Sound.asked (hs : s.Sound) (hcalls : s.calls ≠ []) :
    ∃ w, s.Asked w ∧ w.SameRequests s.step.world := by
  obtain ⟨c, calls, hc⟩ := List.exists_cons_of_ne_nil hcalls
  obtain ⟨m, first, later, hgoes⟩ := goes_step hc
  have hreleased := hgoes.sameRequests hs
  -- either a query is asked to search, or none is
  cases hsearched : s.searched? with
  | some q =>
    obtain ⟨name, hname, hq⟩ := Option.bind_eq_some_iff.mp hsearched
    obtain ⟨a, ha, hname⟩ := Option.bind_eq_some_iff.mp hname
    obtain ⟨rest, calls, hc⟩ := exists_calls_of_action? ha
    refine ⟨_, .search hsearched, (World.sameRequests_run s.world q).trans ?_⟩
    have hperform := perform_searched (s := { s with calls := .script rest :: calls }) hname hq
    have hworld : s.step.world = ((s.world.run q).1.world).release s.step.usesQuery
        s.step.usesBus := by
      rw [step_of_action hc, hperform]
      show World.release (conclude _ a _ _).world _ _ = _
      rw [world_conclude]
      rfl
    rw [hworld]
    refine .of_sameFindings (World.releases_release ?_ _ _).findings
    exact hs.accounts.of_chain (World.runs_run s.world q).chain
  | none =>
    cases hdoes : hgoes.does with
    | task task =>
      exact ⟨_, .nothing hsearched,
        ((World.advances_advance s.world task).sameRequests hs.accounts).trans hreleased⟩
    | idle | read => exact ⟨_, .nothing hsearched, hreleased⟩
    | action hacts =>
      rcases hacts.requests hs.accounts hs.named with
        ⟨name, text, isTracked, rfl, rfl⟩ | ⟨name, q, hname, hq, -⟩ | hsame
      · exact ⟨_, .create ((action?_of_calls hc).trans rfl), hreleased⟩
      · -- it would have been asked to search
        rw [searched?, action?_of_calls hc] at hsearched
        simp [Call.action?, hname, hq] at hsearched
      · exact ⟨_, .nothing hsearched, hsame.trans hreleased⟩

/-- **A query that is new** has just been made: it has found nothing yet. -/
theorem Sound.born (hs : s.Sound) (hcalls : s.calls ≠ []) {q : QueryId} {query : Query}
    (hnone : s.world.query? q = none) (hq : s.step.world.query? q = some query) :
    ∃ name text isTracked, s.action? = some (.create name text isTracked) ∧
      q = ⟨s.world.queries.length⟩ ∧
      (Query.ofMatcher ⟨text, s.world.config.matchMode⟩).SameFindings query := by
  obtain ⟨c, calls, hc⟩ := List.exists_cons_of_ne_nil hcalls
  obtain ⟨m, first, later, hgoes⟩ := goes_step hc
  obtain ⟨made, hmade, hfound⟩ := (hgoes.releases hs).findings.exists' hq
  have hnew : ¬ s.world.SameRequests m.world := by
    intro hsame
    rw [hsame.query?_eq_none hnone] at hmade
    cases hmade
  cases hdoes : hgoes.does with
  | task task =>
    exact absurd ((World.advances_advance s.world task).sameRequests hs.accounts) hnew
  | idle | read => exact absurd (.refl _) hnew
  | action hacts =>
    rcases hacts.requests hs.accounts hs.named with
      ⟨name, text, isTracked, rfl, rfl⟩ | ⟨name, p, -, hp, rfl⟩ | hsame
    · -- the query is the one that has just been made
      refine ⟨name, text, isTracked, (action?_of_calls hc).trans rfl, ?_⟩
      have hwhich : (s.world.createQuery text isTracked).1.query? q = some made := hmade
      rw [World.query?_createQuery] at hwhich
      split at hwhich
      · next hindex =>
        obtain ⟨index⟩ := q
        cases Option.some.inj hwhich
        exact ⟨congrArg QueryId.mk hindex, hfound⟩
      · rw [hnone] at hwhich
        cases hwhich
    · -- a query that is asked to search was there
      have hsame := (World.sameRequests_run s.world p).query?_eq_none (q := q) (by
        rw [World.query?_modifyQuery, hnone]
        split <;> rfl)
      rw [hsame] at hmade
      cases hmade
    · exact absurd hsame hnew

end Session

end RoomSearch
