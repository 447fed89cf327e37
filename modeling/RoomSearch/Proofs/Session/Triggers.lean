import RoomSearch.Proofs.Survival.Offers

/-!
# Triggers on which results change

A query changes its results, and begins a new epoch, on few occasions only: it hears of something, a
joined room that it has heard of has been looked up, or rooms have been read for it.  Each of these
triggers is the next move of a task.  Whatever else happens leaves the results and the epoch of the
query as they are, even the actions that bring news to its sources: it is not before the query is
told that it takes notice.

## Main definitions

* `Trigger` — something on which a query may change its results.
* `Task.trigger?`, `Session.trigger?` — what the next move of a task, or the next step, is for a
  query.
* `World.Steady` — a query has the same results in the same epoch in both worlds.

## Main results

* `World.Advances.steady`, `World.Acts.steady` — **no other move changes the results**.
* `Session.Sound.steady` — nor does any other step.
-/

namespace RoomSearch

/-- Something on which a query may change its results. -/
inductive Trigger where
  /-- The query hears of something, or has looked up what it has heard of. -/
  | heard (notice : Notice)
  /-- Rooms of a provider have been read for the query. -/
  | scanned (provider : ProviderId) (rooms : List Room)
deriving DecidableEq, Repr

/-- What the next move of a task is for a query. -/
def Task.trigger? (q : QueryId) : Task → Option Trigger
  | .deliver notice (.query p :: _) => if p = q then some (.heard notice) else none
  | .mergeJoined p notice _ => if p = q then some (.heard (.presence notice)) else none
  | .merge p provider _ rooms => if p = q then some (.scanned provider rooms) else none
  | _ => none

/-- Two states of a query with the same results in the same epoch. -/
structure Query.Steady (a b : Query) : Prop where
  matcher : b.matcher = a.matcher
  results : b.results = a.results
  epoch : b.epoch = a.epoch

theorem Query.Steady.refl (a : Query) : a.Steady a := ⟨rfl, rfl, rfl⟩

theorem Query.Steady.trans {a b c : Query} (h : a.Steady b) (h' : b.Steady c) : a.Steady c where
  matcher := h'.matcher.trans h.matcher
  results := h'.results.trans h.results
  epoch := h'.epoch.trans h.epoch

/-- The task that a query is told by, if it is one. -/
theorem Task.exists_of_trigger? {q : QueryId} {t : Task} {o : Trigger}
    (h : t.trigger? q = some o) :
    (∃ notice rest, t = .deliver notice (.query q :: rest) ∧ o = .heard notice) ∨
    (∃ notice autoJoin, t = .mergeJoined q notice autoJoin ∧ o = .heard (.presence notice)) ∨
    ∃ provider epoch rooms, t = .merge q provider epoch rooms ∧ o = .scanned provider rooms := by
  unfold Task.trigger? at h
  split at h
  · next notice p rest =>
    obtain ⟨rfl, ho⟩ := Option.ite_none_right_eq_some.mp h
    exact .inl ⟨notice, rest, rfl, (Option.some.inj ho).symm⟩
  · next p notice autoJoin =>
    obtain ⟨rfl, ho⟩ := Option.ite_none_right_eq_some.mp h
    exact .inr (.inl ⟨notice, autoJoin, rfl, (Option.some.inj ho).symm⟩)
  · next p provider epoch rooms =>
    obtain ⟨rfl, ho⟩ := Option.ite_none_right_eq_some.mp h
    exact .inr (.inr ⟨provider, epoch, rooms, rfl, (Option.some.inj ho).symm⟩)
  · cases h

namespace World

variable {w w' w'' : World} {q p : QueryId} {query : Query} {m : Move}

/-- A query has the same results in the same epoch in both worlds. -/
structure Steady (q : QueryId) (w w' : World) : Prop where
  query : ∀ {query}, w.query? q = some query →
    ∃ query', w'.query? q = some query' ∧ query.Steady query'

namespace Steady

theorem trans (h : Steady q w w') (h' : Steady q w' w'') : Steady q w w'' where
  query hq := by
    obtain ⟨query', hq', hsame⟩ := h.query hq
    obtain ⟨query'', hq'', hsame'⟩ := h'.query hq'
    exact ⟨query'', hq'', hsame.trans hsame'⟩

theorem of_queries_eq (h : w'.queries = w.queries) : Steady q w w' where
  query hq := ⟨_, (query?_of_queries_eq h q).trans hq, .refl _⟩

theorem modifyQuery (w : World) (p : QueryId) {f : Query → Query}
    (hf : ∀ query : Query, query.Steady (f query)) : Steady q w (w.modifyQuery p f) where
  query {query} hq := by
    rw [query?_modifyQuery, hq]
    split
    · exact ⟨f query, rfl, hf query⟩
    · exact ⟨query, rfl, .refl query⟩

end Steady

theorem SameCourse.steady (h : SameCourse q w w') : Steady q w w' where
  query hq := by
    obtain ⟨query', hq', hsame⟩ := h.query hq
    exact ⟨query', hq', hsame.matcher, hsame.results, hsame.epoch⟩

theorem Releases.steady {inUse : QueryId → Bool} (h : Releases inUse w w') : Steady q w w' where
  query hq := by
    obtain ⟨query', hq', hfound⟩ := h.findings.exists hq
    exact ⟨query', hq', hfound.matcher, hfound.results, hfound.epoch⟩

/-! ### Tasks -/

/-- **A task that is no trigger** for a query leaves its results alone. -/
theorem Advances.steady {t : Task} (hadvances : w.Advances t m) (h : w.Accounts)
    (ht : t.trigger? q = none) : Steady q w m.world := by
  cases hadvances with
  | spent | dropped | tap | withdraw | scan | rescan | search | publish | hear =>
    exact .of_queries_eq rfl
  | tell notice p rest =>
    have hne : p ≠ q := by simpa [Task.trigger?] using ht
    exact (bystands_follow h hne notice).course.steady
  | @mergeJoined p _ hp notice autoJoin =>
    have hne : p ≠ q := by simpa [Task.trigger?] using ht
    exact (bystands_change (.refl q w) hne _).course.steady
  | @merge p _ hp provider rooms matching =>
    have hne : p ≠ q := by simpa [Task.trigger?] using ht
    exact (bystands_change (.refl q w) hne _).course.steady
  | complete => exact (bystands_moveTo (.refl q w) _ _).course.steady
  | cancelEach p rest => exact (bystands_cancel h p).course.steady

/-! ### Actions -/

/-- A search that is asked for has found nothing yet. -/
theorem Runs.steady (h : w.Runs p m) : Steady q w m.world := by
  cases h with
  | still => exact .of_queries_eq rfl
  | late | search => exact .modifyQuery w p fun _ => ⟨rfl, rfl, rfl⟩

/-- News that are spread have reached nobody yet. -/
theorem Spreads.steady {a : Action} (h : w.Spreads a m) : Steady q w m.world := by
  cases h <;> exact .of_queries_eq rfl

/-- **An action** leaves the results of all queries alone. -/
theorem Acts.steady {named : String → Option QueryId} {a : Action} (hacts : Acts w named a m)
    (h : w.Accounts) (hnamed : ∀ {name p}, named name = some p →
      ∃ query, w.query? p = some query ∧ query.alive = true) : Steady q w m.world where
  query hq := by
    rcases hacts.bystands h hq hnamed with hbystands | rfl | hspreads
    · exact hbystands.course.steady.query hq
    · exact (runs_run w q).steady.query hq
    · exact hspreads.steady.query hq

end World

namespace Session

variable {permitted : Session → Action → Prop} {s t : Session} {c : Call} {calls : List Call}
  {m : Move} {first later : List Call} {q : QueryId} {query : Query} {o : Trigger}

/-- What the next step is for a query. -/
def trigger? (s : Session) (q : QueryId) : Option Trigger :=
  (s.calls.head?.bind Call.task?).bind (Task.trigger? q)

theorem trigger?_of_calls (h : s.calls = c :: calls) :
    s.trigger? q = c.task?.bind (Task.trigger? q) := by
  rw [trigger?, h, List.head?_cons, Option.bind_some]

/-- A trigger is the next move of a task. -/
theorem exists_calls_of_trigger? (h : s.trigger? q = some o) :
    ∃ t calls, s.calls = .task t :: calls ∧ t.trigger? q = some o := by
  cases hcalls : s.calls with
  | nil =>
    rw [trigger?, hcalls] at h
    cases h
  | cons c calls =>
    rw [trigger?_of_calls hcalls] at h
    cases c with
    | task t => exact ⟨t, calls, rfl, h⟩
    | _ => cases h

/-- **A step that is no trigger** for a query leaves its results alone. -/
theorem Goes.steady (h : s.Goes c calls m first later t) (hs : s.Sound)
    (hc : c.task?.bind (Task.trigger? q) = none) : World.Steady q s.world t.world := by
  refine World.Steady.trans ?_ (h.releases hs).steady
  cases h.does with
  | task task => exact (World.advances_advance s.world task).steady hs.accounts hc
  | action hacts => exact hacts.steady hs.accounts hs.named
  | idle | read => exact .of_queries_eq rfl

theorem Sound.steady (hs : s.Sound) (hnone : s.trigger? q = none) (hnext : Next permitted s t) :
    World.Steady q s.world t.world := by
  cases hnext with
  | ask a hrest => exact .of_queries_eq rfl
  | step hcalls hpermitted =>
    obtain ⟨m, first, later, hgoes⟩ := goes_step hcalls
    rw [trigger?_of_calls hcalls] at hnone
    exact hgoes.steady hs hnone

/-- What becomes of a query by the next move of a task is what it has found after the step. -/
theorem Sound.exists_query?_step {task : Task} (hs : s.Sound)
    (hcalls : s.calls = .task task :: calls)
    (hq : (s.world.advance task).world.query? q = some query) :
    ∃ query', s.step.world.query? q = some query' ∧ query.SameFindings query' := by
  obtain ⟨m, first, later, hgoes⟩ := goes_step hcalls
  have hreleases := hgoes.releases hs
  rw [hgoes.move_task] at hreleases
  exact hreleases.findings.exists hq

end Session

end RoomSearch
