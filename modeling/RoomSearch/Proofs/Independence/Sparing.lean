import RoomSearch.Proofs.Cancellation
import RoomSearch.Proofs.Coverage.Seats
import RoomSearch.Proofs.Tracking
import RoomSearch.Proofs.World.Setting

/-!
# What spares a query

Queries share the directory, the registry and the feeds of sources, but none of them writes what
another one reads.  A task of another query, or a call on it, spares a query: the query and all that
it depends on stay as they are, no letter of it is delivered, and nothing is left to be done for it.

An announcement goes to its audience one by one, and so does a call that cancels several queries.
Such a task may turn to others first; what is left of it then is shorter by one
(`Task.skip?`).

## Main definitions

* `Task.Spares`, `Task.skip?` — tasks that spare a query, or turn to others first.
* `World.stage` — what queries and buses depend on besides the services.
* `World.Leaves` — a query and all that it depends on is left as it is.
* `World.Spares` — a move spares a query.

## Main results

* `World.spares_advance`, `World.spares_of_skip?` — **tasks of others** spare a query.
* `World.Runs.spares`, `World.Sets.spares`, `World.leaves_subscribe`, `World.leaves_unsubscribe`,
  `World.leaves_createQuery` — so do calls on others.
-/

namespace RoomSearch

open scoped List

/-- The task does nothing for the query, and changes nothing that queries depend on. -/
def Task.Spares (q : QueryId) : Task → Prop
  | .deliver _ rest => .query q ∉ rest
  | .withdraw _ => False
  | .mergeJoined p .. => p ≠ q
  | .scan p _ => p ≠ q
  | .merge p .. => p ≠ q
  | .search p _ => p ≠ q
  | .notify p .. => p ≠ q
  | .cancelEach rest => q ∉ rest

/-- What is left of a task that turns to somebody else first. -/
def Task.skip? (q : QueryId) : Task → Option Task
  | .deliver notice (v :: rest) => if v = .query q then none else some (.deliver notice rest)
  | .cancelEach (p :: rest) => if p = q then none else some (.cancelEach rest)
  | _ => none

namespace World

/-- What queries and buses depend on besides the services: how they are made, the directory, and the
registry. -/
def stage (w : World) : Config × Nat × Directory × List ServiceId :=
  (w.config, w.busLimit, w.directory, w.registry)

theorem overlooks_stage : Overlooks stage := by
  have hsetting : ∀ {w w' : World}, w'.setting = w.setting → w'.stage = w.stage := by
    intro w w' h
    exact congrArg (fun s => (s.config, s.busLimit, s.directory, s.registry)) h
  exact ⟨fun w q f => hsetting (overlooks_setting.modifyQuery w q f),
    fun w x f => hsetting (overlooks_setting.modifyFeed w x f),
    fun w => hsetting (overlooks_setting.fresh w),
    fun w b event => hsetting (overlooks_setting.publish w b event),
    fun w inUse => hsetting (overlooks_setting.releaseBuses w inUse)⟩

theorem mem_aliveQueries {w : World} {q : QueryId} :
    q ∈ w.aliveQueries ↔ q ∈ w.tracked ∧ w.isAlive q = true := List.mem_filter

/-- A query and all that it depends on is in `w'` as it was in `w`. -/
structure Leaves (q : QueryId) (w w' : World) : Prop where
  stage : w'.stage = w.stage
  posts : w'.post? = w.post?
  query : w'.query? q = w.query? q
  listed : q ∈ w'.aliveQueries ↔ q ∈ w.aliveQueries

variable {w w' w'' : World} {q p : QueryId} {query : Query} {m : Move}

theorem isAlive_congr (h : w'.query? q = w.query? q) : w'.isAlive q = w.isAlive q := by
  rw [isAlive, h, isAlive]

namespace Leaves

theorem refl (q : QueryId) (w : World) : Leaves q w w := ⟨rfl, rfl, rfl, Iff.rfl⟩

theorem trans (h : Leaves q w w') (h' : Leaves q w' w'') : Leaves q w w'' :=
  ⟨h'.stage.trans h.stage, h'.posts.trans h.posts, h'.query.trans h.query,
    h'.listed.trans h.listed⟩

/-- What queries and subscriptions do shows in the queries that do it alone. -/
theorem of_overlooks (h : ∀ {α : Type} {view : World → α}, Overlooks view → view w' = view w)
    (hquery : w'.query? q = w.query? q) : Leaves q w w' where
  stage := h overlooks_stage
  posts := h overlooks_post?
  query := hquery
  listed := by
    have htracked : w'.tracked = w.tracked := congrArg Setting.tracked (h overlooks_setting)
    rw [mem_aliveQueries, mem_aliveQueries, htracked, isAlive_congr hquery]

theorem modifyQuery (w : World) (hne : p ≠ q) (f : Query → Query) :
    Leaves q w (w.modifyQuery p f) :=
  .of_overlooks (fun h => h.modifyQuery w p f) (query?_modifyQuery_of_ne w f hne)

/-- Buses are no concern of queries. -/
theorem of_aside (h : w.Aside w') : Leaves q w w' := by
  obtain ⟨buses, closedBuses, rfl⟩ := h
  exact ⟨rfl, rfl, rfl, Iff.rfl⟩

theorem watch (w : World) (x : Source) (v : Watcher) : Leaves q w (w.watch x v).1 :=
  .of_overlooks (fun h => h.watch w x v) (query?_watch ..)

/-- Another query is different. -/
theorem of_amends {query' : Query} (h : w.Amends w' p query') (hne : q ≠ p)
    (hviews : ∀ {α : Type} {view : World → α}, Overlooks view → view w' = view w) :
    Leaves q w w' := .of_overlooks hviews (h.rewires.others hne)

end Leaves

/-- A move spares a query: it leaves the query as it is, leaves nothing to be done for it, and
delivers no letter of it. -/
structure Spares (w : World) (q : QueryId) (m : Move) : Prop where
  world : Leaves q w m.world
  tasks : ∀ t ∈ m.tasks, t.Spares q
  letters : lettersOf q (m.notes.flatMap Note.received) = []

/-! ### Moves of other queries -/

theorem spares_still (h : Leaves q w w') : w.Spares q (.still w') :=
  ⟨h, List.forall_mem_nil _, rfl⟩

theorem spares_doing (h : Leaves q w w') {tasks : List Task} (htasks : ∀ t ∈ tasks, t.Spares q)
    {callback : Option Callback} {notes : List Note}
    (hnotes : lettersOf q (notes.flatMap Note.received) = []) :
    w.Spares q ⟨w', tasks, callback, notes⟩ := ⟨h, htasks, hnotes⟩

/-- A single task remains to be done. -/
theorem spares_task (h : Leaves q w w') {t : Task} (ht : t.Spares q) {callback : Option Callback}
    {notes : List Note} (hnotes : lettersOf q (notes.flatMap Note.received) = []) :
    w.Spares q ⟨w', [t], callback, notes⟩ := by
  refine spares_doing h ?_ hnotes
  intro u hu
  rwa [List.mem_singleton.mp hu]

theorem Spares.andThen (h : w.Spares q m) {t : Task} (ht : t.Spares q) :
    w.Spares q (m.andThen [t]) := by
  refine ⟨h.world, ?_, h.letters⟩
  intro u hu
  rcases List.mem_append.mp hu with hu | hu
  · exact h.tasks u hu
  · rwa [List.mem_singleton.mp hu]

theorem spares_commit (h : Leaves q w w') (hne : p ≠ q) (news : List News) :
    w.Spares q (w'.commit p news) := by
  cases news with
  | nil => exact spares_still h
  | cons n rest =>
    refine spares_task h ?_ rfl
    exact hne

theorem spares_change (h : Leaves q w w') (hne : p ≠ q) (outcome : List News × ResultSet) :
    w.Spares q (w'.change p outcome) :=
  spares_commit (h.trans (.modifyQuery w' hne _)) hne outcome.1

theorem spares_moveTo (h : Leaves q w w') (hne : p ≠ q) (status : Status) :
    w.Spares q (w'.moveTo p status) := spares_commit (h.trans (.modifyQuery w' hne _)) hne _

theorem query?_detach_of_ne (w : World) (hne : p ≠ q) : (w.detach p).query? q = w.query? q := by
  cases ha : (w.query? p).bind Query.attachment with
  | none => rw [detach, ha]
  | some a =>
    obtain ⟨query, hp, hattached⟩ := Option.bind_eq_some_iff.mp ha
    rw [detach_eq hp hattached, query?_modifyQuery_of_ne _ _ hne, query?_unwatchAll]

theorem leaves_detach (w : World) (hne : p ≠ q) : Leaves q w (w.detach p) :=
  .of_overlooks (fun h => h.detach w p) (query?_detach_of_ne w hne)

theorem spares_cancel (w : World) (hne : p ≠ q) : w.Spares q (w.cancel p) := by
  unfold cancel
  split
  · exact spares_still (.refl q w)
  · split
    · exact spares_still (leaves_detach w hne)
    · exact spares_moveTo (leaves_detach w hne) hne _

theorem Follows.spares {notice : Notice} (h : w.Follows p query notice m) (haccounts : w.Accounts)
    (hne : p ≠ q) (hp : w.query? p = some query) : w.Spares q m := by
  cases h with
  | still => exact spares_still (.refl q w)
  | presence => exact spares_change (.refl q w) hne _
  | joined notice autoJoin =>
    refine spares_task (.refl q w) ?_ rfl
    exact hne
  | rooms | gone => exact spares_change (.modifyQuery w hne _) hne _
  | entered =>
    refine spares_task (.modifyQuery w hne _) ?_ rfl
    exact hne
  | registration notice =>
    rw [followRegistry_eq_still]
    refine spares_still (.of_amends (haccounts.followRegistry hp notice) hne.symm ?_)
    exact fun h => h.followRegistry w p query notice

theorem spares_follow (haccounts : w.Accounts) (hne : p ≠ q) (notice : Notice) :
    w.Spares q (w.follow p notice) := by
  rcases follow_spec w p notice with hstill | ⟨query, hp, hfollows⟩
  · rw [hstill]
    exact spares_still (.refl q w)
  · exact hfollows.spares haccounts hne hp

/-! ### Tasks -/

/-- **A task that turns to somebody else first** spares the query but for what is left of it. -/
theorem spares_of_skip? (haccounts : w.Accounts) {t u : Task} (h : t.skip? q = some u) :
    ∃ m, w.Spares q m ∧ w.advance t = m.andThen [u] := by
  cases t with
  | deliver notice rest =>
    cases rest with
    | nil => cases h
    | cons v rest =>
      rw [Task.skip?] at h
      split at h
      · cases h
      · next hne =>
        cases h
        cases v with
        -- another query follows the notice, or an observer does
        | query p =>
          have hpq : p ≠ q := fun heq => hne (congrArg Watcher.query heq)
          exact ⟨w.follow p notice, spares_follow haccounts hpq notice, rfl⟩
        | tap i =>
          exact ⟨⟨w, [], some (.tap i notice), [.tapped i notice]⟩,
            ⟨.refl q w, List.forall_mem_nil _, rfl⟩, rfl⟩
  | cancelEach rest =>
    cases rest with
    | nil => cases h
    | cons p rest =>
      rw [Task.skip?] at h
      split at h
      · cases h
      · next hne =>
        cases h
        exact ⟨w.cancel p, spares_cancel w hne, rfl⟩
  | _ => cases h

/-- A task that finds results for another query. -/
theorem spares_of_searcher? {t : Task} (hadvances : w.Advances t m)
    (hsearcher : t.searcher? = some p) (hne : p ≠ q) : w.Spares q m := by
  cases hadvances with
  | spent | dropped => exact spares_still (.refl q w)
  | mergeJoined | merge =>
    cases hsearcher
    exact spares_change (.refl q w) hne _
  | scan | rescan =>
    cases hsearcher
    refine spares_task (.refl q w) ?_ rfl
    exact hne
  | complete =>
    cases hsearcher
    exact spares_moveTo (.refl q w) hne _
  | search _ provider rest =>
    cases hsearcher
    refine spares_doing (.refl q w) ?_ rfl
    intro t ht
    rcases List.mem_cons.mp ht with rfl | ht
    · exact hne
    · rw [List.mem_singleton.mp ht]
      exact hne
  | _ => cases hsearcher

/-- A notification of another query. -/
theorem spares_notify (w : World) (hne : p ≠ q) (audience : List Subscriber)
    (rest : List Delivery) : w.Spares q (w.advance (.notify p audience rest)) := by
  have hother : ∀ d : Delivery, lettersOf q ([Note.delivered p d].flatMap Note.received) = [] := by
    intro d
    have hno : ¬ (p == q) = true := by simpa using hne
    exact List.filter_cons_of_neg hno
  have hadvances := advances_advanceNotification w p audience rest
  show w.Spares q (w.advanceNotification p audience rest)
  revert hadvances
  generalize w.advanceNotification p audience rest = m
  intro hadvances
  cases hadvances with
  | spent | dropped => exact spares_still (.refl q w)
  | publish _ _ d rest b =>
    have hworld : Leaves q w (w.publish b ⟨.query p, d.news⟩) :=
      .of_overlooks (fun h => h.publish w b ⟨.query p, d.news⟩) rfl
    refine spares_task hworld ?_ (hother d)
    exact hne
  | hear _ _ d rest name =>
    refine spares_task (.refl q w) ?_ (hother d)
    exact hne

/-- **A task that spares a query** does so in its next move. -/
theorem spares_advance (haccounts : w.Accounts) {t : Task} (h : t.Spares q) :
    w.Spares q (w.advance t) := by
  cases t with
  | deliver notice rest =>
    cases rest with
    | nil => exact spares_still (.refl q w)
    | cons v rest =>
      have hv := List.ne_of_not_mem_cons h
      have hrest := List.not_mem_of_not_mem_cons h
      have hskip : (Task.deliver notice (v :: rest)).skip? q = some (.deliver notice rest) :=
        if_neg hv.symm
      obtain ⟨m, hm, heq⟩ := spares_of_skip? haccounts hskip
      rw [heq]
      exact hm.andThen hrest
  | cancelEach rest =>
    cases rest with
    | nil => exact spares_still (.refl q w)
    | cons p rest =>
      have hp := List.ne_of_not_mem_cons h
      have hrest := List.not_mem_of_not_mem_cons h
      have hskip : (Task.cancelEach (p :: rest)).skip? q = some (.cancelEach rest) :=
        if_neg hp.symm
      obtain ⟨m, hm, heq⟩ := spares_of_skip? haccounts hskip
      rw [heq]
      exact hm.andThen hrest
  | withdraw s => exact absurd h id
  | notify p audience rest => exact spares_notify w h audience rest
  | mergeJoined p | scan p | merge p | search p =>
    exact spares_of_searcher? (advances_advance w _) rfl h

/-! ### Calls on other queries -/

theorem Runs.spares (h : w.Runs p m) (hne : p ≠ q) : w.Spares q m := by
  cases h with
  | still => exact spares_still (.refl q w)
  | late => exact spares_still (.modifyQuery w hne _)
  | search =>
    refine spares_task (.modifyQuery w hne _) ?_ rfl
    exact hne

theorem Sets.spares (h : w.Sets p m) (hne : p ≠ q) : w.Spares q m := by
  cases h with
  | still => exact spares_still (.refl q w)
  | canceled => exact spares_cancel w hne
  | completed => exact spares_moveTo (.refl q w) hne _

theorem leaves_subscribe (h : w.Accounts) (hne : p ≠ q) (hp : w.query? p = some query)
    (halive : query.alive = true) (subscriber : Subscriber) :
    Leaves q w (w.subscribe p subscriber).1 :=
  .of_amends (h.subscribe hp halive subscriber) hne.symm fun h => h.subscribe w p subscriber

theorem leaves_unsubscribe (h : w.Accounts) (hne : p ≠ q) (hp : w.query? p = some query)
    (id : SubscriptionId) : Leaves q w (w.unsubscribe p id).1 := by
  by_cases hany : (query.subscribers.any fun s => s.1 == id) = true
  · exact .of_amends (h.unsubscribe hp hany) hne.symm fun h => h.unsubscribe w p id
  · rw [unsubscribe, hp]
    dsimp only
    rw [if_neg hany]
    exact .refl q w

/-- Making a query spares all others, whether they have been made or not. -/
theorem leaves_createQuery (w : World) (hne : q.index ≠ w.queries.length) (text : String)
    (isTracked : Bool) : Leaves q w (w.createQuery text isTracked).1 := by
  have hquery : (w.createQuery text isTracked).1.query? q = w.query? q := by
    rw [query?_createQuery, if_neg hne]
  refine ⟨rfl, rfl, hquery, ?_⟩
  rw [mem_aliveQueries, mem_aliveQueries, isAlive_congr hquery]
  refine and_congr_left ?_
  intro halive
  cases isTracked with
  | false => exact Iff.rfl
  | true =>
    have hnew : q ≠ ⟨w.queries.length⟩ := fun heq => hne (congrArg QueryId.index heq)
    show q ∈ w.tracked.filter w.isAlive ++ [⟨w.queries.length⟩] ↔ _
    rw [List.mem_append, List.mem_filter, List.mem_singleton]
    simp [halive, hnew]

end World

end RoomSearch
