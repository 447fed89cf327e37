import RoomSearch.Proofs.Redelivery.Handling

/-!
# Announcements that reach a detached query

What a source announces goes to those who follow it at that moment, one after the other.  So a query
that is detached hears of nothing that is announced afterwards.  But an announcement may be on its
way to the query when one of those who are told first ends the last subscription to it, and then the
query is reached all the same.  It asks then whether it has been canceled, and not whether it is
attached: what it makes of the announcement is what it would have made of it before.  Only
announcements of the registry are ignored, since there are no subscriptions to be changed.

## Main definitions

* `Session.awaited` — who is still to hear of what is going round.
* `Session.SetsOut` — by the next step an announcement sets out to a watcher.
* `Session.TakesUp` — what a query makes of an announcement has come about.

## Main results

* `Session.attached_of_awaited` — **an announcement reaches no query** that was not attached when it
  set out.
* `Session.detached_takes_up` — **a detached query** makes of an announcement what an attached one
  does.
* `Session.detached_finds` — a room that is added is found by a query that has just been detached.
-/

namespace RoomSearch

/-- Who is still to hear of what. -/
def Task.awaited : Task → List (Notice × Watcher)
  | .deliver notice rest => rest.map (notice, ·)
  | _ => []

/-- Who is to hear of what because of a move. -/
def Move.awaited (m : Move) : List (Notice × Watcher) := m.tasks.flatMap Task.awaited

namespace World

variable {w : World} {q : QueryId} {query : Query} {m : Move} {t : Task}

/-! ### Who is told -/

/-- The queries among the watchers of a source are attached. -/
theorem Accounts.attached_of_mem (h : w.Accounts) {x : Source} (hmem : .query q ∈ w.audience x) :
    ∃ query, w.query? q = some query ∧ query.isAttached = true := by
  rw [audience] at hmem
  cases hf : w.feed? x with
  | none =>
    rw [hf] at hmem
    cases hmem
  | some f =>
    rw [hf] at hmem
    obtain ⟨⟨id, v⟩, hwatcher, rfl⟩ := List.mem_map.mp hmem
    obtain ⟨query, hq, hup⟩ := h.registers.owned hf hwatcher
    refine ⟨query, hq, Option.isSome_iff_exists.mpr ?_⟩
    cases ha : query.attachment with
    | some a => exact ⟨a, rfl⟩
    | none =>
      rw [Query.upstream, ha] at hup
      cases hup

theorem awaited_commit (w : World) (p : QueryId) (news : List News) :
    (w.commit p news).awaited = [] := by
  cases news <;> rfl

theorem awaited_follow (w : World) (p : QueryId) (notice : Notice) :
    (w.follow p notice).awaited = [] := by
  rcases follow_spec w p notice with hstill | ⟨query, -, hfollows⟩
  · rw [hstill]
    rfl
  · generalize w.follow p notice = m at hfollows
    cases hfollows with
    | still | joined | entered => rfl
    | presence | rooms | gone => exact awaited_commit ..
    | registration notice =>
      rw [followRegistry_eq_still]
      rfl

theorem awaited_cancel (w : World) (p : QueryId) : (w.cancel p).awaited = [] := by
  unfold cancel
  split
  · rfl
  · split
    · rfl
    · exact awaited_commit ..

/-- **While a task goes on**, nobody is added to those who are told. -/
theorem Advances.awaited (h : w.Advances t m) : m.awaited ⊆ t.awaited := by
  have hnone : m.awaited = [] → m.awaited ⊆ t.awaited := fun hnil => by
    rw [hnil]
    exact List.nil_subset _
  have hfirst : ∀ {m : Move} (notice : Notice) (v : Watcher) (rest : List Watcher),
      m.awaited = [] →
      (m.andThen [.deliver notice rest]).awaited ⊆ Task.awaited (.deliver notice (v :: rest)) := by
    intro m notice v rest hm
    rw [Move.awaited] at hm
    rw [Move.awaited, Move.andThen, List.flatMap_append, hm, List.nil_append,
      List.flatMap_singleton]
    exact List.subset_cons_self _ _
  cases h with
  | spent | dropped | withdraw | scan | rescan | search | publish | hear => exact hnone rfl
  | mergeJoined | merge | complete => exact hnone (awaited_commit ..)
  | tell notice p rest => exact hfirst notice (.query p) rest (awaited_follow w p notice)
  | tap notice t rest =>
    exact hfirst (m := ⟨w, [], some (.tap t notice), [.tapped t notice]⟩) notice (.tap t) rest rfl
  | cancelEach p rest =>
    refine hnone ?_
    rw [Move.awaited, Move.andThen, List.flatMap_append]
    exact (List.append_nil _).trans (awaited_cancel w p)

theorem awaited_announce (w : World) (x : Source) (notice : Notice) :
    (w.announce x notice).awaited = (w.audience x).map (notice, ·) := List.flatMap_singleton ..

theorem awaited_run (w : World) (p : QueryId) : (w.run p).1.awaited = [] := by
  have hruns := runs_run w p
  generalize (w.run p).1 = m at hruns
  cases hruns with
  | still | late | search => rfl

theorem awaited_setStatus (w : World) (p : QueryId) (status : Status) :
    (w.setStatus p status).1.awaited = [] := by
  have hsets := sets_setStatus w p status
  generalize (w.setStatus p status).1 = m at hsets
  cases hsets with
  | still => rfl
  | canceled => exact awaited_cancel w p
  | completed => exact awaited_commit ..

/-- **What is announced** goes to queries that are attached. -/
theorem Acts.attached_of_mem {named : String → Option QueryId} {a : Action}
    (h : w.Acts named a m) (haccounts : m.world.Accounts) {notice : Notice}
    (hmem : (notice, .query q) ∈ m.awaited) :
    ∃ query, w.query? q = some query ∧ query.isAttached = true := by
  -- an announcement is awaited by the audience of a source, and so by attached queries
  have hannounced : ∀ {x : Source} {other : Notice},
      m.awaited = (m.world.audience x).map (other, ·) → m.world.queries = w.queries →
      ∃ query, w.query? q = some query ∧ query.isAttached = true := by
    intro x other hawaited hqueries
    rw [hawaited] at hmem
    obtain ⟨v, hv, heq⟩ := List.mem_map.mp hmem
    cases heq
    obtain ⟨query, hq, hattached⟩ := haccounts.attached_of_mem hv
    exact ⟨query, (query?_of_queries_eq hqueries q).symm.trans hq, hattached⟩
  cases h with
  -- these announce nothing
  | idle | read | create | cancelAll | listen | unlisten | mention | tap => cases hmem
  | run p =>
    rw [awaited_run] at hmem
    cases hmem
  | setStatus p status =>
    rw [awaited_setStatus] at hmem
    cases hmem
  | cancel p =>
    rw [awaited_cancel] at hmem
    cases hmem
  | addRoom | removeRoom | setAutoJoin | addProvider | removeProvider | announceRoom
  | announceProvider | register | announceRegistration =>
    exact hannounced (awaited_announce ..) rfl
  | unregister service ownerStopping =>
    have hawaited := awaited_announce (w.mention service) .registrations
      (.registration ⟨service.id, .unregistering, ownerStopping⟩)
    refine hannounced (Eq.trans ?_ hawaited) rfl
    rw [Move.awaited, World.unregister, Move.andThen, List.flatMap_append]
    exact List.append_nil _
  | presence service provider room identifier change hmove =>
    obtain ⟨notice, rfl⟩ := exists_of_announcePresence? hmove
    exact hannounced (awaited_announce ..) rfl

end World

namespace Session

variable {permitted : Session → Action → Prop} {s t : Session} {q : QueryId} {query : Query}
  {notice : Notice} {rest : List Watcher} {calls : List Call}

/-- Who is still to hear of what is going round. -/
def awaited (s : Session) : List (Notice × Watcher) :=
  s.calls.flatMap fun c => c.task?.elim [] Task.awaited

/-- By the next step an announcement sets out to a watcher. -/
def SetsOut (s : Session) (notice : Notice) (v : Watcher) : Prop :=
  ∃ new, s.step.awaited = new ++ s.awaited ∧ (notice, v) ∈ new

/-- **A step** takes nothing to a query that was not on its way already, unless it sets out to an
attached one. -/
theorem Sound.awaited_next (hs : s.Sound) (hnext : Next permitted s t)
    (hmem : (notice, .query q) ∈ t.awaited) : (notice, .query q) ∈ s.awaited ∨
      t = s.step ∧ s.SetsOut notice (.query q) ∧
        ∃ query, s.world.query? q = some query ∧ query.isAttached = true := by
  cases hnext with
  | ask a hrest => cases hmem
  | @step c calls hcalls _ =>
    obtain ⟨m, first, later, hgoes⟩ := goes_step hcalls
    have hbefore : s.awaited = c.task?.elim [] Task.awaited ++
        calls.flatMap fun d => d.task?.elim [] Task.awaited := by
      rw [awaited, hcalls, List.flatMap_cons]
    have hafter : s.step.awaited = m.awaited ++
        calls.flatMap fun d => d.task?.elim [] Task.awaited := hgoes.flatMap_calls Task.awaited
    rw [hafter, List.mem_append] at hmem
    rw [hbefore, List.mem_append]
    rcases hmem with hmem | hmem
    · cases hgoes.does with
      | task u => exact .inl (.inl ((World.advances_advance s.world u).awaited hmem))
      | action hacts =>
        refine .inr ⟨rfl, ⟨m.awaited, hafter.trans ?_, hmem⟩,
          hacts.attached_of_mem (hgoes.accounts hs) hmem⟩
        rw [hbefore]
        rfl
      | idle | read => cases hmem
    · exact .inl (.inr hmem)

/-- **An announcement reaches no query** that was not attached when it set out. -/
theorem attached_of_awaited (hs : Reachable permitted s)
    (hmem : (notice, .query q) ∈ s.awaited) :
    ∃ (t : Session) (query : Query), Leads permitted t.step s ∧ t.SetsOut notice (.query q) ∧
      t.world.query? q = some query ∧ query.isAttached = true := by
  obtain ⟨config, directory, registered, limit, hleads⟩ := hs
  induction hleads with
  | refl => cases hmem
  | @tail t u hleads hnext ih =>
    have hsound := (sound_ofSources config directory registered limit).leads hleads
    rcases hsound.awaited_next hnext hmem with hmem | ⟨rfl, hsets, query, hq, hattached⟩
    · obtain ⟨t', query, hleads', hsets, hquery⟩ := ih hmem
      exact ⟨t', query, hleads'.tail hnext, hsets, hquery⟩
    · exact ⟨t, query, .refl, hsets, hq, hattached⟩

/-! ### What comes of it -/

/-- What a query makes of an announcement has come about, and nothing else. -/
structure TakesUp (s : Session) (q : QueryId) (query : Query) (notice : Notice) (t : Session) :
    Prop where
  /-- The query has the results that it makes of it. -/
  own : ∃ epoch, t.world.query? q = some { query with
    results := (query.uptake s.world.directory notice).2, epoch }
  /-- The news of that have been made known. -/
  news : ∃ added, t.notes = s.notes ++ added ∧
    added.flatMap (Note.newsOf q) = (query.uptake s.world.directory notice).1
  /-- All other queries are the same. -/
  others : ∀ {p}, p ≠ q → t.world.query? p = s.world.query? p

/-- Nobody hears from a detached query unless it has been canceled. -/
theorem not_tells_of_detached (h : s.Sound) (hq : s.world.query? q = some query)
    (hdetached : query.isAttached = false) (hlive : query.isCanceled = false) (name : String) :
    ¬ query.Tells name := by
  intro htells
  have hattached : query.attachment.isSome = true := by
    refine (h.accounts.consistent hq).attached.mpr ⟨?_, ?_⟩
    · rintro hnil
      rw [Query.Tells, hnil] at htells
      cases htells
    · intro hcanceled
      rw [Query.isCanceled, hcanceled] at hlive
      cases hlive
  exact Bool.false_ne_true (hdetached.symm.trans hattached)

/-- **A detached query** makes of an announcement what an attached one does.  The announcement was
made while the query was attached; there is nobody who could interfere. -/
theorem detached_takes_up (hs : Reachable Unrestricted s)
    (hcalls : s.calls = .task (.deliver notice (.query q :: rest)) :: calls)
    (hq : s.world.query? q = some query) (hdetached : query.isAttached = false)
    (hunhooked : s.hook = none) :
    (∃ (t : Session) (other : Query), Leads Unrestricted t.step s ∧ t.SetsOut notice (.query q) ∧
      t.world.query? q = some other ∧ other.isAttached = true) ∧
    ∃ n, (s.steps n).calls = .task (.deliver notice rest) :: calls ∧
      s.TakesUp q query notice (s.steps n) := by
  have hsound := sound_of_reachable hs
  constructor
  · refine attached_of_awaited hs ?_
    rw [awaited, hcalls, List.flatMap_cons, List.mem_append]
    exact .inl List.mem_cons_self
  -- the announcement goes on on top of the other calls
  let base : Session := { s with calls := calls }
  have hbase : s = base.during s.world [.deliver notice (.query q :: rest)] [] := by
    cases s
    cases hcalls
    rfl
  have hcalm : base.Calm fun _ => False := by
    refine ⟨⟨hsound.accounts, hsound.alive, fun {p other} hp halive => ?_⟩, hunhooked,
      fun _ _ hfalse => hfalse.elim⟩
    have hused := hsound.used hp halive
    rw [usesQuery, hcalls] at hused
    exact hused
  have hregistry : ∀ n, notice = .registration n →
      s.world.followRegistry q query n = .still s.world := by
    intro n _
    rw [World.followRegistry, Option.not_isSome_iff_eq_none.mp (Bool.eq_false_iff.mp hdetached)]
  obtain ⟨w, e, added, hamid, honly, hq', hadded⟩ := hcalm.handles rest [] [] hq
    (not_tells_of_detached hsound hq hdetached) hregistry
  obtain ⟨n, hn⟩ := hamid.exists_steps
  rw [← hbase] at hn
  refine ⟨n, ?_, ?_⟩
  · rw [← hn]
    rfl
  · rw [← hn]
    exact ⟨⟨e, hq'⟩, ⟨added, notes_during .., hadded⟩, honly.others⟩

/-! ### A room that is added -/

/-- The room that is added. -/
def addedRoom : Room := ⟨"c", "c", false⟩

/-- The room is added, and an observer that is told before the query has ended the only subscription
to the query. -/
def deserted : Session :=
  ((((((((ofSources .default twoRooms []).ask (.create "q" "" false)).steps 3).ask
    (.tap .rooms "t" 1 [.unlisten "q" "s"])).steps 3).ask
      (.listen "q" "l" "s" [] none)).steps 3).ask (.addRoom ⟨"p"⟩ addedRoom)).steps 5

theorem reachable_deserted : Reachable Unrestricted deserted := by
  refine ⟨.default, twoRooms, [], Bus.maxCapacity, ?_⟩
  have hcreated : Leads Unrestricted (ofSources .default twoRooms [])
      (((ofSources .default twoRooms []).ask (.create "q" "" false)).steps 3) :=
    leads_ask _ 3 rfl fun _ _ _ _ => trivial
  have htapped := hcreated.trans
    (leads_ask (.tap .rooms "t" 1 [.unlisten "q" "s"]) 3 rfl fun _ _ _ _ => trivial)
  have hlistened := htapped.trans
    (leads_ask (.listen "q" "l" "s" [] none) 3 rfl fun _ _ _ _ => trivial)
  exact hlistened.trans (leads_ask (.addRoom ⟨"p"⟩ addedRoom) 5 rfl fun _ _ _ _ => trivial)

/-- The query has been detached, and is reached by the announcement. -/
theorem detached_takes_up_deserted : ∃ query rest calls,
    Reachable Unrestricted deserted ∧ deserted.hook = none ∧
    deserted.calls =
      .task (.deliver (.rooms ⟨⟨"p"⟩, addedRoom, .added⟩) (.query ⟨0⟩ :: rest)) :: calls ∧
    deserted.world.query? ⟨0⟩ = some query ∧ query.isAttached = false ∧
    (∃ (t : Session) (other : Query), Leads Unrestricted t.step deserted ∧
      t.SetsOut (.rooms ⟨⟨"p"⟩, addedRoom, .added⟩) (.query ⟨0⟩) ∧
      t.world.query? ⟨0⟩ = some other ∧ other.isAttached = true) ∧
    ∃ n, (deserted.steps n).calls =
        .task (.deliver (.rooms ⟨⟨"p"⟩, addedRoom, .added⟩) rest) :: calls ∧
      deserted.TakesUp ⟨0⟩ query (.rooms ⟨⟨"p"⟩, addedRoom, .added⟩) (deserted.steps n) := by
  obtain ⟨query, hq, hdetached⟩ : ∃ query, deserted.world.query? ⟨0⟩ = some query ∧
      query.isAttached = false := ⟨_, rfl, rfl⟩
  exact ⟨query, [], _, reachable_deserted, rfl, rfl, hq, hdetached,
    detached_takes_up reachable_deserted rfl hq hdetached rfl⟩

/-- **A detached query finds** the room that is added, and makes that known, though to nobody. -/
theorem detached_finds : ∃ query after calls, Reachable Unrestricted deserted ∧
    deserted.calls =
      .task (.deliver (.rooms ⟨⟨"p"⟩, addedRoom, .added⟩) [.query ⟨0⟩]) :: calls ∧
    deserted.world.query? ⟨0⟩ = some query ∧ query.isAttached = false ∧
    query.results.find? "c" = none ∧
    deserted.step.world.query? ⟨0⟩ = some after ∧ after.isAttached = false ∧
    after.results.find? "c" = some ⟨"c", "c", ⟨"p"⟩, .offline, false⟩ ∧
    deserted.step.notes = deserted.notes ++
      [.committed ⟨0⟩ [.found ⟨"c", "c", ⟨"p"⟩, .offline, false⟩] []] :=
  ⟨_, _, _, reachable_deserted, rfl, rfl, rfl, rfl, rfl, rfl, rfl, rfl⟩

end Session

end RoomSearch
