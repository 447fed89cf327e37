import RoomSearch.Proofs.Cancellation
import RoomSearch.Proofs.Course.Pace
import RoomSearch.Proofs.Session.Log
import RoomSearch.Proofs.Session.Requests

/-!
# The course of a query

A query runs, is completed and is canceled, in this order, and it may skip the second.  It has one
search.  Whoever asks for it first is answered that it is done, as soon as everything that it leads
to is over; whoever asks later, perhaps from inside, is refused.  A request that is refused changes
nothing.

The answer of a request is settled when it is performed, and given after all that it leads to, so
that a request from inside is answered before the one that it interrupts.

## Main definitions

* `Session.outcome?` — what a query answers to the next step, if that asks it for something.
* `Session.runs` — what a query answers to requests to search.
* `Session.Governed` — what is true of a query at each moment.

## Main results

* `Session.Logged.runs_eq` — the first request to search is answered, all others are refused.
* `Session.step_of_refused` — **a request that is refused** changes nothing.
* `Session.status_governed` — **the course of a query** in every history.
-/

namespace RoomSearch

open scoped List

/-! ### What queries answer -/

namespace World

variable {w : World} {q : QueryId} {query : Query}

/-- **A query searches once**: the first request is answered, all others are refused. -/
theorem run_snd (hq : w.query? q = some query) :
    (w.run q).2 = if query.started then .error (.alreadyStarted q) else .ok () := by
  rw [run, hq]
  dsimp only
  split
  · rfl
  · split <;> rfl

/-- **A status is refused** if it lies behind, and in no other case. -/
theorem setStatus_snd_eq_error_iff (hq : w.query? q = some query) {status : Status}
    {e : QueryError QueryId} : (w.setStatus q status).2 = .error e ↔
      e = .invalidMove query.status status ∧ (query.status, status) ∈
        [(Status.completed, .running), (.canceled, .running), (.canceled, .completed)] := by
  rw [setStatus, hq]
  cases hold : query.status <;> cases status <;> simp [hold, eq_comm]

/-- A request to search that is refused comes to nothing. -/
theorem run_fst_of_error {e : QueryError QueryId} (h : (w.run q).2 = .error e) :
    (w.run q).1 = .still w := by
  revert h
  unfold run
  split
  · exact nofun
  · split
    · exact fun _ => rfl
    · dsimp only
      split <;> exact nofun

/-- A request to have a status that is refused comes to nothing. -/
theorem setStatus_fst_of_error {status : Status} {e : QueryError QueryId}
    (h : (w.setStatus q status).2 = .error e) : (w.setStatus q status).1 = .still w := by
  revert h
  unfold setStatus
  split
  · exact nofun
  · split
    · exact nofun
    · exact nofun
    · exact nofun
    · exact nofun
    · exact fun _ => rfl

/-- **The end of a search** completes the query if it is running still. -/
theorem status_advanceSearch_nil (hq : w.query? q = some query) :
    ∃ query', (w.advanceSearch q []).world.query? q = some query' ∧
      query'.status = if query.status = .running then .completed else query.status := by
  rw [advanceSearch, hq]
  dsimp only
  split
  · next hrunning =>
    refine ⟨{ query with status := .completed }, ?_, rfl⟩
    rw [moveTo, world_commit]
    exact query?_modifyQuery_self _ hq
  · exact ⟨query, hq, rfl⟩

end World

/-- What a query answers to an action that asks it to search or to have a status. -/
def Action.outcome? (w : World) (named : String → Option QueryId) :
    Action → Option (QueryId × Except (QueryError QueryId) Unit)
  | .run name | .start name => (named name).map fun q => (q, (w.run q).2)
  | .setStatus name status => (named name).map fun q => (q, (w.setStatus q status).2)
  | _ => none

namespace Session

variable {permitted : Session → Action → Prop} {s t : Session} {c : Call} {calls : List Call}
  {m : Move} {first later : List Call} {q : QueryId} {query : Query}

/-! ### Requests -/

/-- What a query answers to requests to search. -/
def runs (q : QueryId) (s : Session) : List (Except (QueryError QueryId) Unit) :=
  if s.searched? = some q then [(s.world.run q).2] else []

/-- What queries have answered so far: nothing, or that it is done and then only refusals. -/
def Answered (q : QueryId) (outcomes : List (Except (QueryError QueryId) Unit)) (s : Session) :
    Prop :=
  outcomes = [] ∧ (∀ query, s.world.query? q = some query → query.started = false) ∨
    (∃ query, s.world.query? q = some query ∧ query.started = true) ∧
      ∃ n, outcomes = .ok () :: List.replicate n (.error (.alreadyStarted q))

/-- **A request to search** leaves the query asked to search. -/
theorem Sound.started_step (hs : s.Sound) (hcalls : s.calls ≠ []) (h : s.searched? = some q) :
    ∃ query, s.step.world.query? q = some query ∧ query.started = true := by
  obtain ⟨w, hasked, hsame⟩ := hs.asked hcalls
  obtain ⟨name, -, hname⟩ := Option.bind_eq_some_iff.mp h
  obtain ⟨query, hq, -⟩ := hs.named hname
  have hw : w.query? q = some query.start := by
    cases hasked with
    | nothing hnone =>
      rw [h] at hnone
      cases hnone
    | search hsearched =>
      cases Option.some.inj (hsearched.symm.trans h)
      exact World.query?_modifyQuery_self _ hq
    | create haction =>
      rw [searched?, haction] at h
      cases h
  obtain ⟨query', hq', hrequest⟩ := hsame.exists hw
  exact ⟨query', hq', congrArg Prod.snd hrequest⟩

/-- **Nothing but a request to search** leaves a query asked to search that was not before. -/
theorem Sound.started_of_step (hs : s.Sound) (hcalls : s.calls ≠ []) (h : s.searched? ≠ some q)
    (hq : s.step.world.query? q = some query) (hstarted : query.started = true) :
    ∃ old, s.world.query? q = some old ∧ old.started = true := by
  obtain ⟨w, hasked, hsame⟩ := hs.asked hcalls
  obtain ⟨asked, hw, hrequest⟩ := hsame.symm.exists hq
  have hstarted' : asked.started = true := (congrArg Prod.snd hrequest).trans hstarted
  cases hasked with
  | nothing => exact ⟨asked, hw, hstarted'⟩
  | @search p hsearched =>
    rw [World.query?_modifyQuery_of_ne] at hw
    · exact ⟨asked, hw, hstarted'⟩
    · rintro rfl
      exact h hsearched
  | create =>
    rw [World.query?_createQuery] at hw
    split at hw
    · -- a new query has not been asked yet
      cases hw
      cases hstarted'
    · exact ⟨asked, hw, hstarted'⟩

theorem Answered.step {outcomes : List (Except (QueryError QueryId) Unit)}
    (h : Answered q outcomes s) (hs : s.Sound) (hcalls : s.calls ≠ []) :
    Answered q (outcomes ++ s.runs q) s.step := by
  by_cases hsearched : s.searched? = some q
  · refine .inr ⟨hs.started_step hcalls hsearched, ?_⟩
    obtain ⟨name, -, hname⟩ := Option.bind_eq_some_iff.mp hsearched
    obtain ⟨query, hq, -⟩ := hs.named hname
    -- the answer depends on whether the query has been started
    have hruns : s.runs q = [if query.started then .error (.alreadyStarted q) else .ok ()] := by
      rw [runs, if_pos hsearched, World.run_snd hq]
    rw [hruns]
    rcases h with ⟨rfl, hnot⟩ | ⟨⟨started, hq', hstarted⟩, n, rfl⟩
    · refine ⟨0, ?_⟩
      rw [hnot query hq]
      rfl
    · cases Option.some.inj (hq'.symm.trans hq)
      refine ⟨n + 1, ?_⟩
      rw [if_pos hstarted, List.replicate_succ', List.cons_append]
  · -- nothing is answered, and what is started stays started
    have hruns : s.runs q = [] := if_neg hsearched
    rw [hruns, List.append_nil]
    rcases h with ⟨hnil, hnot⟩ | ⟨⟨query, hq, hstarted⟩, hok⟩
    · refine .inl ⟨hnil, ?_⟩
      intro query hq
      apply Bool.eq_false_iff.mpr
      intro hstarted
      obtain ⟨old, hold, hstarted'⟩ := hs.started_of_step hcalls hsearched hq hstarted
      rw [hnot old hold] at hstarted'
      cases hstarted'
    · obtain ⟨c, calls, hc⟩ := List.exists_cons_of_ne_nil hcalls
      obtain ⟨m, first, later, hgoes⟩ := goes_step hc
      obtain ⟨query', hq', hgrows⟩ := (hgoes.later_world hs).kept hq
      exact .inr ⟨⟨query', hq', hgrows.started hstarted⟩, hok⟩

theorem Logged.answered {outcomes : List (Except (QueryError QueryId) Unit)}
    (h : Logged permitted (runs q) outcomes s) : Answered q outcomes s := by
  induction h with
  | start config directory registered limit => exact .inl ⟨rfl, nofun⟩
  | ask h a hrest ih => exact ih
  | step h hcalls hpermitted ih =>
    refine ih.step (sound_of_reachable h.reachable) ?_
    rw [hcalls]
    exact List.cons_ne_nil _ _

/-- **A query searches once**: the first request is answered, all others are refused. -/
theorem Logged.runs_eq {outcomes : List (Except (QueryError QueryId) Unit)}
    (h : Logged permitted (runs q) outcomes s) :
    outcomes = [] ∨ ∃ n, outcomes = .ok () :: List.replicate n (.error (.alreadyStarted q)) :=
  h.answered.imp And.left And.right

/-! ### Outcomes -/

/-- What a query answers to the next step, if that asks it to search or to have a status. -/
def outcome? (s : Session) : Option (QueryId × Except (QueryError QueryId) Unit) :=
  s.action?.bind (Action.outcome? s.world s.query?)

/-- A query that is asked to search answers. -/
theorem outcome?_of_searched (h : s.searched? = some q) :
    s.outcome? = some (q, (s.world.run q).2) := by
  obtain ⟨name, hname, hq⟩ := Option.bind_eq_some_iff.mp h
  obtain ⟨a, haction, hname⟩ := Option.bind_eq_some_iff.mp hname
  rw [outcome?, haction]
  cases a with
  | run | start =>
    cases hname
    exact congrArg (Option.map _) hq
  | _ => cases hname

/-- **A request is settled** when it is performed; one that is refused comes to nothing. -/
theorem perform_outcome {a : Action} {outcome : Except (QueryError QueryId) Unit}
    (h : a.outcome? s.world s.query? = some (q, outcome)) :
    ∃ m, s.perform a = s.conclude a m (replyOf outcome) ∧ m.callback = none ∧
      ∀ e, outcome = .error e → m = .still s.world := by
  cases a with
  | run name | start name =>
    obtain ⟨p, hp, heq⟩ := Option.map_eq_some_iff.mp h
    cases heq
    refine ⟨(s.world.run q).1, ?_, (World.runs_run ..).callback, fun e => World.run_fst_of_error⟩
    rw [perform, withQuery_of_some hp]
  | setStatus name status =>
    obtain ⟨p, hp, heq⟩ := Option.map_eq_some_iff.mp h
    cases heq
    refine ⟨(s.world.setStatus q status).1, ?_, (World.sets_setStatus ..).callback,
      fun e => World.setStatus_fst_of_error⟩
    rw [perform, withQuery_of_some hp]
  | _ => cases h

/-- **A request is answered** when all that it leads to is over. -/
theorem answered_of_outcome {outcome : Except (QueryError QueryId) Unit}
    (h : s.outcome? = some (q, outcome)) : ∃ a rest calls n,
      s.calls = .script (a :: rest) :: calls ∧
      (s.step.steps n).calls = .answer a.verb (replyOf outcome) :: .script rest :: calls := by
  obtain ⟨a, haction, houtcome⟩ := Option.bind_eq_some_iff.mp h
  obtain ⟨rest, calls, hcalls⟩ := exists_calls_of_action? haction
  obtain ⟨m, hperform, hcallback, -⟩ :=
    perform_outcome (s := { s with calls := .script rest :: calls }) houtcome
  obtain ⟨first, habs⟩ := absorbs_absorb { s with calls := .script rest :: calls } m
    [.answer a.verb (replyOf outcome)]
  have hstep : s.step.calls =
      m.tasks.map Call.task ++ .answer a.verb (replyOf outcome) :: .script rest :: calls := by
    rw [step_of_action hcalls, hperform]
    refine habs.calls.trans ?_
    rw [habs.unasked hcallback, List.nil_append, List.append_assoc]
    rfl
  obtain ⟨n, hover, -⟩ := exists_steps_calls hstep
  exact ⟨a, rest, calls, n, hcalls, hover⟩

/-- **A request that is refused** changes nothing, and its answer comes at once; what is not in use
is let go of, as after every step, and this can be a bus at most. -/
theorem step_of_refused (hs : s.Sound) {e : QueryError QueryId}
    (h : s.outcome? = some (q, .error e)) : ∃ a rest calls closedBuses,
      s.calls = .script (a :: rest) :: calls ∧
      s.step = { s with
        world := { s.world with closedBuses := closedBuses }
        calls := .answer a.verb (.failed (.refused e)) :: .script rest :: calls } := by
  obtain ⟨a, haction, houtcome⟩ := Option.bind_eq_some_iff.mp h
  obtain ⟨rest, calls, hcalls⟩ := exists_calls_of_action? haction
  obtain ⟨m, hperform, -, hstill⟩ :=
    perform_outcome (s := { s with calls := .script rest :: calls }) houtcome
  have hm : m = .still s.world := hstill e rfl
  subst hm
  have hstep : s.step = { s with
      calls := .answer a.verb (.failed (.refused e)) :: .script rest :: calls }.sweep := by
    rw [step_of_action hcalls, hperform]
    rfl
  -- scripts and answers refer to no query, so that all queries are in use that were before
  have hworld : s.world.releaseQueries s.step.usesQuery = s.world := by
    refine World.releaseQueries_eq_self ?_
    intro p query hp halive
    have hused := hs.used hp halive
    rw [usesQuery, hcalls] at hused
    rw [hstep]
    exact hused
  refine ⟨a, rest, calls, s.step.world.closedBuses, hcalls, ?_⟩
  have hreleased : s.step.world = { s.world with closedBuses := s.step.world.closedBuses } := by
    have hsweep : s.step.world =
        (s.world.releaseQueries s.step.usesQuery).releaseBuses s.step.usesBus := by
      rw [hstep]
      rfl
    rw [hworld] at hsweep
    rw [hsweep]
    rfl
  rw [← hreleased, hstep]
  rfl

/-! ### The course of a query -/

/-- The end of a search completes the query if it is running still. -/
theorem status_step_of_search_nil (hs : s.Sound) (hcalls : s.calls = .task (.search q []) :: calls)
    (hq : s.world.query? q = some query) : ∃ query', s.step.world.query? q = some query' ∧
      query'.status = if query.status = .running then .completed else query.status := by
  obtain ⟨m, first, later, hgoes⟩ := goes_step hcalls
  obtain ⟨moved, hmoved, hstatus⟩ := World.status_advanceSearch_nil hq
  have hm : m.world.query? q = some moved := by
    rw [hgoes.move_task]
    exact hmoved
  obtain ⟨query', hq', hfound⟩ := (hgoes.releases hs).findings.exists hm
  exact ⟨query', hq', hfound.status.trans hstatus⟩

/-- A query begins by running, and nobody has asked it to search. -/
theorem Sound.begins (hs : s.Sound) (hnext : Next permitted s t)
    (hnone : s.world.query? q = none) (hq : t.world.query? q = some query) :
    query.status = .running ∧ query.started = false := by
  cases hnext with
  | ask a hrest =>
    rw [show (s.ask a).world = s.world from rfl, hnone] at hq
    cases hq
  | step hcalls hpermitted =>
    have hnonempty : s.calls ≠ [] := by
      rw [hcalls]
      exact List.cons_ne_nil _ _
    obtain ⟨name, text, isTracked, -, -, hfound⟩ := hs.born hnonempty hnone hq
    exact ⟨hfound.status, hfound.started⟩

/-- What is true of a query in a session, and of whatever happens next: `outcomes` is what it has
answered so far to those who asked it to search. -/
structure Governed (q : QueryId) (outcomes : List (Except (QueryError QueryId) Unit))
    (s : Session) : Prop where
  /-- A query begins by running. -/
  begins : ∀ {t query}, Next Unrestricted s t → s.world.query? q = none →
    t.world.query? q = some query → query.status = .running ∧ query.started = false
  /-- Whatever happens, the status stays or moves forward.  Nothing is told of a status that stays,
  and every subscription is told once of one that moves. -/
  moves : ∀ {t query}, Next Unrestricted s t → s.world.query? q = some query →
    ∃ query' letters, t.world.query? q = some query' ∧ t.sent = s.sent ++ letters ∧
      Paces q query query' (s.world.subscriptions q) letters s.completing?
  /-- What is told is heard, or is going to be heard by a call in progress. -/
  delivered : (s.received ++ s.owed).Perm s.sent
  /-- No subscription has heard of a status twice. -/
  once : ∀ id status, s.received.count ⟨q, id, .moved status⟩ ≤ 1
  /-- The end of a search completes the query if it is running still. -/
  finish : ∀ {query calls}, s.calls = .task (.search q []) :: calls →
    s.world.query? q = some query → ∃ query', s.step.world.query? q = some query' ∧
      query'.status = if query.status = .running then .completed else query.status
  /-- The first request to search is answered, all others are refused. -/
  searches : outcomes = [] ∨
    ∃ n, outcomes = .ok () :: List.replicate n (.error (.alreadyStarted q))
  /-- Who asks for a search is one of those who are answered so. -/
  asked : s.searched? = some q → s.outcome? = some (q, (s.world.run q).2)
  /-- A status that lies behind is refused, and no other. -/
  refuses : ∀ {name status query}, s.action? = some (.setStatus name status) →
    s.query? name = some q → s.world.query? q = some query → ∀ e,
      s.outcome? = some (q, .error e) ↔ e = .invalidMove query.status status ∧
        (query.status, status) ∈
          [(Status.completed, .running), (.canceled, .running), (.canceled, .completed)]
  /-- A request is answered when all that it leads to is over. -/
  answers : ∀ {outcome}, s.outcome? = some (q, outcome) → ∃ a rest calls n,
    s.calls = .script (a :: rest) :: calls ∧
    (s.step.steps n).calls = .answer a.verb (replyOf outcome) :: .script rest :: calls
  /-- A request that is refused changes nothing; only a bus may be closed that nobody uses. -/
  refused : ∀ {e}, s.outcome? = some (q, .error e) → ∃ a rest calls closedBuses,
    s.calls = .script (a :: rest) :: calls ∧
    s.step = { s with
      world := { s.world with closedBuses := closedBuses }
      calls := .answer a.verb (.failed (.refused e)) :: .script rest :: calls }

/-- **The course of a query**, whatever happens, and whoever asks for it from wherever. -/
theorem status_governed {outcomes : List (Except (QueryError QueryId) Unit)}
    (h : Logged Unrestricted (runs q) outcomes s) : Governed q outcomes s := by
  have horderly := orderly_of_reachable h.reachable
  have hs := horderly.sound
  refine ⟨hs.begins, horderly.paces, horderly.perm, ?_, status_step_of_search_nil hs, h.runs_eq,
    outcome?_of_searched, ?_, answered_of_outcome, step_of_refused hs⟩
  · intro id status
    have honce := (paced_of_reachable h.reachable).once q id status
    rw [← horderly.perm.count_eq, List.count_append] at honce
    omega
  · intro name status query haction hname hq e
    rw [outcome?, haction, Option.bind_some, Action.outcome?, hname, Option.map_some,
      Option.some.injEq, Prod.mk.injEq]
    exact (and_iff_right rfl).trans (World.setStatus_snd_eq_error_iff hq)

/-- A query for every room, which is going to be interrupted when it reads: it is asked to search
again, completed, and asked to run. -/
def readyToBeAsked : Session :=
  (((ofSources .default twoRooms []).ask (.create "q" "" false)).steps 3).ask
    (.afterRead [.run "q", .setStatus "q" .completed, .setStatus "q" .running])

/-- The search has been interrupted, and the last request from inside is about to be refused. -/
def askedInside : Session := ((readyToBeAsked.steps 3).ask (.run "q")).steps 8

theorem logged_askedInside : Logged Unrestricted (runs ⟨0⟩)
    [.ok (), .error (.alreadyStarted ⟨0⟩)] askedInside := by
  have hstart : Logged Unrestricted (runs ⟨0⟩) [] (ofSources .default twoRooms []) := .start ..
  have hmade := (hstart.ask (.create "q" "" false) rfl).steps 3 (by decide +kernel)
    (fun _ _ _ _ => trivial) rfl
  have hprepared := (hmade.ask (.afterRead [.run "q", .setStatus "q" .completed,
    .setStatus "q" .running]) rfl).steps 3 (by decide +kernel) (fun _ _ _ _ => trivial) rfl
  exact (hprepared.ask (.run "q") rfl).steps 8 (by decide +kernel) (fun _ _ _ _ => trivial) rfl

theorem status_governed_askedInside :
    Logged Unrestricted (runs ⟨0⟩) [.ok (), .error (.alreadyStarted ⟨0⟩)] askedInside ∧
      Governed ⟨0⟩ [.ok (), .error (.alreadyStarted ⟨0⟩)] askedInside :=
  ⟨logged_askedInside, status_governed logged_askedInside⟩

end Session

end RoomSearch
