import RoomSearch.Proofs.Attachment
import RoomSearch.Proofs.Cancellation
import RoomSearch.Proofs.Session.Log
import RoomSearch.Proofs.Session.Requests
import RoomSearch.Proofs.World.Setting

/-!
# Queries that are kept track of

The source that makes queries keeps track of them without holding them.  Those that are gone are
forgotten when the next query is made, and all are forgotten at the beginning of the call that
cancels them; this call goes on with the list it has taken, so what its notifications bring along
is not on it.

Of each query that was ever made and kept track of one of three things can be said (`Accounted`): it
is on the list, it is gone or canceled, or a call in progress is going to cancel it.  While there is
no such call, the queries on the list that are neither gone nor canceled are therefore all there
are.

## Main definitions

* `World.isLive` — a query is referred to and has not been canceled.
* `Session.tracks` — the queries that a step makes and keeps track of.
* `Session.IsQuiet` — no call that cancels all queries is in progress.
* `Session.Accounted` — the queries kept track of, among those that have been made.
* `Session.CancelsAll` — what is true of a call that cancels all queries when it is over.

## Main results

* `Session.Logged.accounted` — the queries that have been made are accounted for.
* `Session.Quits.leads` — what a call is going to cancel is canceled when no such call is left.
* `Session.exists_cancelAll` — such a call is over some time later, and leaves other queries alone.
* `Session.tracking_accounts` — **the queries kept track of** are those that were made, at all
  times, and canceling them all cancels them all.
-/

namespace RoomSearch

namespace World

/-- A query is referred to. -/
def isAlive (w : World) (q : QueryId) : Bool := (w.query? q).elim false Query.alive

/-- A query is referred to and has not been canceled. -/
def isLive (w : World) (q : QueryId) : Bool :=
  (w.query? q).elim false fun query => query.alive && !query.isCanceled

/-- A query has been canceled. -/
def HasEnded (w : World) (q : QueryId) : Prop :=
  ∃ query, w.query? q = some query ∧ query.status = .canceled

variable {w w' : World} {q : QueryId} {query : Query} {m : Move}

theorem activeQueries_eq (w : World) : w.activeQueries = w.tracked.filter w.isLive := by
  rw [activeQueries, aliveQueries, List.filter_filter]
  congr 1
  funext q
  rw [isLive]
  cases w.query? q with
  | none => rfl
  | some query => exact Bool.and_comm ..

theorem isAlive_of_isLive (h : w.isLive q = true) : w.isAlive q = true := by
  rw [isLive] at h
  rw [isAlive]
  cases hq : w.query? q with
  | none =>
    rw [hq] at h
    cases h
  | some query =>
    rw [hq] at h
    exact (Bool.and_eq_true_iff.mp h).1

theorem isLive_eq_false_of_isAlive (h : w.isAlive q = false) : w.isLive q = false := by
  apply Bool.eq_false_iff.mpr
  intro hlive
  rw [isAlive_of_isLive hlive] at h
  cases h

theorem HasEnded.isLive (h : w.HasEnded q) : w.isLive q = false := by
  obtain ⟨query, hq, hcanceled⟩ := h
  rw [World.isLive, hq, Option.elim_some, Query.isCanceled, hcanceled]
  exact Bool.and_false _

theorem HasEnded.later (h : w.HasEnded q) (hlater : Later w w') : w'.HasEnded q := by
  obtain ⟨query, hq, hcanceled⟩ := h
  obtain ⟨query', hq', hgrows⟩ := hlater.kept hq
  exact ⟨query', hq', hgrows.canceled hcanceled⟩

theorem hasEnded_cancel (h : w.Accounts) (hq : w.query? q = some query) :
    (w.cancel q).world.HasEnded q := by
  obtain ⟨a, hfound⟩ := (h.cancel hq).found
  exact ⟨_, hfound, rfl⟩

/-- Canceling a query leaves the others alone. -/
theorem query?_cancel_of_ne (h : w.Accounts) {p : QueryId} (hne : p ≠ q) :
    (w.cancel q).world.query? p = w.query? p := by
  cases hq : w.query? q with
  | none =>
    rw [cancel, hq]
    rfl
  | some query => exact (h.cancel hq).rewires.others hne

/-- **A query that is gone or canceled** stays so. -/
theorem isLive_eq_false_of_later (h : Later w w') (hq : w.query? q = some query)
    (hnot : w.isLive q = false) : w'.isLive q = false := by
  obtain ⟨query', hq', hgrows⟩ := h.kept hq
  rw [isLive, hq, Option.elim_some] at hnot
  rw [isLive, hq', Option.elim_some]
  apply Bool.eq_false_iff.mpr
  intro hlive
  obtain ⟨halive, hactive⟩ := Bool.and_eq_true_iff.mp hlive
  have hcanceled : query.status = .canceled := by
    simpa [hgrows.alive halive, Query.isCanceled] using hnot
  rw [Query.isCanceled, hgrows.canceled hcanceled] at hactive
  cases hactive

/-! ### The list -/

/-- **A task** leaves the list alone. -/
theorem tracked_advance (w : World) (t : Task) : (w.advance t).world.tracked = w.tracked := by
  have hsetting := congrArg Setting.tracked (setting_advance w t)
  cases t <;> exact hsetting

theorem Runs.tracked (h : w.Runs q m) : m.world.tracked = w.tracked := by
  cases h <;> rfl

theorem Sets.tracked (h : w.Sets q m) : m.world.tracked = w.tracked := by
  cases h with
  | still => rfl
  | canceled => exact congrArg Setting.tracked (overlooks_setting.cancel w q)
  | completed => exact congrArg Setting.tracked (overlooks_setting.moveTo w q .completed)

/-- **An action** leaves the list alone, unless it makes a query that is kept track of or cancels
all of them. -/
theorem Acts.tracked {named : String → Option QueryId} {a : Action} (h : Acts w named a m)
    (hcreate : ∀ name text, a ≠ .create name text true) (hall : a ≠ .cancelAll) :
    m.world.tracked = w.tracked := by
  cases h with
  | idle haside =>
    obtain ⟨buses, closedBuses, rfl⟩ := haside
    rfl
  | create name text isTracked =>
    cases isTracked with
    | false => rfl
    | true => exact absurd rfl (hcreate name text)
  | run q => exact (runs_run w q).tracked
  | setStatus q status => exact (sets_setStatus w q status).tracked
  | cancel q => exact congrArg Setting.tracked (overlooks_setting.cancel w q)
  | cancelAll => exact absurd rfl hall
  | listen hq subscriber =>
    exact congrArg Setting.tracked (overlooks_setting.subscribe w _ subscriber)
  | unlisten hq id => exact congrArg Setting.tracked (overlooks_setting.unsubscribe w _ id)
  | presence m provider room identifier change hpresence =>
    obtain ⟨notice, rfl⟩ := exists_of_announcePresence? hpresence
    rfl
  | @tap target name uses steps w' hw x hfeed t =>
    have hwatch := congrArg Setting.tracked (overlooks_setting.watch w' x (.tap t))
    refine hwatch.trans ?_
    rcases hw with rfl | ⟨m, rfl⟩ <;> rfl
  | _ => rfl

end World

namespace Session

/-- The queries that the next step makes and keeps track of: one or none. -/
def tracks (s : Session) : List QueryId :=
  match s.action? with
  | some (.create _ _ true) => [⟨s.world.queries.length⟩]
  | _ => []

/-- No call that cancels all queries is in progress. -/
def IsQuiet (s : Session) : Prop := ∀ rest, .task (.cancelEach rest) ∉ s.calls

/-- A call in progress is going to cancel a query. -/
def Quits (s : Session) (q : QueryId) : Prop :=
  ∃ rest, .task (.cancelEach rest) ∈ s.calls ∧ q ∈ rest

/-- The list of queries kept track of, among those `made` that have been made to be kept track of.
-/
structure Accounted (made : List QueryId) (s : Session) : Prop where
  /-- The list is in order of creation, and nothing else is on it. -/
  kept : s.world.tracked.Sublist made
  /-- Queries are made one after the other. -/
  ascending : made.Pairwise fun p q => p.index < q.index
  /-- A query that was made is there. -/
  found : ∀ q ∈ made, ∃ query, s.world.query? q = some query
  /-- It is on the list, or it is gone or canceled, or it is going to be canceled. -/
  accounted : ∀ q ∈ made, q ∈ s.world.tracked ∨ s.world.isLive q = false ∨ s.Quits q

variable {permitted : Session → Action → Prop} {made : List QueryId} {s t : Session} {c : Call}
  {calls : List Call} {m : Move} {first later : List Call} {q : QueryId}

/-! ### One step -/

theorem tracks_of_not_create (h : ∀ name text, s.action? ≠ some (.create name text true)) :
    s.tracks = [] := by
  unfold tracks
  split
  · next name text haction => exact absurd haction (h name text)
  · rfl

/-- **A query that is going to be canceled** is going to be canceled after a step as well, or it has
been canceled. -/
theorem Goes.quits (h : s.Goes c calls m first later t) (hs : s.Sound)
    (hcalls : s.calls = c :: calls) {query : Query} (hq : s.world.query? q = some query)
    (hquits : s.Quits q) : t.world.HasEnded q ∨ t.Quits q := by
  obtain ⟨rest, hmem, hrest⟩ := hquits
  rw [hcalls] at hmem
  rcases List.mem_cons.mp hmem with rfl | hmem
  · have hm := h.move_task
    cases rest with
    | nil => cases hrest
    | cons p rest =>
      rcases List.mem_cons.mp hrest with rfl | hrest
      · -- it has just been canceled
        have hended : m.world.HasEnded q := by
          rw [hm]
          exact World.hasEnded_cancel hs.accounts hq
        exact .inl (hended.later (h.releases hs).later)
      · refine .inr ⟨rest, ?_, hrest⟩
        have htask : Task.cancelEach rest ∈ m.tasks := by
          rw [hm]
          exact List.mem_append_right _ List.mem_cons_self
        rw [h.calls]
        exact List.mem_append_left _ (List.mem_append_left _
          (List.mem_append_right _ (List.mem_map_of_mem htask)))
  · refine .inr ⟨rest, ?_, hrest⟩
    rw [h.calls]
    exact List.mem_append_right _ hmem

theorem tracked_sweep (s : Session) : s.sweep.world.tracked = s.world.tracked :=
  congrArg Setting.tracked (World.overlooks_setting.release s.world s.usesQuery s.usesBus)

/-- A query that is made to be kept track of comes last on the list, from which those that are gone
have been taken. -/
theorem tracked_create {name text : String} {rest : List Action}
    (h : s.calls = .script (.create name text true :: rest) :: calls) :
    s.step.world.tracked =
      s.world.tracked.filter s.world.isAlive ++ [⟨s.world.queries.length⟩] := by
  rw [step_of_action h, tracked_sweep]
  rfl

/-- The call that cancels all queries takes the list. -/
theorem calls_cancelAll {rest : List Action} (h : s.calls = .script (.cancelAll :: rest) :: calls) :
    s.step.calls = .task (.cancelEach s.world.aliveQueries) ::
      .answer Action.cancelAll.verb .done :: .script rest :: calls := by
  rw [step_of_action h]
  rfl

theorem Goes.tracked (h : s.Goes c calls m first later t)
    (hcreate : ∀ name text, c.action? ≠ some (.create name text true))
    (hall : c.action? ≠ some .cancelAll) : t.world.tracked = s.world.tracked := by
  have hreleased : t.world.tracked = m.world.tracked := by
    rw [h.world]
    exact congrArg Setting.tracked (World.overlooks_setting.release m.world t.usesQuery t.usesBus)
  rw [hreleased]
  cases h.does with
  | task task => exact World.tracked_advance s.world task
  | idle | read => rfl
  | action hacts =>
    refine hacts.tracked ?_ ?_
    · rintro name text rfl
      exact hcreate name text rfl
    · rintro rfl
      exact hall rfl

/-- What was accounted for is accounted for after a step, if the list has changed for a reason. -/
theorem Accounted.goes (h : s.Accounted made) (hs : s.Sound)
    (hgoes : s.Goes c calls m first later t) (hcalls : s.calls = c :: calls)
    (hkept : ∀ q ∈ s.world.tracked,
      q ∈ t.world.tracked ∨ s.world.isLive q = false ∨ t.Quits q) :
    ∀ q ∈ made, (∃ query, t.world.query? q = some query) ∧
      (q ∈ t.world.tracked ∨ t.world.isLive q = false ∨ t.Quits q) := by
  intro q hq
  have hlater := hgoes.later_world hs
  obtain ⟨query, hquery⟩ := h.found q hq
  obtain ⟨query', hquery', -⟩ := hlater.kept hquery
  refine ⟨⟨query', hquery'⟩, ?_⟩
  have hdead : s.world.isLive q = false → t.world.isLive q = false :=
    World.isLive_eq_false_of_later hlater hquery
  rcases h.accounted q hq with htracked | hnot | hquits
  · rcases hkept q htracked with hstays | hnot | hquits
    · exact .inl hstays
    · exact .inr (.inl (hdead hnot))
    · exact .inr (.inr hquits)
  · exact .inr (.inl (hdead hnot))
  · rcases hgoes.quits hs hcalls hquery hquits with hended | hquits
    · exact .inr (.inl hended.isLive)
    · exact .inr (.inr hquits)

/-- **A step** that makes a query to be kept track of. -/
theorem Accounted.create (h : s.Accounted made) (hs : s.Sound) {name text : String}
    (haction : s.action? = some (.create name text true)) :
    s.step.Accounted (made ++ [⟨s.world.queries.length⟩]) := by
  obtain ⟨rest, calls, hcalls⟩ := exists_calls_of_action? haction
  obtain ⟨m, first, later, hgoes⟩ := goes_step hcalls
  have htracked := tracked_create hcalls
  -- what was on the list and is referred to stays on it
  have hold := h.goes hs hgoes hcalls (by
    intro q hq
    cases halive : s.world.isAlive q with
    | true =>
      refine .inl ?_
      rw [htracked]
      exact List.mem_append_left _ (List.mem_filter.mpr ⟨hq, halive⟩)
    | false => exact .inr (.inl (World.isLive_eq_false_of_isAlive halive)))
  have hnew : (⟨s.world.queries.length⟩ : QueryId) ∈ s.step.world.tracked := by
    rw [htracked]
    exact List.mem_append_right _ List.mem_cons_self
  refine ⟨?_, ?_, ?_, ?_⟩
  · rw [htracked]
    exact (List.filter_sublist.trans h.kept).append_right _
  · refine List.pairwise_append.mpr ⟨h.ascending, List.pairwise_singleton .., ?_⟩
    -- the queries that were made before have smaller indices
    intro q hq p hp
    obtain ⟨query, hquery⟩ := h.found q hq
    rw [List.mem_singleton.mp hp]
    exact (List.getElem?_eq_some_iff.mp hquery).1
  · intro q hq
    rcases List.mem_append.mp hq with hq | hq
    · exact (hold q hq).1
    · rw [List.mem_singleton.mp hq]
      obtain ⟨query, hquery, -⟩ := (World.releases_release (hs.accounts.createQuery text true)
        s.step.usesQuery s.step.usesBus).findings.exists (World.query?_createQuery_new ..)
      have hworld : s.step.world = (s.world.createQuery text true).1.release s.step.usesQuery
          s.step.usesBus := by
        rw [step_of_action hcalls]
        rfl
      exact ⟨query, hworld ▸ hquery⟩
  · intro q hq
    rcases List.mem_append.mp hq with hq | hq
    · exact (hold q hq).2
    · rw [List.mem_singleton.mp hq]
      exact .inl hnew

/-- **A step** accounts for the queries made before it and for the one it makes. -/
theorem Accounted.step (h : s.Accounted made) (hs : s.Sound) (hcalls : s.calls = c :: calls) :
    s.step.Accounted (made ++ s.tracks) := by
  by_cases hcreate : ∃ name text, s.action? = some (.create name text true)
  · -- one more query is tracked
    obtain ⟨name, text, haction⟩ := hcreate
    have htracks : s.tracks = [⟨s.world.queries.length⟩] := by rw [tracks, haction]
    rw [htracks]
    exact h.create hs haction
  · have hnone : ∀ name text, s.action? ≠ some (.create name text true) :=
      fun name text haction => hcreate ⟨name, text, haction⟩
    obtain ⟨m, first, later, hgoes⟩ := goes_step hcalls
    have haction := action?_of_calls hcalls
    rw [tracks_of_not_create hnone, List.append_nil]
    -- either all queries are canceled, or the list stays as it is
    by_cases hall : s.action? = some .cancelAll
    · obtain ⟨rest, calls', hscript⟩ := exists_calls_of_action? hall
      have htracked : s.step.world.tracked = [] := by
        rw [step_of_action hscript, tracked_sweep]
        rfl
      -- all that were on the list and are still there are going to be canceled
      have hkept := h.goes hs hgoes hcalls (by
        intro q hq
        cases halive : s.world.isAlive q with
        | true =>
          refine .inr (.inr ⟨s.world.aliveQueries, ?_, List.mem_filter.mpr ⟨hq, halive⟩⟩)
          rw [calls_cancelAll hscript]
          exact List.mem_cons_self
        | false => exact .inr (.inl (World.isLive_eq_false_of_isAlive halive)))
      refine ⟨?_, h.ascending, fun q hq => (hkept q hq).1, fun q hq => (hkept q hq).2⟩
      rw [htracked]
      exact List.nil_sublist made
    · have htracked : s.step.world.tracked = s.world.tracked := by
        refine hgoes.tracked ?_ ?_
        · rwa [haction] at hnone
        · rwa [haction] at hall
      have hkept := h.goes hs hgoes hcalls fun q hq => .inl (htracked ▸ hq)
      refine ⟨?_, h.ascending, fun q hq => (hkept q hq).1, fun q hq => (hkept q hq).2⟩
      rw [htracked]
      exact h.kept

/-- **The queries that have been made** are accounted for in every history. -/
theorem Logged.accounted (h : Logged permitted tracks made s) : s.Accounted made := by
  induction h with
  | start config directory registered limit => exact ⟨.slnil, .nil, nofun, nofun⟩
  | ask h a hrest ih =>
    refine ⟨ih.kept, ih.ascending, ih.found, ?_⟩
    intro q hq
    rcases ih.accounted q hq with htracked | hnot | ⟨rest, hmem, -⟩
    · exact .inl htracked
    · exact .inr (.inl hnot)
    · rw [hrest] at hmem
      cases hmem
  | step h hcalls hpermitted ih => exact ih.step (sound_of_reachable h.reachable) hcalls

/-! ### The queries that are listed -/

/-- A sublist with all the members that count has the same members that count. -/
theorem filter_eq_of_sublist {α : Type} {l l' : List α} {p : α → Bool} (h : l.Sublist l')
    (hnodup : l'.Nodup) (hall : ∀ x ∈ l', p x = true → x ∈ l) : l.filter p = l'.filter p := by
  refine (h.filter p).eq_of_length_le ?_
  refine (List.subperm_of_subset (hnodup.filter p) ?_).length_le
  intro x hx
  obtain ⟨hmem, hp⟩ := List.mem_filter.mp hx
  exact List.mem_filter.mpr ⟨hall x hmem hp, hp⟩

theorem Accounted.nodup (h : s.Accounted made) : made.Nodup := by
  refine h.ascending.imp ?_
  intro p q hlt heq
  rw [heq] at hlt
  exact Nat.lt_irrefl _ hlt

/-- **The active queries** are those that were made and are live. -/
theorem Accounted.activeQueries_eq (h : s.Accounted made) (hquiet : s.IsQuiet) :
    s.world.activeQueries = made.filter s.world.isLive := by
  rw [World.activeQueries_eq]
  refine filter_eq_of_sublist h.kept h.nodup ?_
  intro q hq hlive
  rcases h.accounted q hq with htracked | hnot | ⟨rest, hmem, -⟩
  · exact htracked
  · rw [hnot] at hlive
    cases hlive
  · exact absurd hmem (hquiet rest)

/-! ### Canceling all queries -/

/-- A query is canceled and subscribed to nothing. -/
def Over (t : Session) (q : QueryId) : Prop :=
  ∃ query, t.world.query? q = some query ∧ query.status = .canceled ∧ query.isAttached = false ∧
    ∀ x, t.world.listeners x q = 0

theorem Sound.over (hs : s.Sound) {query : Query} (hq : s.world.query? q = some query)
    (hcanceled : query.status = .canceled) : s.Over q := by
  obtain ⟨hnone, hapart⟩ := hs.detached hq hcanceled
  refine ⟨query, hq, hcanceled, ?_, hapart⟩
  rw [Query.isAttached, hnone, Option.isSome_none]

/-- What is going to be canceled is so still, or has been canceled. -/
theorem Sound.quits_next (hs : s.Sound) (hnext : Next permitted s t) {query : Query}
    (hq : s.world.query? q = some query) (h : s.world.HasEnded q ∨ s.Quits q) :
    t.world.HasEnded q ∨ t.Quits q := by
  rcases h with hended | hquits
  · exact .inl (hended.later (hs.later_next hnext))
  · cases hnext with
    | ask a hrest =>
      obtain ⟨rest, hmem, -⟩ := hquits
      rw [hrest] at hmem
      cases hmem
    | step hcalls hpermitted =>
      obtain ⟨m, first, later, hgoes⟩ := goes_step hcalls
      exact hgoes.quits hs hcalls hq hquits

/-- **What is going to be canceled** is over as soon as no call is going to cancel anything. -/
theorem Sound.over_of_quits (hs : s.Sound) {query : Query} (hq : s.world.query? q = some query)
    (h : s.world.HasEnded q ∨ s.Quits q) (hleads : Leads permitted s t) (hquiet : t.IsQuiet) :
    t.Over q := by
  have hall : t.world.HasEnded q ∨ t.Quits q := by
    clear hquiet
    induction hleads with
    | refl => exact h
    | tail hleads hnext ih =>
      obtain ⟨query', hq', -⟩ := (hs.later hleads).kept hq
      exact (hs.leads hleads).quits_next hnext hq' ih
  rcases hall with ⟨query', hq', hcanceled⟩ | ⟨rest, hmem, -⟩
  · exact (hs.leads hleads).over hq' hcanceled
  · exact absurd hmem (hquiet rest)

theorem held_step_task {task : Task} (hcalls : s.calls = .task task :: calls) :
    s.step.held = s.held := by
  obtain ⟨first, habs⟩ := absorbs_absorb { s with calls := calls } (s.world.advance task) []
  rw [step_of_task hcalls]
  exact habs.held

/-- **The call that cancels queries** touches those that it has left, and no other. -/
theorem Sound.query?_cancelEach (hs : s.Sound) {left : List QueryId}
    (hcalls : s.calls = .task (.cancelEach left) :: calls) (hq : q ∉ left) :
    s.step.world.query? q = s.world.query? q := by
  obtain ⟨m, first, later, hgoes⟩ := goes_step hcalls
  have hmove : m.world.query? q = s.world.query? q := by
    rw [hgoes.move_task]
    cases left with
    | nil => rfl
    | cons p left =>
      exact World.query?_cancel_of_ne hs.accounts fun heq => hq (heq ▸ List.mem_cons_self)
  rw [hgoes.world, World.query?_release (hgoes.accounts hs) ?_, hmove]
  -- what uses the query is something else than this call, and so it is there still
  intro query hquery halive
  rw [hmove] at hquery
  have hused := hs.used hquery halive
  rw [usesQuery, Bool.or_eq_true] at hused ⊢
  rw [held_step_task hcalls]
  refine hused.imp_right ?_
  intro hany
  obtain ⟨d, hd, hcontains⟩ := List.any_eq_true.mp hany
  rw [hcalls] at hd
  rcases List.mem_cons.mp hd with rfl | hd
  · exact absurd (List.contains_iff_mem.mp hcontains) hq
  · refine List.any_eq_true.mpr ⟨d, ?_, hcontains⟩
    rw [hgoes.calls]
    exact List.mem_append_right _ hd

/-- A call that cancels queries is in progress: it has `left` to cancel, and comes before `base`. -/
def Underway (left : List QueryId) (base : List Call) (s : Session) : Prop :=
  ∃ above, s.calls = above ++ .task (.cancelEach left) :: base

/-- **A call that cancels queries** is over some time later.  Until then it has fewer and fewer of
them left. -/
theorem exists_underway {left : List QueryId} {base : List Call} (h : Underway left base s) :
    ∃ n, (s.steps n).calls = base ∧
      ∀ k < n, ∃ fewer, fewer <:+ left ∧ Underway fewer base (s.steps k) := by
  fun_induction settle s generalizing left with
  | case1 s hrest =>
    obtain ⟨above, habove⟩ := h
    rw [hrest] at habove
    simp at habove
  | case2 s hbusy ih =>
    have here : ∃ fewer, fewer <:+ left ∧ Underway fewer base s := ⟨left, List.suffix_rfl, h⟩
    -- one step more, and then as many as it takes from there
    have goes_on : ∀ {fewer}, fewer <:+ left → Underway fewer base s.step →
        ∃ n, (s.steps n).calls = base ∧
          ∀ k < n, ∃ fewer, fewer <:+ left ∧ Underway fewer base (s.steps k) := by
      intro fewer hfewer hunderway
      obtain ⟨n, hover, hbefore⟩ := ih hunderway
      refine ⟨n + 1, hover, ?_⟩
      intro k hk
      cases k with
      | zero => exact here
      | succ k =>
        obtain ⟨fewer', hfewer', hunderway'⟩ := hbefore k (Nat.lt_of_succ_lt_succ hk)
        exact ⟨fewer', hfewer'.trans hfewer, hunderway'⟩
    obtain ⟨above, habove⟩ := h
    cases above with
    | cons c above =>
      -- something else comes before it
      obtain ⟨new, hnew⟩ := exists_calls_step habove
      exact goes_on List.suffix_rfl ⟨new ++ above, hnew.trans (List.append_assoc ..).symm⟩
    | nil =>
      obtain ⟨m, first, later, hgoes⟩ := goes_step habove
      have hm := hgoes.move_task
      cases left with
      | nil =>
        -- nothing is left of it
        refine ⟨1, ?_, ?_⟩
        · show s.step.calls = base
          have hfirst : first = [] := hgoes.unasked (by rw [hm]; rfl)
          have hlater : later = [] := hgoes.taskless (by simp [Call.task?])
          rw [hgoes.calls, hfirst, hlater, hm]
          rfl
        · intro k hk
          rw [Nat.lt_one_iff.mp hk]
          exact here
      | cons q left =>
        -- the next query is canceled, before those that are left
        refine goes_on (List.suffix_cons q left) ?_
        have hlater : later = [] := hgoes.taskless (by simp [Call.task?])
        refine ⟨first ++ (s.world.cancel q).tasks.map Call.task, ?_⟩
        rw [hgoes.calls, hlater, hm]
        show first ++ ((s.world.cancel q).tasks ++ [Task.cancelEach left]).map Call.task ++ [] ++
          base = _
        simp

/-- A call that cancels all queries, begun at `s` when the queries `made` had been made, is over
after `n` steps; `base` comes after it, and the queries `later` have been made meanwhile. -/
structure CancelsAll (made : List QueryId) (s : Session) (base : List Call) (n : Nat)
    (later : List QueryId) : Prop where
  ended : (s.steps n).calls = base
  /-- All queries that were referred to are canceled and subscribed to nothing. -/
  canceled : ∀ q ∈ made, s.world.isAlive q = true → (s.steps n).Over q
  /-- The other queries were made meanwhile. -/
  logged : Logged Unrestricted tracks (made ++ later) (s.steps n)
  new : ∀ q ∈ later, q ∉ s.world.aliveQueries
  /-- They are active, if they are referred to and have not been canceled. -/
  listed : (s.steps n).world.activeQueries = later.filter (s.steps n).world.isLive
  /-- Until then the call has some of the queries left that were referred to when it began, and
  whenever it goes on it touches no other query. -/
  apart : ∀ k, 0 < k → k < n → ∃ left, left <:+ s.world.aliveQueries ∧
    Underway left base (s.steps k) ∧
    ((s.steps k).calls = .task (.cancelEach left) :: base → ∀ q ∉ s.world.aliveQueries,
      (s.steps (k + 1)).world.query? q = (s.steps k).world.query? q)

/-- What comes after a call that cancels all queries is quiet, if it was when the call began. -/
theorem isQuiet_of_base {rest : List Action} {verb : String} {reply : Reply}
    (hquiet : s.IsQuiet) (hcalls : s.calls = .script (.cancelAll :: rest) :: calls)
    (hbase : t.calls = .answer verb reply :: .script rest :: calls) : t.IsQuiet := by
  intro left hmem
  rw [hbase] at hmem
  simp only [List.mem_cons, reduceCtorEq, false_or] at hmem
  refine hquiet left ?_
  rw [hcalls]
  exact List.mem_cons_of_mem _ hmem

/-- **What is referred to when all queries are canceled** is over as soon as no call is going to
cancel anything. -/
theorem Logged.over_of_cancelAll (h : Logged Unrestricted tracks made s) (hquiet : s.IsQuiet)
    {rest : List Action} (hcalls : s.calls = .script (.cancelAll :: rest) :: calls)
    (hq : q ∈ made) (halive : s.world.isAlive q = true) (hleads : Leads Unrestricted s.step t)
    (hquiet' : t.IsQuiet) : t.Over q := by
  have hs := sound_of_reachable h.reachable
  have hfirst : Next Unrestricted s s.step := .step hcalls fun _ _ => trivial
  obtain ⟨query, hquery⟩ := h.accounted.found q hq
  cases hlive : s.world.isLive q with
  | false =>
    -- it has been canceled before
    have hended : s.world.HasEnded q := by
      rw [World.isAlive, hquery, Option.elim_some] at halive
      rw [World.isLive, hquery, Option.elim_some, halive] at hlive
      exact ⟨query, hquery, by simpa [Query.isCanceled] using hlive⟩
    exact hs.over_of_quits hquery (.inl hended) (.trans (.single hfirst) hleads) hquiet'
  | true =>
    have hactive : q ∈ s.world.activeQueries := by
      rw [h.accounted.activeQueries_eq hquiet]
      exact List.mem_filter.mpr ⟨hq, hlive⟩
    obtain ⟨query', hquery', -⟩ := (hs.later_next hfirst).kept hquery
    have hquits : s.step.Quits q := by
      refine ⟨s.world.aliveQueries, ?_, (List.mem_filter.mp hactive).1⟩
      rw [calls_cancelAll hcalls]
      exact List.mem_cons_self
    exact (hs.next hfirst).over_of_quits hquery' (.inr hquits) hleads hquiet'

/-- **A call that cancels all queries** is over some time later. -/
theorem Logged.exists_cancelsAll (h : Logged Unrestricted tracks made s) (hquiet : s.IsQuiet)
    {rest : List Action} (hcalls : s.calls = .script (.cancelAll :: rest) :: calls) :
    ∃ n later, CancelsAll made s
      (.answer Action.cancelAll.verb .done :: .script rest :: calls) n later := by
  have hs := sound_of_reachable h.reachable
  have hbegun : Underway s.world.aliveQueries
      (.answer Action.cancelAll.verb .done :: .script rest :: calls) s.step :=
    ⟨[], calls_cancelAll hcalls⟩
  obtain ⟨n, hover, hbefore⟩ := exists_underway hbegun
  have hfirst : Next Unrestricted s s.step := .step hcalls fun _ _ => trivial
  have hgoes_on : ∀ k, Leads Unrestricted s.step (s.step.steps k) := fun k =>
    leads_steps k fun _ _ _ _ => trivial
  have hleads : ∀ k, Leads Unrestricted s (s.steps (k + 1)) := fun k =>
    .trans (.single hfirst) (hgoes_on k)
  obtain ⟨later, hlogged⟩ := h.leads (hleads n)
  have hquiet' : (s.steps (n + 1)).IsQuiet := isQuiet_of_base hquiet hcalls hover
  have haccounted := hlogged.accounted
  have hcanceled : ∀ q ∈ made, s.world.isAlive q = true → (s.steps (n + 1)).Over q :=
    fun q hq halive => h.over_of_cancelAll hquiet hcalls hq halive (hgoes_on n) hquiet'
  refine ⟨n + 1, later, hover, hcanceled, hlogged, ?_, ?_, ?_⟩
  · -- a query that is made meanwhile was not referred to before
    intro q hq halive
    have hdisjoint := (List.nodup_append.mp haccounted.nodup).2.2
    have hmade : q ∈ made := h.accounted.kept.mem (List.mem_filter.mp halive).1
    exact hdisjoint q hmade q hq rfl
  · -- of the queries that were made before, none is live any more
    have hnone : made.filter (s.steps (n + 1)).world.isLive = [] := by
      refine List.filter_eq_nil_iff.mpr ?_
      intro q hq
      rw [Bool.not_eq_true]
      cases halive : s.world.isAlive q with
      | true =>
        obtain ⟨query, hquery, hstatus, -⟩ := hcanceled q hq halive
        exact World.HasEnded.isLive ⟨query, hquery, hstatus⟩
      | false =>
        obtain ⟨query, hquery⟩ := h.accounted.found q hq
        exact World.isLive_eq_false_of_later (hs.later (hleads n)) hquery
          (World.isLive_eq_false_of_isAlive halive)
    rw [haccounted.activeQueries_eq hquiet', List.filter_append, hnone, List.nil_append]
  · -- in between, a query that is not left to be canceled stays as it is
    intro k hpos hk
    obtain ⟨j, rfl⟩ := Nat.exists_eq_add_of_lt hpos
    rw [Nat.zero_add] at hk ⊢
    obtain ⟨left, hleft, hunderway⟩ := hbefore j (Nat.lt_of_succ_lt_succ hk)
    refine ⟨left, hleft, hunderway, ?_⟩
    intro hinnermost q hq
    rw [steps_succ]
    refine (hs.leads (hleads j)).query?_cancelEach hinnermost fun hmem => hq ?_
    exact hleft.subset hmem

/-- **The queries kept track of.**  At all times when no call that cancels all queries is in
progress, the active queries are those that were made to be kept track of, are still referred to and
have not been canceled, each once and in the order in which they were made.  A call that cancels all
queries, if it is not made from inside another one, is over some time later: then all of them that
were referred to when it began are canceled and subscribed to nothing, and those that were made
meanwhile are left alone by it and are active unless they are gone or have been canceled. -/
theorem tracking_accounts (h : Logged Unrestricted tracks made s) :
    made.Pairwise (fun p q => p.index < q.index) ∧
      (s.IsQuiet → s.world.activeQueries = made.filter s.world.isLive) ∧
      ∀ rest calls, s.IsQuiet → s.calls = .script (.cancelAll :: rest) :: calls →
        ∃ n later, CancelsAll made s
          (.answer Action.cancelAll.verb .done :: .script rest :: calls) n later :=
  ⟨h.accounted.ascending, h.accounted.activeQueries_eq,
    fun _ _ hquiet hcalls => h.exists_cancelsAll hquiet hcalls⟩

/-- A query that is kept track of, with a listener that makes another one when it is canceled. -/
def succeeded : Session :=
  ((((ofSources .default twoRooms []).ask (.create "q" "" true)).steps 3).ask
    (.listen "q" "l" "s" [⟨some "status_changed", none, 1, [.create "r" "" true]⟩] none)).steps 3

theorem logged_succeeded : Logged Unrestricted tracks [⟨0⟩] (succeeded.ask .cancelAll) := by
  have hstart : Logged Unrestricted tracks [] (ofSources .default twoRooms []) := .start ..
  have hmade : Logged Unrestricted tracks [⟨0⟩]
      (((ofSources .default twoRooms []).ask (.create "q" "" true)).steps 3) :=
    (hstart.ask _ rfl).steps 3 (by decide +kernel) (fun _ _ _ _ => trivial) (by decide +kernel)
  exact ((hmade.ask _ rfl).steps 3 (by decide +kernel) (fun _ _ _ _ => trivial)
    (by decide +kernel)).ask _ rfl

theorem tracking_accounts_succeeded : ∃ n later,
    Logged Unrestricted tracks [⟨0⟩] (succeeded.ask .cancelAll) ∧
      CancelsAll [⟨0⟩] (succeeded.ask .cancelAll)
        [.answer Action.cancelAll.verb .done, .script []] n later := by
  obtain ⟨-, -, hcancels⟩ := tracking_accounts logged_succeeded
  obtain ⟨n, later, hall⟩ := hcancels [] [] (by
    intro rest hmem
    cases List.mem_singleton.mp hmem) rfl
  exact ⟨n, later, logged_succeeded, hall⟩

end Session

end RoomSearch
