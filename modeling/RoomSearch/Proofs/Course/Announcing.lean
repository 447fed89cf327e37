import RoomSearch.Proofs.Delivery

/-!
# What a move can make known

What becomes known of a query is a change of its results or a move of its status, and never both at
once.  The status moves on two ways: a query that is running is completed, by the end of its search
or because this was asked for, and a query that has not been canceled is canceled.

The rules of change are told whatever the status is, so that none of their news can be about it
(`ResultSet.Told.entry?_ne_none`).

## Main definitions

* `Status.leadsTo` — which status can move to which.
* `Task.completing?` — the query that is completed when a task is at its end.
* `World.Notes` — what a move can note.

## Main results

* `World.Advances.notes`, `World.Acts.notes` — **all moves of tasks and actions** note no more.
-/

namespace RoomSearch

/-- Whether a status can move to another one. -/
def Status.leadsTo : Status → Status → Bool
  | .running, .completed => true
  | .running, .canceled => true
  | .completed, .canceled => true
  | _, _ => false

/-- How far a status is from the beginning. -/
def Status.rank : Status → Nat
  | .running => 0
  | .completed => 1
  | .canceled => 2

/-- A status moves forward only. -/
theorem Status.leadsTo_iff {a b : Status} : a.leadsTo b = true ↔ a.rank < b.rank := by
  cases a <;> cases b <;> decide

/-! ### Changes of results -/

namespace Picture

variable {status : Status} {s : ResultSet} {n : News}

/-- News of a result do not depend on the status. -/
theorem take?_of_entry? (hn : n.entry? ≠ none) {p : Picture}
    (h : take? ⟨status, s⟩ n = some p) (status' : Status) :
    take? ⟨status', s⟩ n = some ⟨status', p.results⟩ := by
  cases n with
  | found e =>
    rw [take?] at h ⊢
    split at h
    · next hnone =>
      cases h
      exact if_pos hnone
    · cases h
  | changed e =>
    simp only [take?] at h ⊢
    split at h
    · cases h
    · split at h
      · cases h
      · next hne =>
        cases h
        exact if_neg hne
  | removed e =>
    rw [take?] at h ⊢
    split at h
    · next hold =>
      cases h
      exact if_pos hold
    · cases h
  | moved => exact absurd rfl hn

/-- News that can be followed whatever the status is are news of results. -/
theorem entry?_ne_none_of_replay {news : List News}
    (h : ∀ status, (replay ⟨status, s⟩ news).isSome = true) : ∀ n ∈ news, n.entry? ≠ none := by
  induction news generalizing s with
  | nil => exact List.forall_mem_nil _
  | cons n rest ih =>
    have hn : n.entry? ≠ none := by
      intro hnone
      cases n with
      | moved status =>
        -- a query that has this status already does not move to it
        have hreplay := h status
        rw [replay, take?, if_pos rfl] at hreplay
        cases hreplay
      | _ => cases hnone
    have hfirst := h .running
    rw [replay] at hfirst
    obtain ⟨p, hp⟩ : ∃ p, take? ⟨.running, s⟩ n = some p := by
      cases hp : take? ⟨.running, s⟩ n with
      | none =>
        rw [hp] at hfirst
        cases hfirst
      | some p => exact ⟨p, rfl⟩
    refine List.forall_mem_cons.mpr ⟨hn, ih (s := p.results) ?_⟩
    intro status
    have hreplay := h status
    rwa [replay, take?_of_entry? hn hp status] at hreplay

end Picture

/-- **The rules of change** have news of results only. -/
theorem ResultSet.Told.entry?_ne_none {s : ResultSet} {outcome : List News × ResultSet}
    (h : s.Told outcome) : ∀ n ∈ outcome.1, n.entry? ≠ none := by
  refine Picture.entry?_ne_none_of_replay (s := s) ?_
  intro status
  rw [h.replay status, Option.isSome_some]

/-! ### Moves -/

/-- The query that is completed, if it is running still, when a task is at its end. -/
def Task.completing? : Task → Option QueryId
  | .search q [] => some q
  | _ => none

/-- The query that is completed, if it is running still, when an action asks for that. -/
def Action.completing? (named : String → Option QueryId) : Action → Option QueryId
  | .setStatus name .completed => named name
  | _ => none

namespace World

/-- What a move can note; `completing` is the query that may be completed by it. -/
inductive Notes (w : World) (completing : Option QueryId) : Note → Prop where
  | quiet {note : Note} (h : note.IsQuiet) : Notes w completing note
  | delivered (q : QueryId) (d : Delivery) : Notes w completing (.delivered q d)
  /-- Results of a query have changed. -/
  | results (q : QueryId) {news : List News} (ids : List SubscriptionId)
      (hnews : ∀ n ∈ news, n.entry? ≠ none) : Notes w completing (.committed q news ids)
  /-- A query that was running has been completed. -/
  | completed {q : QueryId} {query : Query} (ids : List SubscriptionId)
      (hq : w.query? q = some query) (hrunning : query.status = .running)
      (hcompleting : completing = some q) :
      Notes w completing (.committed q [.moved .completed] ids)
  /-- A query has been canceled. -/
  | canceled {q : QueryId} {query : Query} (ids : List SubscriptionId)
      (hq : w.query? q = some query) (hlive : query.status ≠ .canceled) :
      Notes w completing (.committed q [.moved .canceled] ids)

variable {w w' : World} {q : QueryId} {query : Query} {m : Move} {completing : Option QueryId}

theorem notes_commit {news : List News}
    (h : ∀ ids, w.Notes completing (.committed q news ids)) :
    ∀ note ∈ (w'.commit q news).notes, w.Notes completing note := by
  cases news with
  | nil => exact List.forall_mem_nil _
  | cons n rest =>
    intro note hnote
    rw [List.mem_singleton.mp hnote]
    exact h _

theorem notes_change {s : ResultSet} {outcome : List News × ResultSet} (h : s.Told outcome) :
    ∀ note ∈ (w'.change q outcome).notes, w.Notes completing note :=
  notes_commit fun ids => .results q ids h.entry?_ne_none

theorem notes_cancel (w : World) (q : QueryId) :
    ∀ note ∈ (w.cancel q).notes, w.Notes completing note := by
  unfold cancel
  split
  · exact List.forall_mem_nil _
  · next query hq =>
    split
    · exact List.forall_mem_nil _
    · next hlive =>
      refine notes_commit fun ids => .canceled ids hq ?_
      intro hcanceled
      rw [Query.isCanceled, hcanceled] at hlive
      exact hlive rfl

/-- **A query that answers an announcement** makes changes of its results known. -/
theorem Follows.notes {notice : Notice} (h : w.Follows q query notice m) (htidy : w.Tidy)
    (hq : w.query? q = some query) : ∀ note ∈ m.notes, w.Notes completing note := by
  have hsorted := htidy hq
  cases h with
  | still | entered => exact List.forall_mem_nil _
  | presence houtcome => exact notes_change (ResultSet.told_setPresence? hsorted houtcome)
  | joined =>
    intro note hnote
    rw [List.mem_singleton.mp hnote]
    exact .quiet trivial
  | rooms notice => exact notes_change (ResultSet.told_revise hsorted notice)
  | gone p => exact notes_change (ResultSet.told_dropProvider hsorted p)
  | registration notice =>
    rw [followRegistry_eq_still]
    exact List.forall_mem_nil _

/-- **A task** makes no more known than this. -/
theorem Advances.notes {t : Task} (h : w.Advances t m) (htidy : w.Tidy) :
    ∀ note ∈ m.notes, w.Notes t.completing? note := by
  cases h with
  | spent | dropped | withdraw | rescan | search => exact List.forall_mem_nil _
  | tell notice q rest =>
    show ∀ note ∈ (w.follow q notice).notes, _
    rcases follow_spec w q notice with hstill | ⟨query, hq, hfollows⟩
    · rw [hstill]
      exact List.forall_mem_nil _
    · exact hfollows.notes htidy hq
  | tap | scan =>
    intro note hnote
    rw [List.mem_singleton.mp hnote]
    exact .quiet trivial
  | mergeJoined hq notice autoJoin =>
    exact notes_change (ResultSet.told_mergeJoined (htidy hq) notice autoJoin)
  | merge hq p rooms matching =>
    exact notes_change (ResultSet.told_mergeRooms (htidy hq) p matching)
  | complete hq hrunning => exact notes_commit fun ids => .completed ids hq hrunning rfl
  | publish | hear =>
    intro note hnote
    rw [List.mem_singleton.mp hnote]
    exact .delivered ..
  | cancelEach q rest => exact notes_cancel w q

theorem Runs.notes (h : w.Runs q m) : ∀ note ∈ m.notes, w.Notes completing note := by
  cases h with
  | still | late => exact List.forall_mem_nil _
  | search =>
    intro note hnote
    rw [List.mem_singleton.mp hnote]
    exact .quiet trivial

theorem notes_setStatus {named : String → Option QueryId} {name : String}
    (hname : named name = some q) (status : Status) : ∀ note ∈ (w.setStatus q status).1.notes,
      w.Notes ((Action.setStatus name status).completing? named) note := by
  unfold setStatus
  split
  · exact List.forall_mem_nil _
  · next query hq =>
    split
    · exact notes_cancel w q
    · exact List.forall_mem_nil _
    · exact List.forall_mem_nil _
    · next hrunning => exact notes_commit fun ids => .completed ids hq hrunning hname
    · exact List.forall_mem_nil _

/-- **An action** makes no more known than this. -/
theorem Acts.notes {named : String → Option QueryId} {a : Action} (h : Acts w named a m) :
    ∀ note ∈ m.notes, w.Notes (a.completing? named) note := by
  cases h with
  | run q => exact (runs_run w q).notes
  | setStatus q status hname => exact notes_setStatus hname status
  | cancel q => exact notes_cancel w q
  | presence m provider room identifier change hpresence =>
    obtain ⟨notice, rfl⟩ := exists_of_announcePresence? hpresence
    exact List.forall_mem_nil _
  | _ => exact List.forall_mem_nil _

end World

end RoomSearch
