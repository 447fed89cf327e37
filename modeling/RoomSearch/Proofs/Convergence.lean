import RoomSearch.Proofs.Convergence.Phases

/-!
# Results converge to the directory

While a query has a subscriber and is not canceled, it hears of every change of the directory before
much else can happen, and so it keeps up.  Where no call is in progress there are no errands, and the
results are what is listed.

## Main definitions

* `Session.Attended` — histories in which a query keeps having a subscriber.
* `Session.Prepared` — where such a history may begin.

## Main results

* `Session.Converging.next` — the query keeps up, whatever happens.
* `Session.results_converge` — **the results are what is listed**, whenever no call is in progress.
-/

namespace RoomSearch

namespace Session

variable {s t u : Session} {q : QueryId}

/-- A history in which a query has a subscriber all the time and is never canceled. -/
abbrev Attended (q : QueryId) : Session → Session → Prop :=
  Relation.ReflTransGen fun s t => Next Truthfully s t ∧ t.world.Attends q

/-- A session in which a query converges to the directory. -/
abbrev Converging (q : QueryId) : Session → Prop := KeepsUp Current [] q

/-! ### Histories -/

/-- **Whatever happens** leaves the query up to date, or about to hear of a change. -/
theorem Converging.next (hs : s.Converging q) (hnext : Next Truthfully s t)
    (hattends : t.world.Attends q) : t.Converging q := by
  cases hnext with
  | ask a hrest => exact KeepsUp.ask hs hrest a
  | step hcalls hpermitted =>
    exact KeepsUp.step Current.upheld hs (hcalls.trans (List.append_nil _).symm) hpermitted hattends

theorem Converging.attended (hu : u.Converging q) (hhistory : Attended q u s) :
    s.Converging q := by
  induction hhistory with
  | refl => exact hu
  | tail _ hnext ih => exact Converging.next ih hnext.1 hnext.2

/-- Where such a history may begin: at rest, the query has a subscriber and has not begun to search,
and what it has found so far, having heard of it, is listed. -/
structure Prepared (q : QueryId) (u : Session) : Prop where
  reachable : Reachable Unrestricted u
  rest : u.calls = []
  /-- Listeners do not call back. -/
  passive : u.Passive
  /-- Observers do not act. -/
  discreet : u.Discreet
  /-- No name is listed twice. -/
  distinct : u.world.directory.Distinct
  attends : u.world.Attends q
  /-- The search has not begun. -/
  unbegun : ∃ query, u.world.query? q = some query ∧ query.started = false ∧
    ∀ e ∈ query.results.entries, u.world.directory.Lists query.matcher e

theorem Prepared.converging (hu : u.Prepared q) : u.Converging q := by
  obtain ⟨query, hq, hunstarted, hlisted⟩ := hu.unbegun
  refine ⟨orderly_of_reachable hu.reachable, hu.passive, hu.discreet, hu.attends, ?_⟩
  refine .upToDate [] hu.rest ⟨hu.distinct, query, hq, ?_⟩ (List.forall_mem_nil _)
  · refine ⟨fun he => hlisted _ (Keyed.mem_of_find? he), ?_,
      fun hmem => (List.not_mem_nil hmem).elim, fun hmem => (List.not_mem_nil hmem).elim⟩
    intro hstarted
    rw [hunstarted] at hstarted
    cases hstarted

/-- **Results converge to the directory.**  Whatever truthful changes of the directory are made, in
whatever order, before, after and during the first search: whenever no call is in progress and the
search has begun, the results are in order, and they are what is listed and searched for. -/
theorem results_converge {query : Query} (hu : u.Prepared q) (hhistory : Attended q u s)
    (hrest : s.calls = []) (hq : s.world.query? q = some query) (hstarted : query.started = true) :
    query.results.Sorted ∧
      ∀ e, e ∈ query.results.entries ↔ s.world.directory.Lists query.matcher e := by
  have hs := hu.converging.attended hhistory
  have hsorted : query.results.Sorted := hs.orderly.tidy hq
  -- at rest there are no errands
  have hcurrent : Current s.world.directory query [] := (hs.at_base hrest).stands_of hq
  refine ⟨hsorted, ?_⟩
  intro e
  constructor
  · intro he
    exact hcurrent.listed (Keyed.find?_key_of_mem hsorted he)
  · intro he
    rcases hcurrent.found hstarted he with hfound | ⟨errand, hmem, -⟩
    · exact Keyed.mem_of_find? hfound
    · cases hmem

/-! ### A change during the search -/

/-- So many steps are such a history, if all that they perform is truthful. -/
theorem attended_steps (n : Nat) (h : ∀ k < n, (∀ a ∈ (s.steps k).action?,
    Truthfully (s.steps k) a) ∧ (s.steps (k + 1)).world.Attends q) : Attended q s (s.steps n) :=
  throughout_steps (P := (·.Attends q)) n h

/-- When the rooms are read next, one of them goes and another one comes. -/
def interrupting : Session :=
  (listened.ask (.afterRead [.removeRoom ⟨"p"⟩ "a", .addRoom ⟨"p"⟩ ⟨"c", "c", true⟩])).steps 3

/-- The query has searched, and the rooms have changed while it was reading them. -/
def interrupted : Session := (interrupting.ask (.run "q")).steps 24

theorem prepared_listened : listened.Prepared ⟨0⟩ where
  reachable := reachable_listened.unrestricted
  rest := rfl
  passive := passive_of_listeners rfl
  discreet := List.forall_mem_nil _
  distinct := Directory.distinct_empty.addProvider (by decide) (by decide)
  attends := by decide +kernel
  unbegun := ⟨_, rfl, rfl, List.forall_mem_nil _⟩

theorem attended_interrupted : Attended ⟨0⟩ listened interrupted := by
  have hask : Attended ⟨0⟩ listened interrupting := by
    refine .trans (.single ⟨.ask _ rfl, prepared_listened.attends⟩) (attended_steps 3 ?_)
    decide +kernel
  refine (hask.tail ⟨.ask (.run "q") rfl, by decide +kernel⟩).trans (attended_steps 24 ?_)
  decide +kernel

theorem results_converge_interrupted : listened.Prepared ⟨0⟩ ∧
    Attended ⟨0⟩ listened interrupted ∧ interrupted.calls = [] ∧ ∃ query,
      interrupted.world.query? ⟨0⟩ = some query ∧ query.started = true ∧
        query.results.entries.map Entry.address = ["b", "c"] ∧
          ∀ e, e ∈ query.results.entries ↔
            interrupted.world.directory.Lists query.matcher e := by
  obtain ⟨query, hq, hstarted, hresults⟩ : ∃ query,
      interrupted.world.query? ⟨0⟩ = some query ∧ query.started = true ∧
        query.results.entries.map Entry.address = ["b", "c"] := ⟨_, rfl, rfl, rfl⟩
  obtain ⟨-, hlists⟩ :=
    results_converge prepared_listened attended_interrupted rfl hq hstarted
  exact ⟨prepared_listened, attended_interrupted, rfl, query, hq, hstarted, hresults, hlists⟩

end Session

end RoomSearch
