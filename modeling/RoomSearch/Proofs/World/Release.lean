import RoomSearch.Proofs.World.Change

/-!
# Letting go of queries

After every step a session lets go of the queries that it does not use.  Those in use stay as they
are, the others have no subscribers afterwards; what any of them has found stays.

## Main definitions

* `Query.SameFindings`, `World.SameFindings` — two states that have found the same.
* `World.Releases` — what letting go keeps.

## Main results

* `World.releases_release` — the accounts stay balanced, and what is in use stays as it is.
* `World.inUse_of_release` — a query that is alive afterwards is in use.
* `World.query?_release`, `World.releaseQueries_eq_self` — what letting go leaves alone.
-/

namespace RoomSearch

/-- Two states of a query that have come equally far and have found the same. -/
structure Query.SameFindings (a b : Query) : Prop where
  matcher : b.matcher = a.matcher
  status : b.status = a.status
  started : b.started = a.started
  results : b.results = a.results
  epoch : b.epoch = a.epoch

theorem Query.SameFindings.refl (a : Query) : a.SameFindings a := ⟨rfl, rfl, rfl, rfl, rfl⟩

theorem Query.SameFindings.trans {a b c : Query} (h : a.SameFindings b) (h' : b.SameFindings c) :
    a.SameFindings c where
  matcher := h'.matcher.trans h.matcher
  status := h'.status.trans h.status
  started := h'.started.trans h.started
  results := h'.results.trans h.results
  epoch := h'.epoch.trans h.epoch

namespace World

/-- The queries of two worlds have found the same. -/
def SameFindings (w w' : World) : Prop :=
  ∀ q, Option.Rel Query.SameFindings (w.query? q) (w'.query? q)

theorem SameFindings.refl (w : World) : w.SameFindings w := by
  intro q
  cases w.query? q with
  | none => exact .none
  | some query => exact .some (.refl query)

theorem SameFindings.trans {w w' w'' : World} (h : w.SameFindings w') (h' : w'.SameFindings w'') :
    w.SameFindings w'' := by
  intro q
  have hq := h q
  have hq' := h' q
  revert hq hq'
  generalize w.query? q = a
  generalize w'.query? q = b
  generalize w''.query? q = c
  intro hq hq'
  cases hq with
  | none =>
    cases hq'
    exact .none
  | some h =>
    cases hq' with
    | some h' => exact .some (h.trans h')

/-- A query is still there, and has found the same. -/
theorem SameFindings.exists {w w' : World} (h : w.SameFindings w') {q : QueryId} {query : Query}
    (hq : w.query? q = some query) :
    ∃ query', w'.query? q = some query' ∧ query.SameFindings query' := by
  have hrel := h q
  rw [hq] at hrel
  cases hquery : w'.query? q with
  | none =>
    rw [hquery] at hrel
    cases hrel
  | some query' =>
    rw [hquery] at hrel
    cases hrel with
    | some hfound => exact ⟨query', rfl, hfound⟩

/-- A query that is there was there before, and has found the same. -/
theorem SameFindings.exists' {w w' : World} (h : w.SameFindings w') {q : QueryId} {query' : Query}
    (hq : w'.query? q = some query') :
    ∃ query, w.query? q = some query ∧ query.SameFindings query' := by
  have hrel := h q
  rw [hq] at hrel
  cases hquery : w.query? q with
  | none =>
    rw [hquery] at hrel
    cases hrel
  | some query =>
    rw [hquery] at hrel
    cases hrel with
    | some hfound => exact ⟨query, rfl, hfound⟩

/-- Only one query is different, and it has found the same. -/
theorem SameFindings.of_amends {w w' : World} {q : QueryId} {query query' : Query}
    (h : w.Amends w' q query') (hq : w.query? q = some query) (hfound : query.SameFindings query') :
    w.SameFindings w' := by
  intro p
  by_cases hpq : p = q
  · subst hpq
    obtain ⟨a, hq'⟩ := h.found
    rw [hq, hq']
    exact .some ⟨hfound.matcher, hfound.status, hfound.started, hfound.results, hfound.epoch⟩
  · rw [h.rewires.others hpq]
    exact SameFindings.refl w p

variable {w : World}

/-- Lets go of the query with an index, unless it is in use. -/
def releaseIndex (inUse : QueryId → Bool) (w : World) (i : Nat) : World :=
  if (w.query? ⟨i⟩).elim false Query.alive && !inUse ⟨i⟩ then w.retire ⟨i⟩ else w

/-- What letting go of queries does to the others, and to itself. -/
structure Releases (inUse : QueryId → Bool) (w w' : World) : Prop where
  accounts : w'.Accounts
  later : Later w w'
  /-- A query that is in use stays as it is. -/
  same : ∀ q, inUse q = true → w'.query? q = w.query? q
  /-- What has been found stays. -/
  findings : w.SameFindings w'
  directory : w'.directory = w.directory

theorem Releases.refl (h : w.Accounts) (inUse : QueryId → Bool) : Releases inUse w w :=
  ⟨h, .refl w, fun _ _ => rfl, .refl w, rfl⟩

theorem Releases.trans {inUse : QueryId → Bool} {w' w'' : World} (h : Releases inUse w w')
    (h' : Releases inUse w' w'') : Releases inUse w w'' where
  accounts := h'.accounts
  later := h.later.trans h'.later
  same q hq := (h'.same q hq).trans (h.same q hq)
  findings := h.findings.trans h'.findings
  directory := h'.directory.trans h.directory

/-- A single query is let go. -/
theorem releaseIndex_spec (h : w.Accounts) (inUse : QueryId → Bool) (i : Nat) :
    Releases inUse w (releaseIndex inUse w i) ∧
      (∀ {query}, (releaseIndex inUse w i).query? ⟨i⟩ = some query → query.alive = true →
        inUse ⟨i⟩ = true) := by
  unfold releaseIndex
  split
  · next hgone =>
    rw [Bool.and_eq_true, Bool.not_eq_true'] at hgone
    obtain ⟨halive, hunused⟩ := hgone
    -- the query is referred to no longer, and lets go
    cases hq : w.query? ⟨i⟩ with
    | none =>
      rw [hq] at halive
      cases halive
    | some query =>
      have hamends := h.retire hq
      obtain ⟨a, hfound⟩ := hamends.found
      have hlater : Later w (w.retire ⟨i⟩) := .of_amends hamends hq ⟨rfl, id, id, nofun⟩ nofun
      refine ⟨⟨hamends.accounts, hlater, fun q hused => ?_,
        .of_amends hamends hq ⟨rfl, rfl, rfl, rfl, rfl⟩, hamends.rewires.directory⟩,
        fun hquery hlive => ?_⟩
      · refine hamends.rewires.others ?_
        rintro rfl
        rw [hunused] at hused
        cases hused
      · cases Option.some.inj (hfound.symm.trans hquery)
        cases hlive
  · next hstays =>
    -- it is in use, or let go before
    refine ⟨.refl h inUse, ?_⟩
    intro query hq halive
    by_contra hunused
    refine hstays ?_
    rw [hq, Option.elim_some, halive, Bool.true_and, Bool.not_eq_true']
    exact Bool.eq_false_iff.mpr hunused

/-- Several queries are let go. -/
theorem foldl_releaseIndex_spec (h : w.Accounts) (inUse : QueryId → Bool) (indices : List Nat) :
    Releases inUse w (indices.foldl (releaseIndex inUse) w) ∧
      (∀ i ∈ indices, ∀ query, (indices.foldl (releaseIndex inUse) w).query? ⟨i⟩ = some query →
        query.alive = true → inUse ⟨i⟩ = true) := by
  induction indices generalizing w with
  | nil => exact ⟨.refl h inUse, nofun⟩
  | cons i rest ih =>
    rw [List.foldl_cons]
    obtain ⟨hrel, hdead⟩ := releaseIndex_spec h inUse i
    obtain ⟨hrel', hdead'⟩ := ih hrel.accounts
    refine ⟨hrel.trans hrel', ?_⟩
    intro j hj query hq halive
    rcases List.mem_cons.mp hj with rfl | hj
    · -- once it is gone, it stays gone while the others are looked at
      obtain ⟨middle, hmiddle, -⟩ := hrel'.findings.exists' hq
      obtain ⟨query', hq', hgrows⟩ := hrel'.later.kept hmiddle
      cases Option.some.inj (hq'.symm.trans hq)
      exact hdead hmiddle (hgrows.alive halive)
    · exact hdead' j hj query hq halive

variable {queryInUse : QueryId → Bool} {busInUse : BusId → Bool} {q : QueryId}

/-- **Letting go** keeps the accounts balanced and what is in use as it is. -/
theorem releases_release (h : w.Accounts) (queryInUse : QueryId → Bool) (busInUse : BusId → Bool) :
    Releases queryInUse w (w.release queryInUse busInUse) := by
  have hrel := (foldl_releaseIndex_spec h queryInUse (List.range w.queries.length)).1
  refine ⟨?_, hrel.later.trans (.of_queries_eq rfl (Nat.le_refl _)), hrel.same, hrel.findings,
    hrel.directory⟩
  exact hrel.accounts.of_eq rfl (fun _ => feed?_congr rfl rfl rfl rfl _) rfl rfl

/-- **A query that is alive afterwards** is in use. -/
theorem inUse_of_release (h : w.Accounts) {query : Query}
    (hq : (w.release queryInUse busInUse).query? q = some query) (halive : query.alive = true) :
    queryInUse q = true := by
  have hdead := (foldl_releaseIndex_spec h queryInUse (List.range w.queries.length)).2
  refine hdead q.index (List.mem_range.mpr ?_) query hq halive
  -- a query that is there has an index in range
  obtain ⟨old, hold, -⟩ := (releases_release h queryInUse busInUse).findings.exists' hq
  exact (List.getElem?_eq_some_iff.mp hold).1

/-- **A query that is in use, or that nothing refers to anyway**, stays as it is. -/
theorem query?_release (h : w.Accounts) {p : QueryId} (hp : ∀ {query}, w.query? p = some query →
    query.alive = true → queryInUse p = true) :
    (w.release queryInUse busInUse).query? p = w.query? p := by
  show ((List.range w.queries.length).foldl (releaseIndex queryInUse) w).query? p = w.query? p
  generalize List.range w.queries.length = indices
  induction indices generalizing w with
  | nil => rfl
  | cons i rest ih =>
    have hone : (releaseIndex queryInUse w i).query? p = w.query? p := by
      unfold releaseIndex
      split
      · next hgone =>
        rw [Bool.and_eq_true, Bool.not_eq_true'] at hgone
        obtain ⟨halive, hunused⟩ := hgone
        cases hq : w.query? ⟨i⟩ with
        | none =>
          rw [hq] at halive
          cases halive
        | some query =>
          rw [hq] at halive
          refine (h.retire hq).rewires.others ?_
          rintro rfl
          rw [hp hq halive] at hunused
          cases hunused
      · rfl
    have haccounts := (releaseIndex_spec h queryInUse i).1.accounts
    rw [List.foldl_cons, ih haccounts fun hq => hp (hone ▸ hq), hone]

/-- **Where all that is alive is in use**, there is nothing to let go of. -/
theorem releaseQueries_eq_self (h : ∀ {q query}, w.query? q = some query → query.alive = true →
    queryInUse q = true) : w.releaseQueries queryInUse = w := by
  show (List.range w.queries.length).foldl (releaseIndex queryInUse) w = w
  generalize List.range w.queries.length = indices
  induction indices with
  | nil => rfl
  | cons i rest ih =>
    have hone : releaseIndex queryInUse w i = w := by
      unfold releaseIndex
      cases hq : w.query? ⟨i⟩ with
      | none => rfl
      | some query =>
        cases halive : query.alive with
        | false => simp [halive]
        | true => simp [h hq halive]
    rw [List.foldl_cons, hone, ih]

end World

end RoomSearch
