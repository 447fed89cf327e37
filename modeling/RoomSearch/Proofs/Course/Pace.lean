import RoomSearch.Proofs.Cancellation
import RoomSearch.Proofs.Course.Announcing

/-!
# A status moves forward

The end of a search, a request to complete a query and a request to cancel it may come from
anywhere: from inside the search that is going on, or from inside the notification of the very move.
Each of them looks at the status in the move that changes it, so that the status moves forward only,
and each move is made known once.

That no status is told twice to a subscription follows from an invariant about all that has been
told so far: it lies at most as far as the status that the query has got to (`Session.Paced`).

## Main definitions

* `statusLetters` — the letters that tell of moves of a status.
* `Session.completing?` — the query that the next step may complete.
* `Session.Paces` — what a step does to a status, and what is told of it.
* `Session.Paced` — nothing has been told of a status that lies ahead, and nothing twice.

## Main results

* `Session.Orderly.paces` — **a status moves forward only**, and each move is made known.
* `Session.paced_of_reachable` — no status is made known twice to a subscription.
-/

namespace RoomSearch

open scoped List

/-- The letters that tell of moves of the status of a query. -/
def statusLetters (q : QueryId) (letters : List Letter) : List Letter :=
  letters.filter fun l => l.query == q && l.news.entry?.isNone

theorem statusLetters_eq_nil {q : QueryId} {letters : List Letter}
    (h : ∀ l ∈ letters, l.query = q → l.news.entry? ≠ none) : statusLetters q letters = [] := by
  apply List.filter_eq_nil_iff.mpr
  intro l hl
  simpa using h l hl

/-- A status that is told to subscriptions of the query. -/
theorem statusLetters_moved (q : QueryId) (ids : List SubscriptionId) (status : Status) :
    statusLetters q (ids.map fun id => ⟨q, id, .moved status⟩) =
      ids.map fun id => ⟨q, id, .moved status⟩ := by
  apply List.filter_eq_self.mpr
  intro l hl
  obtain ⟨id, -, rfl⟩ := List.mem_map.mp hl
  simp [News.entry?]

/-- News of results leave the status alone. -/
theorem Picture.status_of_replay {p p' : Picture} {news : List News}
    (h : p.replay news = some p') (hnews : ∀ n ∈ news, n.entry? ≠ none) :
    p'.status = p.status := by
  induction news generalizing p with
  | nil =>
    cases h
    rfl
  | cons n rest ih =>
    obtain ⟨middle, hmiddle, hrest⟩ := Option.bind_eq_some_iff.mp h
    obtain ⟨hn, hlater⟩ := List.forall_mem_cons.mp hnews
    have hsame := take?_of_entry? hn hmiddle p.status
    have hstatus := congrArg Picture.status (Option.some.inj (hmiddle.symm.trans hsame))
    exact (ih hrest hlater).trans hstatus

namespace Session

/-- The query that the next step may complete. -/
def completing? (s : Session) : Option QueryId :=
  match s.calls.head? with
  | some (.task t) => t.completing?
  | some (.script (a :: _)) => a.completing? s.query?
  | _ => none

/-- What a step does to the status of a query, which was `query` and is `query'` afterwards: `ids`
are its subscriptions, `letters` have been sent, and `completing` is the query that may have been
completed. -/
inductive Paces (q : QueryId) (query query' : Query) (ids : List SubscriptionId)
    (letters : List Letter) (completing : Option QueryId) : Prop where
  /-- The status stays, and nothing is told of it. -/
  | stays (hstatus : query'.status = query.status) (hnone : statusLetters q letters = [])
  /-- The status moves forward, and each subscription is told so once. -/
  | moves (hforward : query.status.leadsTo query'.status = true)
      (htold : statusLetters q letters = ids.map fun id => ⟨q, id, .moved query'.status⟩)
      (hcause : query'.status = .completed → completing = some q)

variable {permitted : Session → Action → Prop} {s t : Session} {c : Call} {calls : List Call}
  {m : Move} {first later : List Call} {q : QueryId} {query : Query}

/-! ### One step -/

theorem Goes.move_notes (h : s.Goes c calls m first later t) (hcalls : s.calls = c :: calls)
    (htidy : s.world.Tidy) : ∀ note ∈ m.notes, s.world.Notes s.completing? note := by
  rw [completing?, hcalls]
  cases h.does with
  | task task => exact (World.advances_advance s.world task).notes htidy
  | action hacts => exact hacts.notes
  | idle | read => exact List.forall_mem_nil _

/-- A step that makes known that a query has moved on. -/
theorem Reports.paces_moved {p : QueryId} {old : Query} {status : Status}
    {ids : List SubscriptionId} (h : s.Reports t [.committed p [.moved status] ids])
    (hp : s.world.query? p = some old) (hforward : old.status.leadsTo status = true)
    {completing : Option QueryId} (hcause : status = .completed → completing = some p)
    (hq : s.world.query? q = some query) : ∃ query', t.world.query? q = some query' ∧
      Paces q query query' (s.world.subscriptions q)
        (Note.sent (.committed p [.moved status] ids)) completing := by
  obtain ⟨query', hq', hreplay⟩ := h.pictures hq
  have hids := (h.committed List.mem_cons_self).1
  rw [List.flatMap_singleton, Note.newsOf] at hreplay
  refine ⟨query', hq', ?_⟩
  by_cases hpq : p = q
  · subst hpq
    cases Option.some.inj (hp.symm.trans hq)
    -- the news is of this query, whose status moves on
    have hne : query.status ≠ status := by
      rintro rfl
      exact absurd (Status.leadsTo_iff.mp hforward) (Nat.lt_irrefl _)
    rw [if_pos rfl, Picture.replay_singleton] at hreplay
    have hstatus : query'.status = status := by
      have hpicture := (if_neg hne).symm.trans hreplay
      exact (congrArg Picture.status (Option.some.inj hpicture)).symm
    subst hstatus
    refine .moves hforward ?_ hcause
    rw [Note.sent, List.flatMap_singleton, hids]
    exact statusLetters_moved ..
  · -- the news is of another query
    rw [if_neg hpq, Picture.replay_nil] at hreplay
    refine .stays (congrArg Picture.status (Option.some.inj hreplay)).symm ?_
    refine statusLetters_eq_nil ?_
    intro l hl heq
    rw [Note.sent, List.flatMap_singleton] at hl
    obtain ⟨id, -, rfl⟩ := List.mem_map.mp hl
    exact absurd heq hpq

/-- A step that makes known nothing of a status. -/
theorem Reports.paces_still {new : List Note} (h : s.Reports t new)
    (hnews : ∀ n ∈ new.flatMap (Note.newsOf q), n.entry? ≠ none)
    (hsent : ∀ l ∈ new.flatMap Note.sent, l.query = q → l.news.entry? ≠ none)
    (hq : s.world.query? q = some query) (completing : Option QueryId) :
    ∃ query', t.world.query? q = some query' ∧
      Paces q query query' (s.world.subscriptions q) (new.flatMap Note.sent) completing := by
  obtain ⟨query', hq', hreplay⟩ := h.pictures hq
  exact ⟨query', hq', .stays (Picture.status_of_replay hreplay hnews) (statusLetters_eq_nil hsent)⟩

/-- **A step** leaves a status alone, or moves it forward and makes that known. -/
theorem Goes.paces (h : s.Goes c calls m first later t) (hs : s.Orderly)
    (hcalls : s.calls = c :: calls) (hq : s.world.query? q = some query) :
    ∃ query', t.world.query? q = some query' ∧
      Paces q query query' (s.world.subscriptions q) (m.notes.flatMap Note.sent)
        s.completing? := by
  have hreports := h.reports hs.sound hs.tidy
  have hsingle := h.heeds.single
  have hnotes := h.move_notes hcalls hs.tidy
  revert hreports hsingle hnotes
  generalize m.notes = notes
  intro hreports hsingle hnotes
  cases notes with
  -- nothing is noted, so the status stays
  | nil => exact hreports.paces_still (List.forall_mem_nil _) (List.forall_mem_nil _) hq _
  | cons note rest =>
    -- a move has one thing to note at most
    have hrest : rest = [] := by
      rw [List.length_cons] at hsingle
      exact List.length_eq_zero_iff.mp (by omega)
    subst hrest
    -- neither does the status move with news of an entry
    have hstill : (∀ n ∈ note.newsOf q, n.entry? ≠ none) →
        (∀ l ∈ note.sent, l.query = q → l.news.entry? ≠ none) →
        ∃ query', t.world.query? q = some query' ∧
          Paces q query query' (s.world.subscriptions q) ([note].flatMap Note.sent)
            s.completing? := by
      intro hnews hsent
      refine hreports.paces_still ?_ ?_ hq _
      · rwa [List.flatMap_singleton]
      · rwa [List.flatMap_singleton]
    cases hnotes note List.mem_cons_self with
    | quiet hquiet =>
      cases note with
      | committed | delivered => exact absurd hquiet id
      | consulted | tapped => exact hstill (List.forall_mem_nil _) (List.forall_mem_nil _)
    | delivered => exact hstill (List.forall_mem_nil _) (List.forall_mem_nil _)
    | results p ids hnews =>
      refine hstill ?_ ?_
      · rw [Note.newsOf]
        split
        · exact hnews
        · exact List.forall_mem_nil _
      · intro l hl _
        obtain ⟨n, hn, hmem⟩ := List.mem_flatMap.mp hl
        obtain ⟨id, -, rfl⟩ := List.mem_map.mp hmem
        exact hnews n hn
    | completed ids hp hrunning hcompleting =>
      -- the query goes from running to completed
      rw [List.flatMap_singleton]
      refine hreports.paces_moved hp ?_ (fun _ => hcompleting) hq
      rw [hrunning]
      rfl
    | @canceled p old ids hp hlive =>
      -- the query is canceled, and was not before
      rw [List.flatMap_singleton]
      refine hreports.paces_moved hp ?_ (fun hcompleted => by cases hcompleted) hq
      cases hstatus : old.status with
      | canceled => exact absurd hstatus hlive
      | running | completed => rfl

/-- **A status moves forward only**, and each move is made known once. -/
theorem Orderly.paces (hs : s.Orderly) (hnext : Next permitted s t)
    (hq : s.world.query? q = some query) : ∃ query' letters, t.world.query? q = some query' ∧
      t.sent = s.sent ++ letters ∧
      Paces q query query' (s.world.subscriptions q) letters s.completing? := by
  cases hnext with
  | ask a hrest => exact ⟨query, [], hq, (List.append_nil _).symm, .stays rfl rfl⟩
  | step hcalls hpermitted =>
    obtain ⟨m, first, later, hgoes⟩ := goes_step hcalls
    obtain ⟨query', hq', hpaces⟩ := hgoes.paces hs hcalls hq
    refine ⟨query', _, hq', ?_, hpaces⟩
    rw [sent, hgoes.notes, List.flatMap_append, sent]

/-! ### No status is told twice -/

/-- How often a subscription is told of a status depends on the letters about the status alone. -/
theorem count_statusLetters (q : QueryId) (id : SubscriptionId) (status : Status)
    (letters : List Letter) :
    (statusLetters q letters).count ⟨q, id, .moved status⟩ =
      letters.count ⟨q, id, .moved status⟩ :=
  List.count_filter (by simp [News.entry?])

/-- A status that is told to several subscriptions. -/
theorem count_moved (q : QueryId) {ids : List SubscriptionId} (hnodup : ids.Nodup)
    (id : SubscriptionId) (told status : Status) :
    (ids.map fun i => (⟨q, i, .moved told⟩ : Letter)).count ⟨q, id, .moved status⟩ ≤
      if status = told then 1 else 0 := by
  split
  · next heq =>
    subst heq
    have hinjective : Function.Injective fun i => (⟨q, i, .moved status⟩ : Letter) := by
      intro i j heq
      exact congrArg Letter.subscription heq
    rw [List.count_map_of_injective _ _ hinjective]
    exact List.nodup_iff_count_le_one.mp hnodup id
  · next hne =>
    refine Nat.le_of_eq (List.count_eq_zero.mpr ?_)
    intro hmem
    obtain ⟨i, -, heq⟩ := List.mem_map.mp hmem
    cases congrArg Letter.news heq
    exact hne rfl

/-- No subscription has been told of a status twice, or of one that the query has not got to. -/
structure Paced (s : Session) : Prop where
  once : ∀ q id status, s.sent.count ⟨q, id, .moved status⟩ ≤ 1
  reached : ∀ {q id status}, ⟨q, id, .moved status⟩ ∈ s.sent →
    ∃ query, s.world.query? q = some query ∧ status.rank ≤ query.status.rank

theorem paced_ofSources (config : Config) (directory : Directory)
    (registered : List ServiceMention) (limit : Nat) :
    (ofSources config directory registered limit).Paced :=
  ⟨fun _ _ _ => Nat.zero_le 1, nofun⟩

/-- **Only a status that has just been reached** is told, and to each subscription once. -/
theorem Orderly.count_moved_le (hs : s.Orderly) (hnext : Next permitted s t)
    {letters : List Letter} (hsent : t.sent = s.sent ++ letters)
    (hq : s.world.query? q = some query) : ∃ query',
      t.world.query? q = some query' ∧ query.status.rank ≤ query'.status.rank ∧
      ∀ id status, letters.count ⟨q, id, .moved status⟩ ≤
        if status = query'.status ∧ query.status.rank < query'.status.rank then 1 else 0 := by
  obtain ⟨query', letters', hq', hsent', hpaces⟩ := hs.paces hnext hq
  cases List.append_cancel_left (hsent.symm.trans hsent')
  refine ⟨query', hq', ?_⟩
  cases hpaces with
  | stays hstatus hnone =>
    refine ⟨Nat.le_of_eq (congrArg Status.rank hstatus.symm), ?_⟩
    intro id status
    rw [← count_statusLetters, hnone]
    exact Nat.zero_le _
  | moves hforward htold =>
    have hrank := Status.leadsTo_iff.mp hforward
    refine ⟨Nat.le_of_lt hrank, ?_⟩
    intro id status
    rw [← count_statusLetters, htold]
    simpa [hrank] using count_moved q (nodup_subscriptions hs.sound q) id query'.status status

theorem Paced.next (h : s.Paced) (hs : s.Orderly) (hnext : Next permitted s t) : t.Paced := by
  obtain ⟨-, new, hreports⟩ := hs.next hnext
  have hsent : t.sent = s.sent ++ new.flatMap Note.sent := by
    rw [sent, hreports.notes, List.flatMap_append, sent]
  -- who is told anything of a query is subscribed to it
  have hfound : ∀ {q id status}, ⟨q, id, .moved status⟩ ∈ new.flatMap Note.sent →
      ∃ query, s.world.query? q = some query := by
    intro q id status hmem
    obtain ⟨query, hq, -⟩ := mem_subscriptions.mp (hreports.mem_subscriptions hmem)
    exact ⟨query, hq⟩
  refine ⟨?_, ?_⟩
  · -- a status is told at most once to each subscription
    intro q id status
    rw [hsent, List.count_append]
    have hold := h.once q id status
    by_cases hmem : ⟨q, id, .moved status⟩ ∈ new.flatMap Note.sent
    · obtain ⟨query, hq⟩ := hfound hmem
      obtain ⟨query', -, -, hnew⟩ := hs.count_moved_le hnext hsent hq
      have hle := hnew id status
      split at hle
      · next hmoved =>
        -- a status that has just been reached has not been told of before
        have hnone : s.sent.count ⟨q, id, .moved status⟩ = 0 := by
          refine List.count_eq_zero.mpr fun hbefore => ?_
          obtain ⟨old, hold, hrank⟩ := h.reached hbefore
          cases Option.some.inj (hold.symm.trans hq)
          rw [hmoved.1] at hrank
          exact Nat.not_lt.mpr hrank hmoved.2
        omega
      · omega
    · rw [List.count_eq_zero.mpr hmem]
      exact hold
  · -- a status that has been told has been reached
    intro q id status hmem
    rw [hsent] at hmem
    rcases List.mem_append.mp hmem with hbefore | hnow
    · obtain ⟨query, hq, hrank⟩ := h.reached hbefore
      obtain ⟨query', hq', hforward, -⟩ := hs.count_moved_le hnext hsent hq
      exact ⟨query', hq', Nat.le_trans hrank hforward⟩
    · obtain ⟨query, hq⟩ := hfound hnow
      obtain ⟨query', hq', -, hnew⟩ := hs.count_moved_le hnext hsent hq
      have hpos := List.count_pos_iff.mpr hnow
      have hle := hnew id status
      split at hle
      · next hmoved => exact ⟨query', hq', Nat.le_of_eq (congrArg Status.rank hmoved.1)⟩
      · omega

/-- **No status is told twice** to a subscription. -/
theorem paced_of_reachable (h : Reachable permitted s) : s.Paced := by
  obtain ⟨config, directory, registered, limit, hleads⟩ := h
  induction hleads with
  | refl => exact paced_ofSources ..
  | tail hleads hnext ih => exact ih.next ((orderly_ofSources ..).leads hleads) hnext

end Session

end RoomSearch
