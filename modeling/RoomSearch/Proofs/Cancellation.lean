import RoomSearch.Proofs.Attachment
import RoomSearch.Proofs.Delivery

/-!
# Canceled queries

A search that is canceled may be interrupted anywhere: between two providers, while the rooms of one
are being read, while a joined room is looked up, in the middle of a notification.  What remains to
be done of it is still on the list of calls then, and sources may announce further changes.  But
whatever goes on looks at the status first: only an active query reads from the directory and only
an active query has news.  So a canceled query stays as it is, and all that is still heard of it are
the letters that were owed when it ended.

## Main definitions

* `World.IsActive` — a query has not been canceled.
* `Note.author?` — the query that a note reports on as reading or changing.
* `World.Heeds` — a move notes nothing of queries that have been canceled.
* `Session.Freezes` — nothing has come of a canceled query between two moments.

## Main results

* `World.heeds_advance`, `World.heeds_acts` — the moves of tasks and actions pass over canceled
  queries.
* `Session.canceled_freezes` — **cancelation is the end** of a query.
-/

namespace RoomSearch

open scoped List

/-- The query that a note reports on as reading from the directory or as changing. -/
def Note.author? : Note → Option QueryId
  | .consulted q => some q
  | .committed q _ _ => some q
  | .delivered _ _ => none
  | .tapped _ _ => none

/-- Only the author of a note has news in it. -/
theorem Note.newsOf_eq_nil {note : Note} {q : QueryId} (h : note.author? ≠ some q) :
    note.newsOf q = [] := by
  cases note with
  | committed p news ids => exact if_neg fun hpq => h (congrArg some hpq)
  | _ => rfl

/-- The letters of a query. -/
def lettersOf (q : QueryId) (letters : List Letter) : List Letter :=
  letters.filter fun l => l.query == q

theorem lettersOf_append (q : QueryId) (letters later : List Letter) :
    lettersOf q (letters ++ later) = lettersOf q letters ++ lettersOf q later :=
  List.filter_append ..

/-- Only the author of a note sends letters with it. -/
theorem lettersOf_sent {note : Note} {q : QueryId} (h : note.author? ≠ some q) :
    lettersOf q note.sent = [] := by
  apply List.filter_eq_nil_iff.mpr
  intro l hl
  cases note with
  | committed p news ids =>
    obtain ⟨n, -, hmem⟩ := List.mem_flatMap.mp hl
    obtain ⟨id, -, rfl⟩ := List.mem_map.mp hmem
    simpa [Note.author?] using h
  | _ => cases hl

namespace World

/-- A query is there and has not been canceled. -/
def IsActive (w : World) (q : QueryId) : Prop :=
  ∃ query, w.query? q = some query ∧ query.isCanceled = false

/-- A move has at most one thing to note.  If that is a reading or a change of a query, the query
was active; and it is so still, unless the change is that it is canceled. -/
structure Heeds (w : World) (m : Move) : Prop where
  single : m.notes.length ≤ 1
  active : ∀ note ∈ m.notes, ∀ q, note.author? = some q →
    w.IsActive q ∧ (m.world.IsActive q ∨ note.newsOf q = [.moved .canceled])

variable {w w' : World} {q : QueryId} {query : Query} {m : Move}

theorem isActive_of_isCanceled (hq : w.query? q = some query) (h : ¬ query.isCanceled = true) :
    w.IsActive q := ⟨query, hq, Bool.eq_false_iff.mpr h⟩

/-- An active query has not been canceled. -/
theorem IsActive.status_ne (h : w.IsActive q) (hq : w.query? q = some query) :
    query.status ≠ .canceled := by
  obtain ⟨old, hold, hactive⟩ := h
  cases Option.some.inj (hold.symm.trans hq)
  intro hstatus
  rw [Query.isCanceled, hstatus] at hactive
  cases hactive

/-- A change that is no cancelation leaves a query active. -/
theorem IsActive.modifyQuery (h : w.IsActive q) (p : QueryId) {f : Query → Query}
    (hf : ∀ query, query.isCanceled = false → (f query).isCanceled = false) :
    (w.modifyQuery p f).IsActive q := by
  obtain ⟨query, hq, hactive⟩ := h
  rw [IsActive, query?_modifyQuery]
  split
  · exact ⟨f query, by rw [hq, Option.map_some], hf query hactive⟩
  · exact ⟨query, hq, hactive⟩

/-! ### Moves with at most one note -/

/-- A move with nothing to note. -/
theorem heeds_silent (h : m.notes = []) : w.Heeds m := by
  refine ⟨?_, ?_⟩
  · rw [h]
    exact Nat.zero_le 1
  · rw [h]
    exact List.forall_mem_nil _

theorem heeds_still (w w' : World) : w.Heeds (.still w') := heeds_silent rfl

/-- A move with one thing to note. -/
theorem heeds_note {note : Note} (hnotes : m.notes = [note])
    (h : ∀ q, note.author? = some q →
      w.IsActive q ∧ (m.world.IsActive q ∨ note.newsOf q = [.moved .canceled])) :
    w.Heeds m := by
  refine ⟨?_, ?_⟩
  · rw [hnotes]
    exact Nat.le_refl 1
  · intro other hother
    rw [hnotes, List.mem_singleton] at hother
    rw [hother]
    exact h

/-- A move that reports on no query. -/
theorem heeds_anonymous {note : Note} (hnotes : m.notes = [note]) (hnone : note.author? = none) :
    w.Heeds m := by
  refine heeds_note hnotes ?_
  intro q hauthor
  rw [hnone] at hauthor
  cases hauthor

/-- An active query reads from the directory. -/
theorem heeds_consulted (h : w.IsActive q) (hnotes : m.notes = [.consulted q])
    (hworld : m.world.IsActive q) : w.Heeds m := by
  refine heeds_note hnotes ?_
  rintro p ⟨⟩
  exact ⟨h, .inl hworld⟩

/-- An active query makes a change known. -/
theorem heeds_commit (h : w.IsActive q) {news : List News}
    (hafter : w'.IsActive q ∨ news = [.moved .canceled]) : w.Heeds (w'.commit q news) := by
  cases news with
  | nil => exact heeds_still w w'
  | cons n rest =>
    refine heeds_note rfl ?_
    rintro p ⟨⟩
    refine ⟨h, hafter.imp_right fun hnews => ?_⟩
    rw [Note.newsOf, if_pos rfl, hnews]

theorem heeds_change (h : w.IsActive q) (h' : w'.IsActive q) (outcome : List News × ResultSet) :
    w.Heeds (w'.change q outcome) :=
  heeds_commit h (.inl (h'.modifyQuery q fun _ => id))

theorem heeds_change_advanceEpoch (h : w.IsActive q) (outcome : List News × ResultSet) :
    w.Heeds ((w.modifyQuery q Query.advanceEpoch).change q outcome) :=
  heeds_change h (h.modifyQuery q (f := Query.advanceEpoch) fun _ => id) outcome

theorem heeds_complete (hq : w.query? q = some query) (hrunning : query.status = .running) :
    w.Heeds (w.moveTo q .completed) := by
  have hactive : w.IsActive q := ⟨query, hq, by rw [Query.isCanceled, hrunning]; rfl⟩
  exact heeds_commit hactive (.inl (hactive.modifyQuery q fun _ _ => rfl))

/-- A query is canceled once. -/
theorem heeds_cancel (w : World) (q : QueryId) : w.Heeds (w.cancel q) := by
  unfold cancel
  split
  · exact heeds_still w w
  · next query hq =>
    split
    · exact heeds_still ..
    · next hlive => exact heeds_commit (isActive_of_isCanceled hq hlive) (.inr rfl)

theorem Heeds.andThen (h : w.Heeds m) (tasks : List Task) : w.Heeds (m.andThen tasks) :=
  ⟨h.single, h.active⟩

/-! ### Answers to announcements -/

theorem heeds_followPresence (hq : w.query? q = some query) (notice : PresenceNotice) :
    w.Heeds (w.followPresence q query notice) := by
  unfold followPresence
  split
  · exact heeds_still w w
  · next hlive =>
    have hactive := isActive_of_isCanceled hq hlive
    split
    · exact heeds_change hactive hactive _
    · split
      · exact heeds_consulted hactive rfl hactive
      · exact heeds_still w w

theorem heeds_followRooms (hq : w.query? q = some query) (notice : RoomNotice) :
    w.Heeds (w.followRooms q query notice) := by
  unfold followRooms
  dsimp only
  split
  · exact heeds_still w w
  · split
    · exact heeds_still w w
    · next hlive =>
      split <;> exact heeds_change_advanceEpoch (isActive_of_isCanceled hq hlive) _

theorem heeds_followProviders (hq : w.query? q = some query) (notice : ProviderNotice) :
    w.Heeds (w.followProviders q query notice) := by
  unfold followProviders
  split
  · exact heeds_silent rfl
  · split
    · exact heeds_still w w
    · next hlive => exact heeds_change_advanceEpoch (isActive_of_isCanceled hq hlive) _

theorem heeds_follow (w : World) (q : QueryId) (notice : Notice) :
    w.Heeds (w.follow q notice) := by
  unfold follow
  split
  · exact heeds_still w w
  · next query hq =>
    split
    · exact heeds_still w w
    · cases notice with
      | presence notice => exact heeds_followPresence hq notice
      | rooms notice => exact heeds_followRooms hq notice
      | providers notice => exact heeds_followProviders hq notice
      | registration notice =>
        show w.Heeds (w.followRegistry q query notice)
        rw [followRegistry_eq_still]
        exact heeds_still ..

/-! ### Tasks -/

theorem heeds_advanceDelivery (w : World) (notice : Notice) (rest : List Watcher) :
    w.Heeds (w.advanceDelivery notice rest) := by
  cases rest with
  | nil => exact heeds_still w w
  | cons v rest =>
    cases v with
    | query q => exact (heeds_follow w q notice).andThen _
    | tap t => exact heeds_anonymous rfl rfl

/-- What had been looked up when the query was canceled comes to nothing. -/
theorem heeds_advanceJoined (w : World) (q : QueryId) (notice : PresenceNotice) (autoJoin : Bool) :
    w.Heeds (w.advanceJoined q notice autoJoin) := by
  unfold advanceJoined
  split
  · exact heeds_still w w
  · next query hq =>
    split
    · exact heeds_still w w
    · next hlive =>
      have hactive := isActive_of_isCanceled hq hlive
      exact heeds_change hactive hactive _

theorem heeds_advanceScan (w : World) (q : QueryId) (p : ProviderId) :
    w.Heeds (w.advanceScan q p) := by
  unfold advanceScan
  split
  · exact heeds_still w w
  · next query hq =>
    split
    · exact heeds_still w w
    · next hlive =>
      have hactive := isActive_of_isCanceled hq hlive
      exact heeds_consulted hactive rfl hactive

/-- What had been read when the query was canceled is neither merged nor read again. -/
theorem heeds_advanceMerge (w : World) (q : QueryId) (p : ProviderId) (epoch : Nat)
    (rooms : List Room) : w.Heeds (w.advanceMerge q p epoch rooms) := by
  unfold advanceMerge
  split
  · exact heeds_still w w
  · next query hq =>
    split
    · exact heeds_still w w
    · next hlive =>
      have hactive := isActive_of_isCanceled hq hlive
      split
      · exact heeds_silent rfl
      · exact heeds_change hactive hactive _

theorem heeds_advanceSearch (w : World) (q : QueryId) (rest : List ProviderId) :
    w.Heeds (w.advanceSearch q rest) := by
  cases rest with
  | nil =>
    rw [advanceSearch]
    split
    · exact heeds_still w w
    · next query hq =>
      split
      · next hrunning => exact heeds_complete hq hrunning
      · exact heeds_still w w
  | cons p rest =>
    rw [advanceSearch]
    split
    · exact heeds_still w w
    · split
      · exact heeds_still w w
      · exact heeds_silent rfl

theorem heeds_advanceNotification (w : World) (q : QueryId) (audience : List Subscriber)
    (rest : List Delivery) : w.Heeds (w.advanceNotification q audience rest) := by
  cases rest with
  | nil => exact heeds_still w w
  | cons d rest =>
    unfold advanceNotification
    dsimp only
    split <;> exact heeds_anonymous rfl rfl

/-- **A task passes over canceled queries.** -/
theorem heeds_advance (w : World) (t : Task) : w.Heeds (w.advance t) := by
  cases t with
  | deliver notice rest => exact heeds_advanceDelivery w notice rest
  | withdraw s => exact heeds_still ..
  | mergeJoined q notice autoJoin => exact heeds_advanceJoined w q notice autoJoin
  | scan q p => exact heeds_advanceScan w q p
  | merge q p epoch rooms => exact heeds_advanceMerge w q p epoch rooms
  | search q rest => exact heeds_advanceSearch w q rest
  | notify q audience rest => exact heeds_advanceNotification w q audience rest
  | cancelEach rest =>
    cases rest with
    | nil => exact heeds_still w w
    | cons q rest => exact (heeds_cancel w q).andThen _

/-! ### Actions -/

/-- A search that is asked for after the end does not begin. -/
theorem heeds_run (w : World) (q : QueryId) : w.Heeds (w.run q).1 := by
  unfold run
  split
  · exact heeds_still w w
  · next query hq =>
    split
    · exact heeds_still w w
    · dsimp only
      split
      · exact heeds_still ..
      · next hlive =>
        have hactive := isActive_of_isCanceled hq hlive
        exact heeds_consulted hactive rfl (hactive.modifyQuery q fun _ => id)

theorem Sets.heeds (h : w.Sets q m) : w.Heeds m := by
  cases h with
  | still => exact heeds_still w w
  | canceled => exact heeds_cancel w q
  | completed hq hrunning => exact heeds_complete hq hrunning

/-- **An action passes over canceled queries.** -/
theorem heeds_acts {named : String → Option QueryId} {a : Action} (h : Acts w named a m) :
    w.Heeds m := by
  cases h with
  | run q => exact heeds_run w q
  | setStatus q status => exact (sets_setStatus w q status).heeds
  | cancel q => exact heeds_cancel w q
  | presence m provider room identifier change hpresence =>
    obtain ⟨notice, rfl⟩ := exists_of_announcePresence? hpresence
    exact heeds_silent rfl
  | _ => exact heeds_silent rfl

/-! ### Sources are left alone -/

/-- **A new subscriber** of a canceled query does not attach it. -/
theorem feed?_subscribe_of_canceled (hq : w.query? q = some query)
    (hcanceled : query.status = .canceled) (subscriber : Subscriber) (x : Source) :
    (w.subscribe q subscriber).1.feed? x = w.feed? x := by
  rw [Accounts.subscribe_eq hq, if_neg fun hfirst => hfirst.2 hcanceled, feed?_modifyQuery]
  exact feed?_congr rfl rfl rfl rfl x

/-- **An announcement** subscribes a query that is not attached to nothing. -/
theorem feed?_follow_of_detached (hq : w.query? q = some query) (hnone : query.attachment = none)
    (notice : Notice) (x : Source) : (w.follow q notice).world.feed? x = w.feed? x := by
  rcases follow_spec w q notice with hstill | ⟨old, hold, hfollows⟩
  · rw [hstill]
    rfl
  · cases Option.some.inj (hold.symm.trans hq)
    revert hfollows
    generalize w.follow q notice = m
    intro hfollows
    cases hfollows with
    | still => rfl
    | joined => rfl
    | entered => exact feed?_modifyQuery ..
    | presence =>
      rw [change, world_commit]
      exact feed?_modifyQuery ..
    | rooms | gone =>
      rw [change, world_commit, feed?_modifyQuery]
      exact feed?_modifyQuery ..
    | registration notice =>
      rw [followRegistry, hnone]
      rfl

end World

namespace Session

/-- Nothing has come of a query between `s`, where it was `query`, and `t`, which is later. -/
structure Freezes (q : QueryId) (query : Query) (s t : Session) : Prop where
  /-- It is canceled, its results are what they were, and it is not attached. -/
  kept : ∃ query', t.world.query? q = some query' ∧ query'.status = .canceled ∧
    query'.results = query.results ∧ query'.isAttached = false
  /-- It is subscribed to nothing. -/
  apart : ∀ x, t.world.listeners x q = 0
  /-- Neither a new subscriber nor an announcement subscribes it to anything. -/
  aloof : ∀ x, (∀ subscriber, (t.world.subscribe q subscriber).1.feed? x = t.world.feed? x) ∧
    ∀ notice, (t.world.follow q notice).world.feed? x = t.world.feed? x
  /-- It has neither read from the directory nor changed, and the letters that have been received
  from it are, with those that are owed, the ones that were owed. -/
  silent : ∃ new, t.notes = s.notes ++ new ∧ (∀ note ∈ new, note.author? ≠ some q) ∧
    (lettersOf q (new.flatMap Note.received) ++ lettersOf q t.owed).Perm (lettersOf q s.owed)

variable {permitted : Session → Action → Prop} {s t u : Session} {c : Call} {calls : List Call}
  {m : Move} {first later : List Call} {q : QueryId} {query : Query}

/-- Every step passes over canceled queries. -/
theorem Goes.heeds (h : s.Goes c calls m first later t) : s.world.Heeds m := by
  cases h.does with
  | task task => exact World.heeds_advance s.world task
  | action hacts => exact World.heeds_acts hacts
  | idle hc ha => exact World.heeds_still ..
  | read => exact World.heeds_silent rfl

/-! ### After the end -/

/-- From `s` to `t` nothing is noted of a query, and its status and results are what they were. -/
structure Rests (q : QueryId) (query : Query) (s t : Session) (new : List Note) : Prop where
  notes : t.notes = s.notes ++ new
  silent : ∀ note ∈ new, note.author? ≠ some q
  same : ∃ query', t.world.query? q = some query' ∧ query'.picture = query.picture

/-- A query of which nothing is noted has no news. -/
theorem flatMap_newsOf_eq_nil {new : List Note} (h : ∀ note ∈ new, note.author? ≠ some q) :
    new.flatMap (Note.newsOf q) = [] :=
  List.flatMap_eq_nil_iff.mpr fun note hnote => Note.newsOf_eq_nil (h note hnote)

/-- What is not reported on is as it was. -/
theorem Reports.rests {new : List Note} (h : s.Reports t new) (hq : s.world.query? q = some query)
    (hsilent : ∀ note ∈ new, note.author? ≠ some q) : Rests q query s t new := by
  obtain ⟨query', hq', hreplay⟩ := h.pictures hq
  rw [flatMap_newsOf_eq_nil hsilent, Picture.replay_nil] at hreplay
  exact ⟨h.notes, hsilent, query', hq', (Option.some.inj hreplay).symm⟩

/-- **A step passes over a canceled query.** -/
theorem Orderly.rests_next (hs : s.Orderly) (hq : s.world.query? q = some query)
    (hcanceled : query.status = .canceled) (hnext : Next permitted s t) :
    ∃ new, Rests q query s t new := by
  cases hnext with
  | ask a hrest => exact ⟨[], (List.append_nil _).symm, List.forall_mem_nil _, query, hq, rfl⟩
  | step hcalls hpermitted =>
    obtain ⟨m, first, later, hgoes⟩ := goes_step hcalls
    refine ⟨m.notes, (hgoes.reports hs.sound hs.tidy).rests hq ?_⟩
    intro note hnote hauthor
    obtain ⟨hactive, -⟩ := hgoes.heeds.active note hnote q hauthor
    exact hactive.status_ne hq hcanceled

/-- **A canceled query rests** for as long as the history goes on. -/
theorem Orderly.rests (hs : s.Orderly) (hq : s.world.query? q = some query)
    (hcanceled : query.status = .canceled) (hleads : Leads permitted s t) :
    ∃ new, Rests q query s t new := by
  induction hleads with
  | refl => exact ⟨[], (List.append_nil _).symm, List.forall_mem_nil _, query, hq, rfl⟩
  | @tail v t hleads hnext ih =>
    obtain ⟨new, hrests⟩ := ih
    obtain ⟨query', hq', hpicture⟩ := hrests.same
    have hstatus : query'.status = .canceled := (congrArg Picture.status hpicture).trans hcanceled
    obtain ⟨here, hrests'⟩ := (hs.leads hleads).rests_next hq' hstatus hnext
    refine ⟨new ++ here, ?_, ?_, ?_⟩
    · rw [hrests'.notes, hrests.notes, List.append_assoc]
    · exact List.forall_mem_append.mpr ⟨hrests.silent, hrests'.silent⟩
    · obtain ⟨query'', hq'', hpicture'⟩ := hrests'.same
      exact ⟨query'', hq'', hpicture'.trans hpicture⟩

/-- What is received from a query that rests was owed before, or is owed still. -/
theorem Rests.letters {new : List Note} (h : Rests q query s t new) (hs : s.Orderly)
    (ht : t.Orderly) :
    (lettersOf q (new.flatMap Note.received) ++ lettersOf q t.owed).Perm (lettersOf q s.owed) := by
  have hsent : lettersOf q (new.flatMap Note.sent) = [] := by
    rw [lettersOf, List.filter_flatMap]
    exact List.flatMap_eq_nil_iff.mpr fun note hnote => lettersOf_sent (h.silent note hnote)
  have hperm : (lettersOf q (t.received ++ t.owed)).Perm (lettersOf q (s.received ++ s.owed)) :=
    calc lettersOf q (t.received ++ t.owed)
        ~ lettersOf q t.sent := ht.perm.filter _
      _ = lettersOf q s.sent ++ lettersOf q (new.flatMap Note.sent) := by
          rw [sent, h.notes, List.flatMap_append, lettersOf_append, sent]
      _ = lettersOf q s.sent := by rw [hsent, List.append_nil]
      _ ~ lettersOf q (s.received ++ s.owed) := hs.perm.symm.filter _
  have hreceived : t.received = s.received ++ new.flatMap Note.received := by
    rw [received, h.notes, List.flatMap_append, received]
  rw [hreceived, lettersOf_append, lettersOf_append, lettersOf_append, List.append_assoc] at hperm
  exact (List.perm_append_left_iff _).mp hperm

/-- A canceled query is subscribed to nothing. -/
theorem Sound.detached (hs : s.Sound) (hq : s.world.query? q = some query)
    (hcanceled : query.status = .canceled) :
    query.attachment = none ∧ ∀ x, s.world.listeners x q = 0 := by
  have hnone : query.attachment = none :=
    (hs.accounts.consistent hq).attachment_eq_none fun hand => hand.2 hcanceled
  refine ⟨hnone, fun x => ?_⟩
  rcases hs.accounts.listeners_eq hq x with ⟨-, id, hmem⟩ | ⟨hzero, -⟩
  · rw [Query.upstream, hnone] at hmem
    cases hmem
  · exact hzero

theorem Orderly.freezes (hs : s.Orderly) (hq : s.world.query? q = some query)
    (hcanceled : query.status = .canceled) (hleads : Leads permitted s t) :
    Freezes q query s t := by
  have ht := hs.leads hleads
  obtain ⟨new, hrests⟩ := hs.rests hq hcanceled hleads
  obtain ⟨query', hq', hpicture⟩ := hrests.same
  have hstatus : query'.status = .canceled := (congrArg Picture.status hpicture).trans hcanceled
  have hresults : query'.results = query.results := congrArg Picture.results hpicture
  obtain ⟨hnone, hapart⟩ := ht.sound.detached hq' hstatus
  refine ⟨⟨query', hq', hstatus, hresults, ?_⟩, hapart, fun x => ⟨?_, ?_⟩, new, hrests.notes,
    hrests.silent, hrests.letters hs ht⟩
  · rw [Query.isAttached, hnone, Option.isSome_none]
  · exact fun subscriber => World.feed?_subscribe_of_canceled hq' hstatus subscriber x
  · exact fun notice => World.feed?_follow_of_detached hq' hnone notice x

/-! ### The end -/

/-- **The step that cancels a query** tells nothing else of it, and leaves its results alone. -/
theorem Orderly.ends (hu : u.Orderly) (hnext : Next permitted u s) {before : Query}
    (hbefore : u.world.query? q = some before) (hlive : before.status ≠ .canceled)
    (hq : s.world.query? q = some query) (hcanceled : query.status = .canceled) :
    query.results = before.results ∧
      ∃ new, s.notes = u.notes ++ new ∧ new.flatMap (Note.newsOf q) = [.moved .canceled] := by
  cases hnext with
  | ask a hrest =>
    -- what is only asked for changes no query
    cases Option.some.inj (hbefore.symm.trans hq)
    exact absurd hcanceled hlive
  | step hcalls hpermitted =>
    obtain ⟨m, first, later, hgoes⟩ := goes_step hcalls
    have hreports := hgoes.reports hu.sound hu.tidy
    have hheeds := hgoes.heeds
    obtain ⟨query', hq', hreplay⟩ := hreports.pictures hbefore
    cases Option.some.inj (hq'.symm.trans hq)
    -- without a note of the query its status would be what it was
    obtain ⟨note, hnote, hauthor⟩ : ∃ note ∈ m.notes, note.author? = some q := by
      by_contra hno
      rw [flatMap_newsOf_eq_nil fun note hnote hauthor => hno ⟨note, hnote, hauthor⟩,
        Picture.replay_nil] at hreplay
      have hstatus : before.status = query.status :=
        congrArg Picture.status (Option.some.inj hreplay)
      exact hlive (hstatus.trans hcanceled)
    have hnotes : m.notes = [note] := by
      have hpos := List.length_pos_of_mem hnote
      have hsingle := hheeds.single
      obtain ⟨other, hother⟩ := List.length_eq_one_iff.mp (by omega : m.notes.length = 1)
      rw [hother, List.mem_singleton] at hnote
      rw [hother, hnote]
    have hnews : m.notes.flatMap (Note.newsOf q) = [.moved .canceled] := by
      rw [hnotes, List.flatMap_singleton]
      rcases (hheeds.active note hnote q hauthor).2 with hactive | hcancel
      · -- it would be active after the step as well
        obtain ⟨after, hafter, hstill⟩ := hactive
        obtain ⟨last, hlast, hfound⟩ := (hgoes.releases hu.sound).findings.exists hafter
        cases Option.some.inj (hlast.symm.trans hq)
        rw [Query.isCanceled, ← hfound.status, hcanceled] at hstill
        cases hstill
      · exact hcancel
    refine ⟨?_, m.notes, hreports.notes, hnews⟩
    -- the status is all that the news speaks of
    rw [hnews, Picture.replay_singleton] at hreplay
    obtain ⟨-, heq⟩ : before.status ≠ .canceled ∧
        (⟨.canceled, before.results⟩ : Picture) = query.picture := by
      simpa [Picture.take?, Query.picture, hlive] using hreplay
    exact (congrArg Picture.results heq).symm

/-- **Cancelation is the end of a query**, wherever it comes.  The step that cancels it leaves its
results alone and tells nothing else of it.  From then on it stays canceled with these results, it
is attached to nothing and nothing attaches it, it reads nothing from the directory and has no news;
and what its subscribers still receive are the letters that were owed by then. -/
theorem canceled_freezes (hs : Reachable Unrestricted s) (hq : s.world.query? q = some query)
    (hcanceled : query.status = .canceled) :
    (∀ t, Leads Unrestricted s t → Freezes q query s t) ∧
      ∀ u before, Reachable Unrestricted u → Next Unrestricted u s →
        u.world.query? q = some before → before.status ≠ .canceled →
        query.results = before.results ∧
          ∃ new, s.notes = u.notes ++ new ∧ new.flatMap (Note.newsOf q) = [.moved .canceled] := by
  refine ⟨fun t hleads => (orderly_of_reachable hs).freezes hq hcanceled hleads, ?_⟩
  intro u before hu hnext hbefore hlive
  exact (orderly_of_reachable hu).ends hnext hbefore hlive hq hcanceled

/-- The query has been canceled while it was reading the rooms of a provider. -/
def interruptedReading : Session :=
  (((listened.ask (.afterRead [.cancel "q"])).steps 3).ask (.run "q")).steps 4

theorem leads_interruptedReading : Leads Unrestricted listened interruptedReading := by
  have hstored : Leads Unrestricted listened
      ((listened.ask (.afterRead [.cancel "q"])).steps 3) := leads_ask _ 3 rfl fun _ _ _ _ => trivial
  exact hstored.trans (leads_ask _ 4 rfl fun _ _ _ _ => trivial)

/-- The rooms that had been read are not merged any more. -/
theorem canceled_freezes_interruptedReading : ∃ query,
    Reachable Unrestricted interruptedReading ∧
      interruptedReading.world.query? ⟨0⟩ = some query ∧ query.status = .canceled ∧
      Freezes ⟨0⟩ query interruptedReading (interruptedReading.steps 8) ∧
      (interruptedReading.steps 8).calls = [] := by
  have hreachable := reachable_listened.unrestricted.leads leads_interruptedReading
  obtain ⟨query, hq, hcanceled⟩ : ∃ query, interruptedReading.world.query? ⟨0⟩ = some query ∧
      query.status = .canceled := ⟨_, rfl, rfl⟩
  obtain ⟨hfreezes, -⟩ := canceled_freezes hreachable hq hcanceled
  refine ⟨query, hreachable, hq, hcanceled, ?_, rfl⟩
  exact hfreezes _ (leads_steps 8 fun _ _ _ _ => trivial)

end Session

end RoomSearch
