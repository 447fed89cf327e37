import RoomSearch.Proofs.Cancellation
import RoomSearch.Proofs.Session.Triggers

/-!
# When a query takes a turn

A query takes notice of what changes in the directory, or is said to change: a room is gone, has
other settings, or is new and matches, and providers come and go.  Each of them begins a new epoch
of the query, and nothing else does.  So the epoch counts these turns, and if it is the same at two
moments, the query has taken none between them.

## Main definitions

* `Notice.isTurn` — something of which a query takes notice that searches for a given matcher.
* `Query.TakesNotice` — a query takes notice of what triggers it.
* `Session.Turns` — by the next step a query takes notice of something.

## Main results

* `World.advanceScan_of_active`, `World.advanceMerge_of_fresh`, and so on — what becomes of reading.
* `Session.Sound.epoch_step` — **a turn begins an epoch**, and nothing else does.
* `Session.Sound.epoch_steps` — **no turn was taken** between two moments of one epoch.
-/

namespace RoomSearch

/-- Whether a query takes notice of what is announced, as something that has changed in the
directory. -/
def Notice.isTurn (m : Matcher) : Notice → Bool
  | .rooms notice => notice.change != .added || m.accepts notice.room.name notice.room.identifier
  | .providers _ => true
  | _ => false

/-- A query that is referred to takes notice of what triggers it. -/
def Query.TakesNotice (query : Query) (o : Trigger) : Prop :=
  ∃ notice, o = .heard notice ∧ query.alive = true ∧ notice.isTurn query.matcher = true

namespace World

variable {w : World} {q : QueryId} {query : Query}

theorem epoch_of_query? (hq : w.query? q = some query) : w.epoch q = query.epoch := by
  rw [epoch, hq]
  rfl

theorem epoch_advanceEpoch (hq : w.query? q = some query) :
    (w.modifyQuery q Query.advanceEpoch).epoch q = w.epoch q + 1 := by
  rw [epoch_of_query? hq]
  exact epoch_of_query? (query?_modifyQuery_self Query.advanceEpoch hq)

/-- A list of rooms has changed. -/
theorem epoch_followRooms (hq : w.query? q = some query) (hactive : query.isCanceled = false)
    (notice : RoomNotice) : (w.followRooms q query notice).world.epoch q =
      w.epoch q + (if (Notice.rooms notice).isTurn query.matcher then 1 else 0) := by
  unfold followRooms
  dsimp only
  rw [hactive, if_neg Bool.false_ne_true]
  split
  · next hpassed =>
    have hno : (Notice.rooms notice).isTurn query.matcher = false := by
      simpa [Notice.isTurn, Query.accepts] using hpassed
    rw [hno]
    rfl
  · next htaken =>
    have hturn : (Notice.rooms notice).isTurn query.matcher = true := by
      by_contra hno
      exact htaken (by simpa [Notice.isTurn, Query.accepts] using hno)
    rw [hturn, if_pos rfl, ← epoch_advanceEpoch hq]
    split <;> exact sameEpochs_change _ q _ q

theorem epoch_followProviders (hq : w.query? q = some query) (hactive : query.isCanceled = false)
    (notice : ProviderNotice) :
    (w.followProviders q query notice).world.epoch q = w.epoch q + 1 := by
  rw [← epoch_advanceEpoch hq]
  unfold followProviders
  rw [hactive, if_neg Bool.false_ne_true]
  split
  · rfl
  · exact sameEpochs_change _ q _ q

theorem epoch_followPresence (w : World) (q : QueryId) (query : Query) (notice : PresenceNotice) :
    (w.followPresence q query notice).world.epoch q = w.epoch q := by
  have hfollows := follows_followPresence w q query notice
  generalize w.followPresence q query notice = m at hfollows
  cases hfollows with
  | still => rfl
  | presence => exact sameEpochs_change w q _ q
  | joined => rfl

/-- **A query that hears of something** begins a new epoch if it takes notice. -/
theorem epoch_follow (h : w.Accounts) (hq : w.query? q = some query) (halive : query.alive = true)
    (hactive : query.isCanceled = false) (notice : Notice) :
    (w.follow q notice).world.epoch q =
      w.epoch q + (if notice.isTurn query.matcher then 1 else 0) := by
  rw [follow, hq]
  dsimp only
  rw [halive, Bool.not_true, if_neg Bool.false_ne_true]
  cases notice with
  | presence notice => exact epoch_followPresence w q query notice
  | rooms notice => exact epoch_followRooms hq hactive notice
  | providers notice => exact epoch_followProviders hq hactive notice
  | registration notice =>
    obtain ⟨query', hq', hcourse⟩ := (bystands_followRegistry h hq notice).course.query hq
    rw [epoch_of_query? hq]
    exact (epoch_of_query? hq').trans hcourse.epoch

/-- A query that nothing refers to hears nothing. -/
theorem follow_of_not_alive (hq : w.query? q = some query) (halive : ¬ query.alive = true)
    (notice : Notice) : w.follow q notice = .still w := by
  rw [follow, hq]
  dsimp only
  rw [Bool.eq_false_iff.mpr halive, Bool.not_false, if_pos rfl]

theorem epoch_advanceJoined (w : World) (q : QueryId) (notice : PresenceNotice)
    (autoJoin : Bool) : (w.advanceJoined q notice autoJoin).world.epoch q = w.epoch q := by
  unfold advanceJoined
  split
  · rfl
  · split
    · rfl
    · exact sameEpochs_change w q _ q

theorem epoch_advanceMerge (w : World) (q : QueryId) (p : ProviderId) (read : Nat)
    (rooms : List Room) : (w.advanceMerge q p read rooms).world.epoch q = w.epoch q := by
  unfold advanceMerge
  split
  · rfl
  · split
    · rfl
    · split
      · rfl
      · exact sameEpochs_change w q _ q

/-- **A trigger begins an epoch** if the query takes notice of it, and only then. -/
theorem epoch_advance {task : Task} {o : Trigger} (h : w.Accounts) (hq : w.query? q = some query)
    (hlive : query.isCanceled = false) (ho : task.trigger? q = some o) :
    query.TakesNotice o ∧ (w.advance task).world.epoch q = w.epoch q + 1 ∨
      ¬ query.TakesNotice o ∧ (w.advance task).world.epoch q = w.epoch q := by
  rcases Task.exists_of_trigger? ho with ⟨notice, rest, rfl, rfl⟩ | ⟨notice, autoJoin, rfl, rfl⟩ |
    ⟨p, read, rooms, rfl, rfl⟩
  · show _ ∧ (w.follow q notice).world.epoch q = _ ∨ _ ∧ (w.follow q notice).world.epoch q = _
    by_cases halive : query.alive = true
    · rw [epoch_follow h hq halive hlive]
      cases hturn : notice.isTurn query.matcher with
      | true => exact .inl ⟨⟨notice, rfl, halive, hturn⟩, rfl⟩
      | false =>
        refine .inr ⟨?_, rfl⟩
        rintro ⟨_, ⟨⟩, -, hturn'⟩
        exact Bool.false_ne_true (hturn.symm.trans hturn')
    · rw [follow_of_not_alive hq halive]
      refine .inr ⟨?_, rfl⟩
      rintro ⟨_, -, halive', -⟩
      exact halive halive'
  · -- the room has been heard of before; now it is looked up
    refine .inr ⟨?_, epoch_advanceJoined w q notice autoJoin⟩
    rintro ⟨_, ⟨⟩, -, hturn⟩
    cases hturn
  · refine .inr ⟨?_, epoch_advanceMerge w q p read rooms⟩
    rintro ⟨_, ⟨⟩, -⟩

/-! ### What remains to be done of a scan -/

theorem advanceScan_of_active (hq : w.query? q = some query) (hlive : query.isCanceled = false)
    (p : ProviderId) : w.advanceScan q p =
      ⟨w, [.merge q p (w.epoch q) (w.directory.rooms p)], some .read, [.consulted q]⟩ := by
  rw [advanceScan, hq]
  dsimp only
  rw [hlive, if_neg Bool.false_ne_true, epoch_of_query? hq]

theorem advanceScan_of_canceled (h : ¬ w.IsActive q) (p : ProviderId) :
    w.advanceScan q p = .still w := by
  unfold advanceScan
  split
  · rfl
  · next query hq =>
    split
    · rfl
    · next hlive => exact absurd (isActive_of_isCanceled hq hlive) h

theorem advanceMerge_of_canceled (h : ¬ w.IsActive q) (p : ProviderId) (read : Nat)
    (rooms : List Room) : w.advanceMerge q p read rooms = .still w := by
  unfold advanceMerge
  split
  · rfl
  · next query hq =>
    split
    · rfl
    · next hlive => exact absurd (isActive_of_isCanceled hq hlive) h

/-- In another epoch the rooms are read again. -/
theorem advanceMerge_of_stale (h : w.IsActive q) {read : Nat} (hstale : w.epoch q ≠ read)
    (p : ProviderId) (rooms : List Room) :
    w.advanceMerge q p read rooms = .doing w [.scan q p] := by
  obtain ⟨query, hq, hlive⟩ := h
  rw [epoch_of_query? hq] at hstale
  rw [advanceMerge, hq]
  dsimp only
  rw [hlive, if_neg Bool.false_ne_true, if_pos hstale]

/-- In the same epoch those that match become results. -/
theorem advanceMerge_of_fresh (hq : w.query? q = some query) (hlive : query.isCanceled = false)
    (p : ProviderId) (rooms : List Room) : w.advanceMerge q p (w.epoch q) rooms =
      w.change q (query.results.mergeRooms p
        (rooms.filter fun room => query.accepts room.name room.identifier)) := by
  rw [advanceMerge, hq, epoch_of_query? hq]
  dsimp only
  rw [hlive, if_neg Bool.false_ne_true, if_neg (not_not_intro rfl)]

end World

namespace Session

variable {permitted : Session → Action → Prop} {s t : Session} {calls : List Call} {q : QueryId}
  {query : Query}

/-- By the next step a query that is referred to takes notice of something. -/
def Turns (s : Session) (q : QueryId) : Prop :=
  ∃ notice query, s.trigger? q = some (.heard notice) ∧ s.world.query? q = some query ∧
    query.alive = true ∧ notice.isTurn query.matcher = true

/-- After any number of steps a session is still sound. -/
theorem Sound.steps (hs : s.Sound) (n : Nat) : (s.steps n).Sound :=
  have hleads : Leads Unrestricted s (s.steps n) := leads_steps n fun _ _ _ _ => trivial
  hs.leads hleads

/-- A query that is active later was active before, if it was there. -/
theorem Sound.isActive_of_steps (hs : s.Sound) (hq : s.world.query? q = some query) {n : Nat}
    (h : (s.steps n).world.IsActive q) : s.world.IsActive q := by
  have hleads : Leads Unrestricted s (s.steps n) := leads_steps n fun _ _ _ _ => trivial
  obtain ⟨query', hq', hgrows⟩ := (hs.later hleads).kept hq
  have hlive := h.status_ne hq'
  refine ⟨query, hq, ?_⟩
  have hbefore : query.status ≠ .canceled := fun hcanceled => hlive (hgrows.canceled hcanceled)
  simpa [Query.isCanceled] using hbefore

/-- The epoch after the next move of a task is that after the step. -/
theorem epoch_step_of_task {task : Task} (hcalls : s.calls = .task task :: calls) :
    s.step.world.epoch q = (s.world.advance task).world.epoch q := by
  obtain ⟨m, first, later, hgoes⟩ := goes_step hcalls
  rw [hgoes.world, hgoes.move_task]
  exact World.sameEpochs_release _ _ _ q

/-- What a turn is once it is known what triggers the query. -/
theorem turns_iff {o : Trigger} (hq : s.world.query? q = some query) (ho : s.trigger? q = some o) :
    s.Turns q ↔ query.TakesNotice o := by
  constructor
  · rintro ⟨notice, query', hheard, hq', halive, hturn⟩
    cases Option.some.inj (hq.symm.trans hq')
    exact ⟨notice, Option.some.inj (ho.symm.trans hheard), halive, hturn⟩
  · rintro ⟨notice, rfl, halive, hturn⟩
    exact ⟨notice, query, ho, hq, halive, hturn⟩

/-- **A turn begins an epoch**, and nothing else does. -/
theorem Sound.epoch_step (hs : s.Sound) (hactive : s.world.IsActive q) :
    s.Turns q ∧ s.step.world.epoch q = s.world.epoch q + 1 ∨
      ¬ s.Turns q ∧ s.step.world.epoch q = s.world.epoch q := by
  obtain ⟨query, hq, hlive⟩ := hactive
  cases ho : s.trigger? q with
  | none =>
    refine .inr ⟨?_, ?_⟩
    · rintro ⟨notice, -, hheard, -⟩
      rw [ho] at hheard
      cases hheard
    · cases hcalls : s.calls with
      | nil => rw [step, hcalls]
      | cons c calls =>
        have hnext : Next Unrestricted s s.step := .step hcalls fun _ _ => trivial
        obtain ⟨query', hq', hsteady⟩ := (hs.steady ho hnext).query hq
        rw [World.epoch_of_query? hq, World.epoch_of_query? hq', hsteady.epoch]
  | some o =>
    obtain ⟨task, calls, hcalls, htask⟩ := exists_calls_of_trigger? ho
    rw [turns_iff hq ho, epoch_step_of_task hcalls]
    exact World.epoch_advance hs.accounts hq hlive htask

/-- **No turn was taken** between two moments of one epoch: epochs are not gone back to. -/
theorem Sound.epoch_steps (hs : s.Sound) {a b : Nat} (hab : a ≤ b)
    (hactive : ∀ k, a ≤ k → k < b → (s.steps k).world.IsActive q) :
    (s.steps a).world.epoch q ≤ (s.steps b).world.epoch q ∧
      ((s.steps b).world.epoch q = (s.steps a).world.epoch q ↔
        ∀ k, a ≤ k → k < b → ¬ (s.steps k).Turns q) := by
  induction b, hab using Nat.le_induction with
  | base => exact ⟨Nat.le_refl _, fun _ k hak hkb => by omega, fun _ => rfl⟩
  | succ b hab ih =>
    obtain ⟨hle, hiff⟩ := ih fun k hak hkb => hactive k hak (Nat.lt_succ_of_lt hkb)
    have hstep := (hs.steps b).epoch_step (hactive b hab (Nat.lt_succ_self b))
    rw [← steps_succ] at hstep
    rcases hstep with ⟨hturns, hepoch⟩ | ⟨hnot, hepoch⟩
    · refine ⟨by omega, fun heq => by omega, fun hnone => ?_⟩
      exact absurd hturns (hnone b hab (Nat.lt_succ_self b))
    · rw [hepoch]
      refine ⟨hle, hiff.trans ⟨fun hnone k hak hkb => ?_, fun hnone k hak hkb => ?_⟩⟩
      · rcases Nat.lt_succ_iff_lt_or_eq.mp hkb with hlt | rfl
        · exact hnone k hak hlt
        · exact hnot
      · exact hnone k hak (Nat.lt_succ_of_lt hkb)

end Session

end RoomSearch
