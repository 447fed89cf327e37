import RoomSearch.Proofs.Rereading.Turns
import RoomSearch.Proofs.Session.Log

/-!
# Rooms are read again until they are up to date

While the rooms of a provider are read for a query, the world outside may act, and whatever it does
may lead to further calls, more reading of the same rooms among them.  If the query takes a turn
meanwhile, what has been read is thrown away and read again, and so on until nothing has happened in
between.  There is no bound in the loop itself; it comes to its end because every session comes to
rest.

The readings of one call are numbered by the steps of the session: each has a step in which the
rooms are read and a later one in which they are about to be merged.

## Main definitions

* `Attempt` — when rooms are read and when they are about to be merged.
* `Session.Reads` — a scan is about to read the rooms.
* `Session.Merges` — rooms that have been read are about to be merged.
* `Session.Rereads` — the readings of a call up to its end.
* `Session.Scanned` — what becomes of a call from its beginning to its end.

## Main results

* `Session.Sound.exists_rereads` — **every call comes to an end**.
* `Session.scan_merges_latest` — **it merges what it has read last**, and only that.
-/

namespace RoomSearch

/-- Rooms are read at one step, and at another one they are about to be merged. -/
structure Attempt where
  /-- The step at which the rooms are read. -/
  began : Nat
  /-- The step at which they are about to be merged. -/
  ended : Nat
deriving DecidableEq, Repr

namespace Session

variable {s : Session} {q : QueryId} {p : ProviderId} {below : List Call} {query : Query}
  {readings : List Attempt} {r : Attempt} {a b n : Nat}

/-- A scan with these calls below it is about to read the rooms of the provider. -/
def Reads (s : Session) (q : QueryId) (p : ProviderId) (below : List Call) : Prop :=
  s.calls = .task (.scan q p) :: below ∧ s.world.IsActive q

/-- Rooms that have been read with these calls below are about to be merged in the epoch in which
they were read. -/
def Merges (s : Session) (q : QueryId) (p : ProviderId) (below : List Call) (rooms : List Room) :
    Prop :=
  s.calls = .task (.merge q p (s.world.epoch q) rooms) :: below ∧ s.world.IsActive q

/-- The merging that remains to be done after the rooms have been read. -/
def pending (s : Session) (q : QueryId) (p : ProviderId) : Call :=
  .task (.merge q p (s.world.epoch q) (s.world.directory.rooms p))

/-- One reading of a call that has these calls below it: the rooms are read, all that happens
meanwhile comes first, and then what has been read is about to be merged. -/
structure ReadsFrom (s : Session) (q : QueryId) (p : ProviderId) (below : List Call) (r : Attempt) :
    Prop where
  lt : r.began < r.ended
  began : (s.steps r.began).Reads q p below
  waits : ∀ k, r.began < k → k < r.ended → ∃ c calls,
    (s.steps k).calls = c :: calls ++ (s.steps r.began).pending q p :: below
  ended : (s.steps r.ended).calls = (s.steps r.began).pending q p :: below

/-- Whether the query has taken a turn meanwhile. -/
def isStale (s : Session) (q : QueryId) (r : Attempt) : Bool :=
  (s.steps r.ended).world.epoch q != (s.steps r.began).world.epoch q

/-- The readings of a call from one step to another, at which it is over. -/
inductive Rereads (s : Session) (q : QueryId) (p : ProviderId) (below : List Call) :
    Nat → List Attempt → Nat → Prop where
  /-- The query has been canceled before the rooms are read. -/
  | dropped {a : Nat} (hcalls : (s.steps a).calls = .task (.scan q p) :: below)
      (hcanceled : ¬ (s.steps a).world.IsActive q) : Rereads s q p below a [] (a + 1)
  /-- The query has been canceled while they were read. -/
  | abandoned {r : Attempt} (hr : s.ReadsFrom q p below r)
      (hcanceled : ¬ (s.steps r.ended).world.IsActive q) :
      Rereads s q p below r.began [r] (r.ended + 1)
  /-- They are read again. -/
  | again {r : Attempt} {readings : List Attempt} {n : Nat} (hr : s.ReadsFrom q p below r)
      (hactive : (s.steps r.ended).world.IsActive q) (hstale : s.isStale q r = true)
      (hlater : Rereads s q p below (r.ended + 1) readings n) :
      Rereads s q p below r.began (r :: readings) n
  /-- They are merged. -/
  | merged {r : Attempt} (hr : s.ReadsFrom q p below r)
      (hactive : (s.steps r.ended).world.IsActive q) (hfresh : s.isStale q r = false) :
      Rereads s q p below r.began [r] (r.ended + 1)

/-! ### One step -/

/-- The calls after the next move of a task. -/
theorem calls_step_of_task {task : Task} {calls : List Call} (h : s.calls = .task task :: calls) :
    ∃ first, s.step.calls = first ++ (s.world.advance task).tasks.map Call.task ++ calls ∧
      ((s.world.advance task).callback = none → first = []) := by
  obtain ⟨m, first, later, hgoes⟩ := goes_step h
  have hcalls := hgoes.calls
  have hunasked := hgoes.unasked
  rw [hgoes.taskless nofun, List.append_nil, hgoes.move_task] at hcalls
  rw [hgoes.move_task] at hunasked
  exact ⟨first, hcalls, hunasked⟩

theorem notes_step_of_task {task : Task} {calls : List Call} (h : s.calls = .task task :: calls) :
    s.step.notes = s.notes ++ (s.world.advance task).notes := by
  obtain ⟨m, first, later, hgoes⟩ := goes_step h
  rw [hgoes.notes, hgoes.move_task]

/-- A task of which nothing comes is over. -/
theorem calls_step_of_still {task : Task} {calls : List Call} (h : s.calls = .task task :: calls)
    (hstill : s.world.advance task = .still s.world) : s.step.calls = calls := by
  obtain ⟨first, hcalls, hunasked⟩ := calls_step_of_task h
  rw [hstill] at hcalls hunasked
  rw [hcalls, hunasked rfl]
  rfl

/-- Rooms that were read in another epoch are read again. -/
theorem calls_step_of_stale {read : Nat} {rooms : List Room}
    (h : s.calls = .task (.merge q p read rooms) :: below) (hactive : s.world.IsActive q)
    (hstale : s.world.epoch q ≠ read) : s.step.calls = .task (.scan q p) :: below := by
  have hmove : s.world.advance (.merge q p read rooms) = .doing s.world [.scan q p] :=
    World.advanceMerge_of_stale hactive hstale p rooms
  obtain ⟨first, hcalls, hunasked⟩ := calls_step_of_task h
  rw [hmove] at hcalls hunasked
  rw [hcalls, hunasked rfl]
  rfl

/-! ### Every call comes to an end -/

/-- **A reading** comes to its end. -/
theorem exists_readsFrom (h : (s.steps a).Reads q p below) :
    ∃ b, s.ReadsFrom q p below ⟨a, b⟩ := by
  obtain ⟨hcalls, query, hq, hlive⟩ := id h
  have hmove : (s.steps a).world.advance (.scan q p) = _ :=
    World.advanceScan_of_active hq hlive p
  obtain ⟨first, hstep, -⟩ := calls_step_of_task hcalls
  rw [hmove, ← steps_succ, List.append_assoc] at hstep
  obtain ⟨m, hended, hwaits⟩ := exists_steps_calls hstep
  refine ⟨a + 1 + m, ?_, h, fun k hak hkb => ?_, ?_⟩
  · show a < a + 1 + m
    omega
  · obtain ⟨j, rfl⟩ := Nat.exists_eq_add_of_le (show a + 1 ≤ k from hak)
    rw [steps_add]
    exact hwaits j (by simpa using hkb)
  · show (s.steps (a + 1 + m)).calls = _
    rw [steps_add]
    exact hended

/-- While rooms are read, what the world outside does comes first. -/
theorem ReadsFrom.trichotomy (hr : s.ReadsFrom q p below r) {k : Nat} (hle : r.began ≤ k)
    (hle' : k ≤ r.ended) :
    r.began = k ∨ r.ended = k ∨ below.length + 1 < (s.steps k).calls.length := by
  rcases Nat.lt_or_eq_of_le hle with hlt | heq
  · rcases Nat.lt_or_eq_of_le hle' with hlt' | heq'
    · obtain ⟨c, calls, hcalls⟩ := hr.waits k hlt hlt'
      refine .inr (.inr ?_)
      rw [hcalls, List.length_append, List.length_cons, List.length_cons]
      omega
    · exact .inr (.inl heq'.symm)
  · exact .inl heq

/-- So more calls are in progress than those below. -/
theorem ReadsFrom.length_lt (hr : s.ReadsFrom q p below r) {k : Nat} (hle : r.began ≤ k)
    (hle' : k ≤ r.ended) : below.length < (s.steps k).calls.length := by
  rcases hr.trichotomy hle hle' with rfl | rfl | hlt
  · rw [hr.began.1]
    exact Nat.lt_succ_self _
  · rw [hr.ended]
    exact Nat.lt_succ_self _
  · exact Nat.lt_of_succ_lt hlt

/-- While rooms are read by a call, it does not read any others. -/
theorem ReadsFrom.eq_began (hr : s.ReadsFrom q p below r) {k : Nat} (hle : r.began ≤ k)
    (hle' : k ≤ r.ended) (hreads : (s.steps k).Reads q p below) : r.began = k := by
  rcases hr.trichotomy hle hle' with heq | rfl | hlt
  · exact heq
  · obtain ⟨hcalls, -⟩ := hreads
    rw [hr.ended, List.cons.injEq, pending, Call.task.injEq] at hcalls
    cases hcalls.1
  · rw [hreads.1] at hlt
    exact absurd hlt (Nat.lt_irrefl _)

/-- Nor does it merge any others. -/
theorem ReadsFrom.eq_ended (hr : s.ReadsFrom q p below r) {k : Nat} {rooms : List Room}
    (hle : r.began ≤ k) (hle' : k ≤ r.ended) (hmerges : (s.steps k).Merges q p below rooms) :
    r.ended = k ∧ s.isStale q r = false ∧ rooms = (s.steps r.began).world.directory.rooms p := by
  obtain ⟨hcalls, -⟩ := hmerges
  rcases hr.trichotomy hle hle' with rfl | rfl | hlt
  · rw [hr.began.1, List.cons.injEq, Call.task.injEq] at hcalls
    cases hcalls.1
  · rw [hr.ended, List.cons.injEq, pending, Call.task.injEq, Task.merge.injEq] at hcalls
    obtain ⟨⟨-, -, hepoch, hrooms⟩, -⟩ := hcalls
    exact ⟨rfl, by rw [isStale, hepoch, bne_self_eq_false], hrooms.symm⟩
  · rw [hcalls] at hlt
    exact absurd hlt (Nat.lt_irrefl _)

/-- **Every call comes to an end**, whatever is done while it reads. -/
theorem exists_rereads (hover : (s.steps n).calls = below) (ha : a < n)
    (hcalls : (s.steps a).calls = .task (.scan q p) :: below) :
    ∃ readings m, m ≤ n ∧ s.Rereads q p below a readings m := by
  induction hleft : n - a using Nat.strong_induction_on generalizing a with
  | _ left ih =>
    by_cases hactive : (s.steps a).world.IsActive q
    · obtain ⟨b, hr⟩ := exists_readsFrom ⟨hcalls, hactive⟩
      -- the call cannot have come to an end meanwhile
      have hab : a < b := hr.lt
      have hb : b < n := by
        by_contra hnb
        have hlength := hr.length_lt (Nat.le_of_lt ha) (Nat.le_of_not_lt hnb)
        rw [hover] at hlength
        exact Nat.lt_irrefl _ hlength
      by_cases hstill : (s.steps b).world.IsActive q
      · cases hstale : s.isStale q ⟨a, b⟩ with
        | false => exact ⟨_, _, hb, .merged hr hstill hstale⟩
        | true =>
          have hagain : (s.steps (b + 1)).calls = .task (.scan q p) :: below := by
            rw [steps_succ]
            exact calls_step_of_stale hr.ended hstill (bne_iff_ne.mp hstale)
          have hlt : b + 1 < n := by
            refine Nat.lt_of_le_of_ne hb fun heq => ?_
            rw [heq, hover] at hagain
            exact absurd (congrArg List.length hagain) (by simp)
          obtain ⟨readings, m, hm, hlater⟩ := ih (n - (b + 1)) (by omega) hlt hagain rfl
          exact ⟨_, m, hm, .again hr hstill hstale hlater⟩
      · exact ⟨_, _, hb, .abandoned hr hstill⟩
    · exact ⟨_, _, ha, .dropped hcalls hactive⟩

/-! ### What a call reads -/

/-- Between two steps these are all readings of a call, one after the other. -/
structure Covers (s : Session) (q : QueryId) (p : ProviderId) (below : List Call) (a : Nat)
    (readings : List Attempt) (n : Nat) : Prop where
  le : a < n
  each : ∀ r ∈ readings, s.ReadsFrom q p below r ∧ a ≤ r.began ∧ r.ended < n
  ordered : readings.Pairwise fun r r' => r.ended < r'.began
  all : ∀ k, a ≤ k → k < n → (s.steps k).Reads q p below → ∃ r ∈ readings, r.began = k

/-- A single reading. -/
theorem ReadsFrom.covers (hr : s.ReadsFrom q p below r) :
    s.Covers q p below r.began [r] (r.ended + 1) where
  le := Nat.lt_succ_of_lt hr.lt
  each := by
    intro r' hr'
    rw [List.mem_singleton.mp hr']
    exact ⟨hr, Nat.le_refl _, Nat.lt_succ_self _⟩
  ordered := List.pairwise_singleton _ r
  all k hle hlt hreads := ⟨r, List.mem_singleton_self r,
    hr.eq_began hle (Nat.le_of_lt_succ hlt) hreads⟩

/-- **The readings of a call** are all that it reads. -/
theorem Rereads.covers (h : s.Rereads q p below a readings n) :
    s.Covers q p below a readings n := by
  induction h with
  | @dropped a hcalls hcanceled =>
    refine ⟨Nat.lt_succ_self a, List.forall_mem_nil _, .nil, fun k hle hlt hreads => ?_⟩
    cases Nat.le_antisymm hle (Nat.le_of_lt_succ hlt)
    exact absurd hreads.2 hcanceled
  | abandoned hr hcanceled => exact hr.covers
  | merged hr hactive hfresh => exact hr.covers
  | @again r readings n hr hactive hstale hlater ih =>
    have hlt := hr.lt
    have hle := ih.le
    refine ⟨by omega, ?_, ?_, fun k hak hkn hreads => ?_⟩
    · refine List.forall_mem_cons.mpr ⟨⟨hr, Nat.le_refl _, by omega⟩, fun r' hr' => ?_⟩
      obtain ⟨hr', hbegan, hended⟩ := ih.each r' hr'
      exact ⟨hr', by omega, hended⟩
    · refine List.pairwise_cons.mpr ⟨fun r' hr' => ?_, ih.ordered⟩
      obtain ⟨-, hbegan, -⟩ := ih.each r' hr'
      exact hbegan
    · rcases Nat.lt_or_ge r.ended k with hafter | hbefore
      · obtain ⟨r', hr', hbegan⟩ := ih.all k hafter hkn hreads
        exact ⟨r', List.mem_cons_of_mem _ hr', hbegan⟩
      · exact ⟨r, List.mem_cons_self, hr.eq_began hak hbefore hreads⟩

/-! ### What a call merges -/

/-- The rooms of a reading are merged at the end of it: those that match become results, and what is
new about them is on its way to the subscribers. -/
structure MergesAt (s : Session) (q : QueryId) (p : ProviderId) (below : List Call) (r : Attempt)
    (query : Query) : Prop where
  merges : (s.steps r.ended).Merges q p below ((s.steps r.began).world.directory.rooms p)
  found : (s.steps r.ended).world.query? q = some query
  effect : ∃ outcome query', outcome = query.results.mergeRooms p
      (((s.steps r.began).world.directory.rooms p).filter fun room =>
        query.accepts room.name room.identifier) ∧
    (s.steps (r.ended + 1)).world.query? q = some query' ∧ query'.results = outcome.2 ∧
    (s.steps (r.ended + 1)).calls =
      ((s.steps r.ended).world.change q outcome).tasks.map Call.task ++ below ∧
    (s.steps (r.ended + 1)).notes =
      (s.steps r.ended).notes ++ ((s.steps r.ended).world.change q outcome).notes

/-- Nothing comes of what the next step does for a query. -/
structure Wastes (s : Session) (q : QueryId) : Prop where
  steady : World.Steady q s.world s.step.world
  silent : s.step.notes = s.notes

/-- A task that neither changes the world nor notes anything. -/
theorem Sound.wastes (hs : s.Sound) {task : Task} {calls : List Call}
    (hcalls : s.calls = .task task :: calls) (hworld : (s.world.advance task).world = s.world)
    (hnotes : (s.world.advance task).notes = []) : s.Wastes q := by
  refine ⟨⟨fun {query} hq => ?_⟩, ?_⟩
  · rw [← hworld] at hq
    obtain ⟨query', hq', hfound⟩ := hs.exists_query?_step hcalls hq
    exact ⟨query', hq', hfound.matcher, hfound.results, hfound.epoch⟩
  · rw [notes_step_of_task hcalls, hnotes, List.append_nil]

/-- **What is merged**: the rooms that were read in the epoch that it still is. -/
theorem ReadsFrom.mergesAt (hr : s.ReadsFrom q p below r) (hs : s.Sound)
    (hactive : (s.steps r.ended).world.IsActive q) (hfresh : s.isStale q r = false) :
    (s.steps (r.ended + 1)).world.IsActive q ∧ ∃ query, s.MergesAt q p below r query := by
  have hepoch : (s.steps r.ended).world.epoch q = (s.steps r.began).world.epoch q := by
    simpa [isStale] using hfresh
  obtain ⟨query, hq, hlive⟩ := id hactive
  have hended := hr.ended
  rw [pending, ← hepoch] at hended
  have hmove : (s.steps r.ended).world.advance (.merge q p _ _) = _ :=
    World.advanceMerge_of_fresh hq hlive p ((s.steps r.began).world.directory.rooms p)
  obtain ⟨first, hcalls, hunasked⟩ := calls_step_of_task hended
  have hnotes := notes_step_of_task hended
  have hmiddle := World.query?_change hq (query.results.mergeRooms p
    (((s.steps r.began).world.directory.rooms p).filter fun room =>
      query.accepts room.name room.identifier))
  rw [← hmove] at hmiddle
  obtain ⟨query', hq', hfound⟩ := (hs.steps r.ended).exists_query?_step hended hmiddle
  rw [hmove] at hcalls hunasked hnotes
  rw [hunasked (World.callback_commit ..), List.nil_append] at hcalls
  rw [steps_succ]
  refine ⟨⟨query', hq', ?_⟩, query, ⟨hended, hactive⟩, hq, _, query', rfl, ?_⟩
  · rw [Query.isCanceled, hfound.status]
    exact hlive
  · rw [steps_succ]
    exact ⟨hq', hfound.results, hcalls, hnotes⟩

/-- **Rooms that were read in another epoch** come to nothing. -/
theorem ReadsFrom.wastes_of_stale (hr : s.ReadsFrom q p below r) (hs : s.Sound)
    (hactive : (s.steps r.ended).world.IsActive q) (hstale : s.isStale q r = true) :
    (s.steps r.ended).Wastes q := by
  have hmove : (s.steps r.ended).world.advance (.merge q p _ _) = _ :=
    World.advanceMerge_of_stale hactive (bne_iff_ne.mp hstale) p
      ((s.steps r.began).world.directory.rooms p)
  refine (hs.steps r.ended).wastes hr.ended ?_ ?_
  · rw [hmove]
    rfl
  · rw [hmove]
    rfl

/-- A query that is active was active before. -/
theorem Sound.isActive_of_le (hs : s.Sound) (hq : s.world.query? q = some query) {j k : Nat}
    (hjk : j ≤ k) (h : (s.steps k).world.IsActive q) : (s.steps j).world.IsActive q := by
  have hleads : Leads Unrestricted s (s.steps j) := leads_steps j fun _ _ _ _ => trivial
  obtain ⟨query', hq', -⟩ := (hs.later hleads).kept hq
  obtain ⟨i, rfl⟩ := Nat.exists_eq_add_of_le hjk
  rw [steps_add] at h
  exact (hs.steps j).isActive_of_steps hq' h

/-- The query is active at the end of a call that reads like this, and the last reading is merged;
all others were stale. -/
structure MergesLatest (s : Session) (q : QueryId) (p : ProviderId) (below : List Call) (a : Nat)
    (readings : List Attempt) (n : Nat) (r : Attempt) : Prop where
  last : ∃ earlier, readings = earlier ++ [r] ∧ ∀ e ∈ earlier, s.isStale q e = true
  fresh : s.isStale q r = false
  ends : n = r.ended + 1
  merges : ∃ query, s.MergesAt q p below r query
  /-- Nothing else is merged by the call. -/
  once : ∀ k, a ≤ k → k < n → ∀ rooms, (s.steps k).Merges q p below rooms → k = r.ended

/-- The query has been canceled by the end of a call, which has merged nothing. -/
structure MergesNothing (s : Session) (q : QueryId) (p : ProviderId) (below : List Call) (a : Nat)
    (n : Nat) : Prop where
  /-- Nothing remains to be done of the call, so nobody is told anything. -/
  ends : (s.steps n).calls = below
  wastes : ∃ k, n = k + 1 ∧ (s.steps k).Wastes q
  never : ∀ k, a ≤ k → k < n → ∀ rooms, ¬ (s.steps k).Merges q p below rooms

/-- **What a call merges**: its last reading, or nothing if the query is canceled. -/
theorem Rereads.merges (h : s.Rereads q p below a readings n) (hs : s.Sound)
    (hq : s.world.query? q = some query) :
    ((s.steps n).world.IsActive q ∧ ∃ r, s.MergesLatest q p below a readings n r) ∨
      (¬ (s.steps n).world.IsActive q ∧ s.MergesNothing q p below a n) := by
  have hcanceled : ∀ {k}, ¬ (s.steps k).world.IsActive q → ¬ (s.steps (k + 1)).world.IsActive q :=
    fun hnot hactive => hnot (hs.isActive_of_le hq (Nat.le_succ _) hactive)
  induction h with
  | @dropped a hcalls hnot =>
    -- the query has been canceled before the rooms are read
    have hstill : (s.steps a).world.advance (.scan q p) = .still (s.steps a).world :=
      World.advanceScan_of_canceled hnot p
    refine .inr ⟨hcanceled hnot, ?_, ⟨a, rfl, ?_⟩, fun k hle hlt rooms hmerges => ?_⟩
    · rw [steps_succ]
      exact calls_step_of_still hcalls hstill
    · refine (hs.steps a).wastes hcalls (congrArg Move.world hstill) ?_
      exact congrArg Move.notes hstill
    · cases Nat.le_antisymm hle (Nat.le_of_lt_succ hlt)
      exact hnot hmerges.2
  | @abandoned r hr hnot =>
    -- the query has been canceled since the rooms were read
    have hstill := World.advanceMerge_of_canceled hnot p ((s.steps r.began).world.epoch q)
      ((s.steps r.began).world.directory.rooms p)
    refine .inr ⟨hcanceled hnot, ?_, ⟨r.ended, rfl, ?_⟩, fun k hle hlt rooms hmerges => ?_⟩
    · rw [steps_succ]
      exact calls_step_of_still hr.ended hstill
    · refine (hs.steps r.ended).wastes hr.ended (congrArg Move.world hstill) ?_
      exact congrArg Move.notes hstill
    · obtain ⟨rfl, -, -⟩ := hr.eq_ended hle (Nat.le_of_lt_succ hlt) hmerges
      exact hnot hmerges.2
  | @merged r hr hactive hfresh =>
    -- no epoch has begun since the rooms were read
    obtain ⟨hafter, hmerges⟩ := hr.mergesAt hs hactive hfresh
    refine .inl ⟨hafter, r, ⟨[], rfl, List.forall_mem_nil _⟩, hfresh, rfl, hmerges, ?_⟩
    intro k hle hlt rooms hk
    exact (hr.eq_ended hle (Nat.le_of_lt_succ hlt) hk).1.symm
  | @again r readings n hr hactive hstale hlater ih =>
    -- what was stale is not merged
    have hnever : ∀ k, r.began ≤ k → k ≤ r.ended → ∀ rooms,
        ¬ (s.steps k).Merges q p below rooms := by
      intro k hle hle' rooms hmerges
      obtain ⟨-, hfresh, -⟩ := hr.eq_ended hle hle' hmerges
      rw [hstale] at hfresh
      cases hfresh
    refine ih.imp ?_ ?_
    · rintro ⟨hafter, last, ⟨earlier, rfl, hearlier⟩, hfresh, hover, hmerges, honce⟩
      refine ⟨hafter, last, ⟨r :: earlier, rfl, List.forall_mem_cons.mpr ⟨hstale, hearlier⟩⟩,
        hfresh, hover, hmerges, fun k hle hlt rooms hk => ?_⟩
      rcases Nat.lt_or_ge r.ended k with hlater | hbefore
      · exact honce k hlater hlt rooms hk
      · exact absurd hk (hnever k hle hbefore rooms)
    · rintro ⟨hnot, hover, hwastes, hlast⟩
      refine ⟨hnot, hover, hwastes, fun k hle hlt rooms hk => ?_⟩
      rcases Nat.lt_or_ge r.ended k with hlater | hbefore
      · exact hlast k hlater hlt rooms hk
      · exact hnever k hle hbefore rooms hk

/-- All readings but the last one come to nothing. -/
theorem Rereads.wastes (h : s.Rereads q p below a readings n) (hs : s.Sound) :
    ∀ r ∈ readings, r.ended + 1 < n → (s.steps r.ended).Wastes q := by
  induction h with
  | dropped hcalls hnot => exact List.forall_mem_nil _
  | abandoned hr hnot =>
    exact List.forall_mem_singleton.mpr fun hlt => absurd hlt (Nat.lt_irrefl _)
  | merged hr hactive hfresh =>
    exact List.forall_mem_singleton.mpr fun hlt => absurd hlt (Nat.lt_irrefl _)
  | again hr hactive hstale hlater ih =>
    exact List.forall_mem_cons.mpr ⟨fun _ => hr.wastes_of_stale hs hactive hstale, ih⟩

/-! ### From the beginning to the end -/

/-- What becomes of a call that reads the rooms of a provider, from the present step to the `n`-th
one, at which it is over. -/
structure Scanned (s : Session) (q : QueryId) (p : ProviderId) (below : List Call)
    (readings : List Attempt) (n : Nat) : Prop where
  /-- It is in progress until then. -/
  busy : ∀ k < n, ∃ c calls, (s.steps k).calls = c :: calls ++ below
  /-- These are its readings. -/
  covers : s.Covers q p below 0 readings n
  /-- If the query is not canceled, it takes a turn during every reading but the last one; it takes
  none during the last one, and what was read then is merged, and nothing else. -/
  latest : (s.steps n).world.IsActive q → ∃ r, s.MergesLatest q p below 0 readings n r ∧
    readings.length = 1 + readings.countP (s.isStale q) ∧
    ∀ k, r.began ≤ k → k < r.ended → ¬ (s.steps k).Turns q
  /-- If it is canceled, nothing is merged, and nobody is told anything. -/
  nothing : ¬ (s.steps n).world.IsActive q → s.MergesNothing q p below 0 n
  /-- A reading is stale if the query takes a turn before it is over. -/
  stale : ∀ r ∈ readings, (s.steps r.ended).world.IsActive q →
    (s.isStale q r = true ↔ ∃ k, r.began ≤ k ∧ k < r.ended ∧ (s.steps k).Turns q)
  /-- All readings but the last one come to nothing. -/
  wastes : ∀ r ∈ readings, r.ended + 1 < n → (s.steps r.ended).Wastes q

/-- **A reading is stale** if the query takes a turn meanwhile. -/
theorem ReadsFrom.isStale_iff (hr : s.ReadsFrom q p below r) (hs : s.Sound)
    (hq : s.world.query? q = some query) (hactive : (s.steps r.ended).world.IsActive q) :
    s.isStale q r = true ↔ ∃ k, r.began ≤ k ∧ k < r.ended ∧ (s.steps k).Turns q := by
  obtain ⟨-, hiff⟩ := hs.epoch_steps (Nat.le_of_lt hr.lt) fun k _ hk =>
    hs.isActive_of_le hq (Nat.le_of_lt hk) hactive
  rw [isStale, bne_iff_ne, ne_eq, hiff]
  simp only [not_forall, not_not, exists_prop]

/-- All readings but the last one are stale. -/
theorem MergesLatest.length_eq (h : s.MergesLatest q p below a readings n r) :
    readings.length = 1 + readings.countP (s.isStale q) := by
  obtain ⟨earlier, rfl, hstale⟩ := h.last
  have hearlier : earlier.countP (s.isStale q) = earlier.length := List.countP_eq_length.mpr hstale
  have hlast : [r].countP (s.isStale q) = 0 := List.countP_eq_zero.mpr (by simp [h.fresh])
  rw [List.length_append, List.countP_append, hearlier, hlast]
  simp only [List.length_singleton]
  omega

/-- **Rooms are read until they are up to date**, whatever is done from inside the readings.  Every
call that reads the rooms of a provider comes to an end.  If the query is not canceled meanwhile,
the rooms are read once more than there are readings during which it takes a turn; what was read
last is merged, once, and nothing that was read before, and between that reading and its merging the
query has taken no turn.  If it is canceled meanwhile, nothing is merged and nobody is told
anything. -/
theorem scan_merges_latest (h : Reachable Unrestricted s)
    (hcalls : s.calls = .task (.scan q p) :: below) (hq : s.world.query? q = some query) :
    ∃ readings n, s.Scanned q p below readings n := by
  have hs := sound_of_reachable h
  obtain ⟨last, hover, hwaits⟩ :=
    exists_steps_calls (show s.calls = [.task (.scan q p)] ++ below from hcalls)
  have hlast : 0 < last := by
    refine Nat.pos_of_ne_zero fun hzero => ?_
    subst hzero
    exact absurd (congrArg List.length (hcalls.symm.trans hover)) (by simp)
  obtain ⟨readings, n, hn, hrereads⟩ := exists_rereads hover hlast hcalls
  have hcovers := hrereads.covers
  have hmerges := hrereads.merges hs hq
  refine ⟨readings, n, fun k hk => hwaits k (Nat.lt_of_lt_of_le hk hn), hcovers, ?_, ?_, ?_,
    hrereads.wastes hs⟩
  · intro hactive
    rcases hmerges with ⟨-, r, hlatest⟩ | ⟨hnot, -⟩
    · -- nothing happens during the last reading, or it would be stale
      refine ⟨r, hlatest, hlatest.length_eq, fun k hle hlt hturns => ?_⟩
      obtain ⟨earlier, rfl, -⟩ := hlatest.last
      obtain ⟨hr, -, hended⟩ := hcovers.each r (List.mem_append_right _ (List.mem_singleton_self r))
      have hstill := hs.isActive_of_le hq (Nat.le_of_lt hended) hactive
      have hstale := (hr.isStale_iff hs hq hstill).mpr ⟨k, hle, hlt, hturns⟩
      rw [hlatest.fresh] at hstale
      cases hstale
    · exact absurd hactive hnot
  · intro hnot
    rcases hmerges with ⟨hactive, -⟩ | ⟨-, hnothing⟩
    · exact absurd hactive hnot
    · exact hnothing
  · intro r hr hactive
    obtain ⟨hreads, -, -⟩ := hcovers.each r hr
    exact hreads.isStale_iff hs hq hactive

/-! ### A room that goes while it is read -/

/-- A room is going to be taken out while the rooms are read, which is what the query does next. -/
def rescanning : Session :=
  (((listened.ask (.afterRead [.removeRoom ⟨"p"⟩ "a"])).steps 3).ask (.run "q")).steps 2

theorem reachable_rescanning : Reachable Unrestricted rescanning := by
  have hstored : Leads Unrestricted listened
      ((listened.ask (.afterRead [.removeRoom ⟨"p"⟩ "a"])).steps 3) :=
    leads_ask _ 3 rfl fun _ _ _ _ => trivial
  exact reachable_listened.unrestricted.leads
    (hstored.trans (leads_ask _ 2 rfl fun _ _ _ _ => trivial))

/-- The query hears of it during its first reading, which is stale for that reason. -/
theorem scan_merges_latest_rescanning : Reachable Unrestricted rescanning ∧
    (rescanning.steps 2).Turns ⟨0⟩ ∧ rescanning.isStale ⟨0⟩ ⟨0, 6⟩ = true ∧
    ∃ below query readings n, rescanning.calls = .task (.scan ⟨0⟩ ⟨"p"⟩) :: below ∧
      rescanning.world.query? ⟨0⟩ = some query ∧
      rescanning.Scanned ⟨0⟩ ⟨"p"⟩ below readings n ∧ ∃ r ∈ readings, r.began = 0 := by
  obtain ⟨below, hcalls⟩ : ∃ below, rescanning.calls = .task (.scan ⟨0⟩ ⟨"p"⟩) :: below :=
    ⟨_, rfl⟩
  obtain ⟨query, hq, hlive⟩ : ∃ query, rescanning.world.query? ⟨0⟩ = some query ∧
      query.isCanceled = false := ⟨_, rfl, rfl⟩
  obtain ⟨readings, n, hscanned⟩ := scan_merges_latest reachable_rescanning hcalls hq
  refine ⟨reachable_rescanning, ?_, by decide +kernel, below, query, readings, n, hcalls, hq,
    hscanned, ?_⟩
  · exact ⟨.rooms ⟨⟨"p"⟩, ⟨"a", "a", false⟩, .removed⟩, _, rfl, rfl, rfl, rfl⟩
  · exact hscanned.covers.all 0 (Nat.le_refl 0) hscanned.covers.le ⟨hcalls, query, hq, hlive⟩

end Session

end RoomSearch
