import RoomSearch.Proofs.Independence.InStep
import RoomSearch.Proofs.Independence.Unattended

/-!
# Two sessions side by side

Two sessions mirror each other as far as a query goes if their worlds do, and if the calls in
progress do the same for the query.  Calls that spare the query stand in any number and at any
place among those that correspond, in both sessions.

Each session is let go on alone where the call that is next for it turns to others, and both go on
together where it turns to the query.  Since every session comes to rest, this ends with two
sessions at rest that mirror each other, however many steps each of them has taken.

## Main definitions

* `Call.Spares` — calls that spare a query.
* `MirroredCalls` — calls in progress that do the same for a query.
* `Session.Mirrors` — two sessions that mirror each other as far as a query goes.

## Main results

* `Session.Mirrors.takingLeft`, `Session.Mirrors.taking` — a move in one session or in both.
* `Session.Mirrors.sweepLeft`, `Session.Mirrors.sweep` — letting go in one session or in both.
* `Session.Mirrors.settle` — **two sessions that mirror each other** do so when they are at rest.
-/

namespace RoomSearch

variable {names names' : Translation} {q q' : QueryId} {calls calls' above above' : List Call}

/-! ### Calls in progress -/

/-- The call does nothing for the query, and performs no action. -/
def Call.Spares (q : QueryId) : Call → Prop
  | .task t => t.Spares q
  | .script rest => rest = []
  | _ => True

theorem Call.spares_of_bare {c : Call} (htask : c.task? = none) (haction : c.action? = none) :
    c.Spares q := by
  cases c with
  | task => cases htask
  | script rest =>
    cases rest with
    | nil => rfl
    | cons => cases haction
  | listing | answer => trivial

theorem Call.Spares.action? {c : Call} (h : c.Spares q) : c.action? = none := by
  cases c with
  | script rest =>
    cases h
    rfl
  | _ => rfl

/-- A task that spares a query does not refer to it. -/
theorem Task.Spares.not_mem_queries {t : Task} (h : t.Spares q) : q ∉ t.queries := by
  cases t with
  | deliver | withdraw => exact List.not_mem_nil
  | cancelEach => exact h
  | _ => exact fun hmem => h (List.mem_singleton.mp hmem).symm

theorem Call.Spares.contains_queries {c : Call} (h : c.Spares q) :
    c.queries.contains q = false := by
  cases c with
  | task t => simpa [Call.queries] using Task.Spares.not_mem_queries h
  | _ => rfl

/-- Two tasks that do the same for a query refer to it both, or neither does. -/
theorem Task.Mirrors.contains_queries {t t' : Task} (h : t.Mirrors names q q' t') :
    t'.queries.contains q' = t.queries.contains q := by
  cases h with
  | deliver | withdraw => rfl
  | @cancelEach rest rest' hcount =>
    rw [Bool.eq_iff_iff, List.contains_iff_mem, List.contains_iff_mem]
    show q' ∈ rest' ↔ q ∈ rest
    rw [← List.count_pos_iff, ← List.count_pos_iff, hcount]
  | _ => simp [Task.queries]

/-- The calls do the same for the query `q` in one session and `q'` in the other; those that spare
the query are passed over. -/
inductive MirroredCalls (names : Translation) (q q' : QueryId) : List Call → List Call → Prop where
  | nil : MirroredCalls names q q' [] []
  | left {c : Call} {calls calls' : List Call} (hc : c.Spares q)
      (h : MirroredCalls names q q' calls calls') : MirroredCalls names q q' (c :: calls) calls'
  | right {c' : Call} {calls calls' : List Call} (hc : c'.Spares q')
      (h : MirroredCalls names q q' calls calls') : MirroredCalls names q q' calls (c' :: calls')
  | both {t t' : Task} {calls calls' : List Call} (ht : t.Mirrors names q q' t')
      (h : MirroredCalls names q q' calls calls') :
      MirroredCalls names q q' (.task t :: calls) (.task t' :: calls')

namespace MirroredCalls

theorem symm (h : MirroredCalls names q q' calls calls') :
    MirroredCalls (flip names) q' q calls' calls := by
  induction h with
  | nil => exact .nil
  | left hc _ ih => exact .right hc ih
  | right hc _ ih => exact .left hc ih
  | both ht _ ih => exact .both ht.symm ih

theorem mono (h : MirroredCalls names q q' calls calls')
    (hnames : ∀ {id id'}, names id id' → names' id id') :
    MirroredCalls names' q q' calls calls' := by
  induction h with
  | nil => exact .nil
  | left hc _ ih => exact .left hc ih
  | right hc _ ih => exact .right hc ih
  | both ht _ ih => exact .both (ht.mono hnames) ih

theorem appendLeft (h : MirroredCalls names q q' calls calls')
    (habove : ∀ c ∈ above, c.Spares q) : MirroredCalls names q q' (above ++ calls) calls' := by
  induction above with
  | nil => exact h
  | cons c rest ih =>
    refine .left (habove c List.mem_cons_self) (ih ?_)
    exact fun d hd => habove d (List.mem_cons_of_mem c hd)

theorem append (h : MirroredCalls names q q' calls calls')
    (habove : MirroredCalls names q q' above above') :
    MirroredCalls names q q' (above ++ calls) (above' ++ calls') := by
  induction habove with
  | nil => exact h
  | left hc _ ih => exact .left hc ih
  | right hc _ ih => exact .right hc ih
  | both ht _ ih => exact .both ht ih

/-- Tasks that correspond one by one. -/
theorem tasks {tasks tasks' : List Task}
    (h : List.Forall₂ (Task.Mirrors names q q') tasks tasks') :
    MirroredCalls names q q' (tasks.map .task) (tasks'.map .task) := by
  induction h with
  | nil => exact .nil
  | cons ht _ ih => exact .both ht ih

/-- Calls that spare the query. -/
theorem bare (habove : ∀ c ∈ above, c.Spares q) (habove' : ∀ c ∈ above', c.Spares q') :
    MirroredCalls names q q' above above' := by
  have hright : MirroredCalls names q q' [] above' := by
    have hnil : MirroredCalls names q q' [] [] := .nil
    have hleft := hnil.symm.appendLeft habove'
    rw [List.append_nil] at hleft
    exact hleft.symm
  have hboth := hright.appendLeft habove
  rwa [List.append_nil] at hboth

/-- The query takes part in the calls of both sessions, or of neither. -/
theorem any_queries (h : MirroredCalls names q q' calls calls') :
    (calls'.any fun c => c.queries.contains q') = calls.any fun c => c.queries.contains q := by
  induction h with
  | nil => rfl
  | left hc _ ih => rw [List.any_cons, hc.contains_queries, Bool.false_or, ih]
  | right hc _ ih => rw [List.any_cons, hc.contains_queries, Bool.false_or, ih]
  | both ht _ ih =>
    rw [List.any_cons, List.any_cons, ih]
    exact congrArg (· || _) ht.contains_queries

/-- No action is to come. -/
theorem action? (h : MirroredCalls names q q' calls calls') : ∀ c ∈ calls, c.action? = none := by
  induction h with
  | nil => exact List.forall_mem_nil _
  | left hc _ ih => exact List.forall_mem_cons.mpr ⟨hc.action?, ih⟩
  | right _ _ ih => exact ih
  | both _ _ ih => exact List.forall_mem_cons.mpr ⟨rfl, ih⟩

end MirroredCalls

namespace Session

/-- The session `t` is to the query `q'` what the session `s` is to the query `q`. -/
structure Mirrors (names : Translation) (q q' : QueryId) (s t : Session) : Prop where
  world : World.Mirrors names q q' s.world t.world
  calls : MirroredCalls names q q' s.calls t.calls
  letters : List.Forall₂ (Letter.Mirrors names) (lettersOf q s.received) (lettersOf q' t.received)
  /-- The query is held under the same names. -/
  held : ∀ name, t.query? name = some q' ↔ s.query? name = some q
  sorted : Keyed.Sorted Prod.fst s.held
  sorted' : Keyed.Sorted Prod.fst t.held
  /-- Buses are held under the same names. -/
  buses : ∀ name, (t.bus? name).isSome = (s.bus? name).isSome

variable {s t : Session} {c c' : Call} {m m' : Move} {after after' : List Call}

/-- What is held is held under some name. -/
theorem any_held (hsorted : Keyed.Sorted Prod.fst s.held) (q : QueryId) :
    (s.held.any fun h => h.2 == q) = true ↔ ∃ name, s.query? name = some q := by
  rw [List.any_eq_true]
  constructor
  · rintro ⟨⟨name, p⟩, hmem, hp⟩
    refine ⟨name, ?_⟩
    rw [query?, (Keyed.find?_eq_some_iff_of_sorted hsorted).mpr ⟨hmem, rfl⟩]
    exact congrArg some (beq_iff_eq.mp hp)
  · rintro ⟨name, hq⟩
    obtain ⟨h, hfound, rfl⟩ := Option.map_eq_some_iff.mp hq
    exact ⟨h, Keyed.mem_of_find? hfound, beq_self_eq_true h.2⟩

theorem received_taking (s : Session) (m : Move) (after : List Call) :
    (s.taking m after).received = s.received ++ m.notes.flatMap Note.received := by
  rw [received, notes_taking, List.flatMap_append, received]

namespace Mirrors

theorem symm (h : s.Mirrors names q q' t) : t.Mirrors (flip names) q' q s where
  world := h.world.symm
  calls := h.calls.symm
  letters := List.Forall₂.flip (h.letters.imp fun _ _ hl => hl.symm)
  held name := (h.held name).symm
  sorted := h.sorted'
  sorted' := h.sorted
  buses name := (h.buses name).symm

theorem mono (h : s.Mirrors names q q' t) (hnames : ∀ {id id'}, names id id' → names' id id') :
    s.Mirrors names' q q' t where
  __ := h
  world := h.world.mono hnames
  calls := h.calls.mono hnames
  letters := h.letters.imp fun _ _ hl => ⟨hnames hl.1, hl.2⟩

/-- Other calls are in progress, and lines have been written that are no notes. -/
theorem withCalls (h : s.Mirrors names q q' t) (hcalls : MirroredCalls names q q' calls calls')
    {journal journal' : List Line}
    (hjournal : journal.filterMap Line.note? = s.journal.filterMap Line.note?)
    (hjournal' : journal'.filterMap Line.note? = t.journal.filterMap Line.note?) :
    Mirrors names q q' { s with calls := calls, journal := journal }
      { t with calls := calls', journal := journal' } where
  __ := h
  calls := hcalls
  letters := by
    have hreceived : ∀ {s : Session} {calls journal},
        journal.filterMap Line.note? = s.journal.filterMap Line.note? →
        received { s with calls := calls, journal := journal } = s.received := by
      intro s calls journal hjournal
      rw [received, notes, hjournal, received, notes]
    rw [hreceived hjournal, hreceived hjournal']
    exact h.letters

/-- The query is held or taking part in a call in both sessions, or in neither. -/
theorem usesQuery (h : s.Mirrors names q q' t) : t.usesQuery q' = s.usesQuery q := by
  have hheld : (t.held.any fun x => x.2 == q') = s.held.any fun x => x.2 == q := by
    rw [Bool.eq_iff_iff, any_held h.sorted', any_held h.sorted]
    exact exists_congr h.held
  rw [Session.usesQuery, Session.usesQuery, hheld, h.calls.any_queries]

/-! ### Moves and letting go -/

/-- **A move in one session** that spares the query. -/
theorem takingLeft (h : s.Mirrors names q q' t) (hm : s.world.Spares q m)
    (hafter : ∀ c ∈ after, c.Spares q) : (s.taking m after).Mirrors names q q' t where
  __ := h
  world := h.world.left hm.world
  calls := by
    refine h.calls.appendLeft ?_
    intro c hc
    rcases List.mem_append.mp hc with hc | hc
    · obtain ⟨task, htask, rfl⟩ := List.mem_map.mp hc
      exact hm.tasks task htask
    · exact hafter c hc
  letters := by
    rw [received_taking, lettersOf_append, hm.letters, List.append_nil]
    exact h.letters

/-- **A move in both sessions.** -/
theorem taking (h : s.Mirrors names q q' t) (hm : Move.Mirrors names q q' m m')
    (hafter : ∀ c ∈ after, c.Spares q) (hafter' : ∀ c ∈ after', c.Spares q') :
    (s.taking m after).Mirrors names q q' (t.taking m' after') where
  __ := h
  world := hm.world
  calls := h.calls.append ((MirroredCalls.bare hafter hafter').append (.tasks hm.tasks))
  letters := by
    rw [received_taking, received_taking, lettersOf_append, lettersOf_append]
    exact List.rel_append h.letters hm.letters

/-- Both sessions let go of what is not in use. -/
theorem sweep (h : s.Mirrors names q q' t) : s.sweep.Mirrors names q q' t.sweep where
  __ := h
  world := h.world.release h.usesQuery _ _

/-- One session lets go of what is not in use.  Where the query is alive it is in use in the other
session, so it is in use here as well. -/
theorem sweepLeft (h : s.Mirrors names q q' t) (ht : t.Sound) : s.sweep.Mirrors names q q' t where
  __ := h
  world := by
    refine h.world.left (World.leaves_release ?_ _)
    intro query hq halive
    obtain ⟨query', hq', hm⟩ := h.world.exists hq
    rw [← h.usesQuery]
    exact ht.used hq' (hm.alive.trans halive)

/-! ### Steps -/

/-- One session goes on with a call that spares the query. -/
theorem stepLeft (h : s.Mirrors names q q' t) (hs : s.Plain) (ht : t.Plain)
    (hcalls : s.calls = c :: calls) (hc : c.Spares q)
    (hrest : MirroredCalls names q q' calls t.calls) : s.step.Mirrors names q q' t := by
  obtain ⟨m, after, journal, hstep, hdoes, hafter, hjournal⟩ :=
    hs.toUnattended.step hcalls hc.action?
  have hm : s.world.Spares q m := by
    cases hdoes with
    | task task => exact World.spares_advance hs.sound.accounts hc
    | action => cases hc.action?
    | idle => exact World.spares_still (.refl q s.world)
    | read => exact ⟨.refl q s.world, List.forall_mem_nil _, rfl⟩
  rw [hstep]
  refine sweepLeft (takingLeft (h.withCalls hrest hjournal rfl) hm ?_) ht.sound
  exact fun d hd => Call.spares_of_bare (hafter d hd).1 (hafter d hd).2

/-- One session goes on with a task that turns to others first. -/
theorem skipLeft (h : s.Mirrors names q q' t) (hs : s.Plain) (ht : t.Plain) {task task' u : Task}
    (hcalls : s.calls = .task task :: calls) (hskip : task.skip? q = some u)
    (htasks : u.Mirrors names q q' task') (hcalls' : t.calls = .task task' :: calls')
    (hrest : MirroredCalls names q q' calls calls') : s.step.Mirrors names q q' t := by
  obtain ⟨m, hm, hadvance⟩ := World.spares_of_skip? hs.sound.accounts hskip
  have hstep : s.step = (Session.taking { s with calls := .task u :: calls } m []).sweep := by
    rw [hs.step_task hcalls, hadvance, Session.taking, Session.taking, Move.andThen,
      List.map_append, List.append_nil, List.append_nil, List.append_assoc]
    rfl
  rw [hstep]
  have hpaired : MirroredCalls names q q' (.task u :: calls) t.calls := by
    rw [hcalls']
    exact .both htasks hrest
  exact sweepLeft (takingLeft (h.withCalls hpaired rfl rfl) hm (List.forall_mem_nil _)) ht.sound

/-- Both sessions go on with a task that turns to the query. -/
theorem stepBoth (h : s.Mirrors names q q' t) (hs : s.Plain) (ht : t.Plain) {task task' : Task}
    (hcalls : s.calls = .task task :: calls) (hcalls' : t.calls = .task task' :: calls')
    (htasks : task.Mirrors names q q' task') (hskip : task.skip? q = none)
    (hskip' : task'.skip? q' = none) (hrest : MirroredCalls names q q' calls calls') :
    s.step.Mirrors names q q' t.step := by
  rw [hs.step_task hcalls, ht.step_task hcalls']
  exact sweep (taking (h.withCalls hrest rfl rfl) (h.world.advance htasks hskip hskip')
    (List.forall_mem_nil _) (List.forall_mem_nil _))

/-! ### Rest -/

/-- **Two sessions that mirror each other** do so when they are at rest. -/
theorem settle (h : s.Mirrors names q q' t) (hs : s.Plain) (ht : t.Plain) :
    s.settle.Mirrors names q q' t.settle := by
  fun_induction Session.settle s generalizing t with
  | case1 s hrest =>
    -- only calls that spare the query are left in the second session
    fun_induction Session.settle t with
    | case1 t hrest' => exact h
    | case2 t hbusy ih =>
      have hcalls := h.calls
      rw [hrest] at hcalls
      obtain ⟨c, calls, heq⟩ := List.exists_cons_of_ne_nil hbusy
      rw [heq] at hcalls
      cases hcalls with
      | right hc hrest' =>
        rw [← hrest] at hrest'
        exact ih (h.symm.stepLeft ht hs heq hc hrest'.symm).symm (ht.step heq hc.action?)
  | case2 s hbusy ih =>
    -- the second session goes on until it is the turn of the first one
    fun_induction Session.settle t with
    | case1 t hrest' =>
      have hcalls := h.calls
      rw [hrest'] at hcalls
      obtain ⟨c, calls, heq⟩ := List.exists_cons_of_ne_nil hbusy
      rw [heq] at hcalls
      cases hcalls with
      | left hc hrest =>
        -- the first session has a call left, and it spares the query
        rw [← hrest'] at hrest
        have hnext := ih (h.stepLeft hs ht heq hc hrest) (hs.step heq hc.action?) ht
        rwa [Session.settle.eq_def t, dif_pos hrest'] at hnext
    | case2 t hbusy' ih' =>
      have hsettle : t.settle = t.step.settle := by
        rw [Session.settle.eq_def t, dif_neg hbusy']
      obtain ⟨c, calls, heq⟩ := List.exists_cons_of_ne_nil hbusy
      obtain ⟨c', calls', heq'⟩ := List.exists_cons_of_ne_nil hbusy'
      have hcalls := h.calls
      rw [heq, heq'] at hcalls
      cases hcalls with
      | left hc hrest =>
        rw [← heq'] at hrest
        rw [← hsettle]
        exact ih (h.stepLeft hs ht heq hc hrest) (hs.step heq hc.action?) ht
      | right hc hrest =>
        rw [← heq] at hrest
        exact ih' (h.symm.stepLeft ht hs heq' hc hrest.symm).symm (ht.step heq' hc.action?)
      | @both task task' _ _ htasks hrest =>
        cases hskip : task.skip? q with
        | some u =>
          have hu : u.Mirrors names q q' task' := htasks.skip hskip
          rw [← hsettle]
          exact ih (h.skipLeft hs ht heq hskip hu heq' hrest) (hs.step heq rfl) ht
        | none =>
          cases hskip' : task'.skip? q' with
          | some u' =>
            have hu' := htasks.symm.skip hskip'
            exact ih' (h.symm.skipLeft ht hs heq' hskip' hu' heq hrest.symm).symm
              (ht.step heq' rfl)
          | none =>
            -- it is the turn of the query in both
            exact ih (h.stepBoth hs ht heq heq' htasks hskip hskip' hrest) (hs.step heq rfl)
              (ht.step heq' rfl)

end Mirrors

end Session

end RoomSearch
