import RoomSearch.Proofs.FirstSearch

/-!
# Tasks on top of other calls

A task may be begun at any moment, also while other calls are in progress.  If nobody interferes, it
goes on until it is over, and then the session is where it was, but for what the task has done to
the world and for its notes.  Nothing else is let go meanwhile: what was in use before is in use
still, and what is in use does not depend on the task.

## Main definitions

* `World.OnlyFor` — two worlds in which only one query, or its subscriptions, may be different.
* `Session.during` — a session with tasks on top of its calls.
* `Session.Calm` — nobody interferes.
* `Session.Amid` — a stretch of steps throughout which more than some calls are in progress.

## Main results

* `Session.Calm.step_during` — **a step** is the next move of the task on top, and no more.
* `Session.Sound.sweep_step` — what can be let go is let go by a step.
* `Session.Calm.amid_silent` — a move that changes nothing but the epoch of a query leaves the rest
  of the session exactly as it is.
-/

namespace RoomSearch

namespace World

variable {w w' w'' : World} {q : QueryId} {query : Query}

/-! ### Buses that are closed -/

/-- Closing again what is not in use closes nothing more. -/
theorem releaseBuses_releaseBuses (w : World) (inUse : BusId → Bool) :
    (w.releaseBuses inUse).releaseBuses inUse = w.releaseBuses inUse := by
  unfold releaseBuses
  congr 1
  refine List.filter_congr fun b hb => ?_
  show ((List.filter _ _).contains b || !(inUse b || w.busIsSubscribed b)) = _
  cases hclosed : w.closedBuses.contains b || !(inUse b || w.busIsSubscribed b) with
  | true =>
    rw [Bool.or_eq_true, List.contains_iff_mem]
    exact .inl (List.mem_filter.mpr ⟨hb, hclosed⟩)
  | false =>
    have hopen := (Bool.or_eq_false_iff.mp hclosed).2
    rw [hopen, Bool.or_false]
    refine Bool.eq_false_iff.mpr fun hmem => ?_
    have := (List.mem_filter.mp (List.contains_iff_mem.mp hmem)).2
    rw [hclosed] at this
    cases this

/-- Whether there is something to close depends on the buses, on what is in use and on the
subscribers alone. -/
theorem releaseBuses_eq_self_congr {inUse inUse' : BusId → Bool} (h : w.releaseBuses inUse = w)
    (hbuses : w'.buses = w.buses) (hclosed : w'.closedBuses = w.closedBuses)
    (hsubscribed : ∀ b, w'.busIsSubscribed b = w.busIsSubscribed b)
    (huse : ∀ b, inUse' b = inUse b) : w'.releaseBuses inUse' = w' := by
  have hfilter : (w.releaseBuses inUse).closedBuses = w.closedBuses :=
    congrArg World.closedBuses h
  have hfilter' : (w'.releaseBuses inUse').closedBuses = w'.closedBuses := by
    rw [hclosed, ← hfilter]
    unfold releaseBuses
    simp only [hbuses, hclosed, hsubscribed, huse]
  show { w' with closedBuses := (w'.releaseBuses inUse').closedBuses } = w'
  rw [hfilter']

/-! ### One query alone -/

/-- Only one query may be different in the other world, with the subscriptions it has; it has the
same subscribers, and the directory is the same. -/
structure OnlyFor (q : QueryId) (w w' : World) : Prop where
  others : ∀ {p}, p ≠ q → w'.query? p = w.query? p
  own : ∀ {query'}, w'.query? q = some query' → ∃ query, w.query? q = some query ∧
    query'.alive = query.alive ∧ query'.subscribers = query.subscribers
  directory : w'.directory = w.directory

namespace OnlyFor

theorem of_eq (hqueries : w'.queries = w.queries) (hdirectory : w'.directory = w.directory) :
    OnlyFor q w w' where
  others _ := query?_of_queries_eq hqueries _
  own h := ⟨_, (query?_of_queries_eq hqueries q).symm.trans h, rfl, rfl⟩
  directory := hdirectory

theorem refl (q : QueryId) (w : World) : OnlyFor q w w := of_eq rfl rfl

/-- Buses are no concern of a query. -/
theorem releaseBuses (h : OnlyFor q w w') (inUse : BusId → Bool) :
    OnlyFor q w (w'.releaseBuses inUse) := ⟨h.others, h.own, h.directory⟩

theorem trans (h : OnlyFor q w w') (h' : OnlyFor q w' w'') : OnlyFor q w w'' where
  others hp := (h'.others hp).trans (h.others hp)
  own hq := by
    obtain ⟨query', hq', halive', hsubscribers'⟩ := h'.own hq
    obtain ⟨query, hq, halive, hsubscribers⟩ := h.own hq'
    exact ⟨query, hq, halive'.trans halive, hsubscribers'.trans hsubscribers⟩
  directory := h'.directory.trans h.directory

theorem modifyQuery (w : World) (q : QueryId) {f : Query → Query}
    (halive : ∀ query : Query, (f query).alive = query.alive)
    (hsubscribers : ∀ query : Query, (f query).subscribers = query.subscribers) :
    OnlyFor q w (w.modifyQuery q f) where
  others hp := query?_modifyQuery_of_ne w f (Ne.symm hp)
  own h := by
    rw [query?_modifyQuery, if_pos rfl] at h
    obtain ⟨query, hq, rfl⟩ := Option.map_eq_some_iff.mp h
    exact ⟨query, hq, halive query, hsubscribers query⟩
  directory := rfl

/-- A query that is alive was alive before. -/
theorem exists_alive (h : OnlyFor q w w') {p : QueryId} {query' : Query}
    (hp : w'.query? p = some query') (halive : query'.alive = true) :
    ∃ query, w.query? p = some query ∧ query.alive = true := by
  by_cases hpq : p = q
  · subst hpq
    obtain ⟨query, hq, hsame, -⟩ := h.own hp
    exact ⟨query, hq, hsame.symm.trans halive⟩
  · exact ⟨query', (h.others hpq).symm.trans hp, halive⟩

end OnlyFor

/-! ### Epochs -/

/-- Changing a query to what it is already changes nothing. -/
theorem modifyQuery_eq_self {f : Query → Query} (h : ∀ query, w.query? q = some query →
    f query = query) : w.modifyQuery q f = w := by
  have hqueries : w.queries.modify q.index f = w.queries := by
    refine List.ext_getElem? fun i => ?_
    rw [List.getElem?_modify]
    split
    · next hi =>
      subst hi
      cases hq : w.queries[q.index]? with
      | none => rfl
      | some query => exact congrArg some (h query hq)
    · simp
  rw [modifyQuery, hqueries]

/-- The world with a query in another epoch. -/
def inEpoch (w : World) (q : QueryId) (epoch : Nat) : World :=
  w.modifyQuery q fun query => { query with epoch }

theorem inEpoch_epoch (w : World) (q : QueryId) : w.inEpoch q (w.epoch q) = w := by
  refine modifyQuery_eq_self fun query hq => ?_
  rw [epoch, hq]
  rfl

theorem modifyQuery_modifyQuery (w : World) (q : QueryId) (f g : Query → Query) :
    (w.modifyQuery q f).modifyQuery q g = w.modifyQuery q (g ∘ f) := by
  simp only [modifyQuery, List.modify_modify_eq]

theorem advanceEpoch_inEpoch (w : World) (q : QueryId) (e : Nat) :
    (w.inEpoch q e).modifyQuery q Query.advanceEpoch = w.inEpoch q (e + 1) :=
  modifyQuery_modifyQuery ..

theorem query?_inEpoch {e : Nat} (h : w.query? q = some query) :
    (w.inEpoch q e).query? q = some { query with epoch := e } := query?_modifyQuery_self _ h

theorem onlyFor_inEpoch (w : World) (q : QueryId) (e : Nat) : OnlyFor q w (w.inEpoch q e) :=
  .modifyQuery w q (fun _ => rfl) fun _ => rfl

theorem busIsSubscribed_inEpoch (w : World) (q : QueryId) (e : Nat) (b : BusId) :
    (w.inEpoch q e).busIsSubscribed b = w.busIsSubscribed b := by
  have hmap : (w.inEpoch q e).queries.map Query.subscribers = w.queries.map Query.subscribers := by
    refine List.ext_getElem? fun i => ?_
    simp only [inEpoch, modifyQuery, List.getElem?_map, List.getElem?_modify]
    cases w.queries[i]? with
    | none => rfl
    | some query => by_cases hi : q.index = i <;> simp [hi]
  have hany : ∀ w : World, w.busIsSubscribed b =
      (w.queries.map Query.subscribers).any fun subscribers =>
        subscribers.any fun s => s.2 == .bus b := by
    intro w
    rw [busIsSubscribed, List.any_map]
    rfl
  rw [hany, hany, hmap]

end World

namespace Session

variable {permitted : Session → Action → Prop} {s t x y : Session} {q : QueryId} {query : Query}
  {w : World} {task : Task} {tasks : List Task} {notes : List Note} {base : List Call}
  {audience : String → Prop}

/-! ### What can be let go -/

/-- Where all that is alive is in use, only buses can be let go. -/
theorem sweep_of_used (h : ∀ {p query}, s.world.query? p = some query → query.alive = true →
    s.usesQuery p = true) :
    s.sweep = { s with world := s.world.releaseBuses s.usesBus } := by
  rw [sweep, World.release, World.releaseQueries_eq_self h]

theorem Sound.sweep_step (h : s.Sound) (hcalls : s.calls ≠ []) : s.step.sweep = s.step := by
  obtain ⟨c, calls, hcalls⟩ := List.exists_cons_of_ne_nil hcalls
  obtain ⟨m, first, later, hgoes⟩ := goes_step hcalls
  have hsound := hgoes.sound h
  rw [sweep_of_used hsound.used]
  have hworld : s.step.world.releaseBuses s.step.usesBus = s.step.world := by
    rw [hgoes.world]
    exact World.releaseBuses_releaseBuses ..
  rw [hworld]

/-- Where nothing can be let go, there is no bus to be closed. -/
theorem Sound.releaseBuses_of_swept (h : s.Sound) (hswept : s.sweep = s) :
    s.world.releaseBuses s.usesBus = s.world := by
  rw [sweep_of_used h.used] at hswept
  exact congrArg Session.world hswept

/-! ### Tasks on top -/

/-- A session with tasks on top of its calls, in another world, and with more notes. -/
def during (s : Session) (w : World) (tasks : List Task) (notes : List Note) : Session :=
  { s with
    world := w
    calls := tasks.map Call.task ++ s.calls
    journal := (notes.map Line.noted).reverse ++ s.journal }

theorem notes_during (s : Session) (w : World) (tasks : List Task) (added : List Note) :
    (s.during w tasks added).notes = s.notes ++ added := by
  have hnoted : (added.map Line.noted).reverse.filterMap Line.note? = added.reverse := by
    rw [← List.map_reverse, List.filterMap_map]
    exact List.filterMap_some
  show (((added.map Line.noted).reverse ++ s.journal).filterMap Line.note?).reverse = _
  rw [List.filterMap_append, hnoted, List.reverse_append, List.reverse_reverse, Session.notes]

/-- Nothing is in store for the next reading, and these listeners do not call back. -/
structure Calm (s : Session) (audience : String → Prop) : Prop where
  sound : s.Sound
  unhooked : s.hook = none
  deaf : ∀ l ∈ s.listeners, audience l.name → l.reactions = []

/-- What was in use is in use with tasks on top. -/
theorem usesQuery_during (w : World) (tasks : List Task) (notes : List Note) {p : QueryId}
    (h : s.usesQuery p = true) : (s.during w tasks notes).usesQuery p = true := by
  rw [usesQuery, Bool.or_eq_true] at h ⊢
  refine h.imp id fun hcalls => ?_
  show ((tasks.map Call.task ++ s.calls).any _) = true
  rw [List.any_append, hcalls, Bool.or_true]

/-- The move of the task on top is absorbed, and the outside does not answer. -/
theorem proceed_during (h : s.Calm audience)
    (hidle : ∀ c, (w.advance task).callback = some c → c.IsIdle audience) :
    ({ s.during w (task :: tasks) notes with
        calls := tasks.map Call.task ++ s.calls }).proceed (.task task) =
      s.during (w.advance task).world ((w.advance task).tasks ++ tasks)
        (notes ++ (w.advance task).notes) := by
  have habsorbed : s.during (w.advance task).world ((w.advance task).tasks ++ tasks)
      (notes ++ (w.advance task).notes) = { s with
        world := (w.advance task).world
        calls := (w.advance task).tasks.map Call.task ++ (tasks.map Call.task ++ s.calls)
        journal := ((w.advance task).notes.map Line.noted).reverse ++
          ((notes.map Line.noted).reverse ++ s.journal) } := by
    simp only [during, List.map_append, List.reverse_append, List.append_assoc]
  rw [habsorbed]
  show absorb _ (w.advance task) [] = _
  rw [absorb, List.append_nil]
  cases hcallback : (w.advance task).callback with
  | none => rfl
  | some callback =>
    have hc := hidle callback hcallback
    cases callback with
    | read =>
      dsimp only [during]
      rw [respond, h.unhooked]
    | listener name event =>
      dsimp only [during]
      rw [respond, reactOf_eq_none fun l hl hname => h.deaf l hl (hname ▸ hc)]
    | tap i notice => cases hc

/-- **A step** is the next move of the task on top, and only buses may be let go. -/
theorem Calm.step_during (h : s.Calm audience)
    (hidle : ∀ c, (w.advance task).callback = some c → c.IsIdle audience)
    (hw : World.OnlyFor q s.world (w.advance task).world) :
    (s.during w (task :: tasks) notes).step =
      s.during ((w.advance task).world.releaseBuses
          (s.during (w.advance task).world ((w.advance task).tasks ++ tasks)
            (notes ++ (w.advance task).notes)).usesBus)
        ((w.advance task).tasks ++ tasks) (notes ++ (w.advance task).notes) := by
  have hstep : (s.during w (task :: tasks) notes).step =
      (({ s.during w (task :: tasks) notes with
        calls := tasks.map Call.task ++ s.calls }).proceed (.task task)).sweep := rfl
  rw [hstep, proceed_during h hidle, sweep_of_used]
  · rfl
  · intro p query' hp halive
    obtain ⟨old, hold, halive'⟩ := hw.exists_alive hp halive
    exact usesQuery_during _ _ _ (h.sound.used hold halive')

/-! ### Stretches of steps -/

/-- A stretch of steps throughout which more calls are in progress than these. -/
def Amid (base : List Call) : Session → Session → Prop :=
  Relation.ReflTransGen fun x y => y = x.step ∧ base.length < x.calls.length

theorem Amid.trans (h : Amid base x y) (h' : Amid base y t) : Amid base x t :=
  Relation.ReflTransGen.trans h h'

/-- Such a stretch is so many steps. -/
theorem Amid.exists_steps (h : Amid base x y) : ∃ n, y = x.steps n := by
  induction h with
  | refl => exact ⟨0, rfl⟩
  | tail _ hnext ih =>
    obtain ⟨n, rfl⟩ := ih
    exact ⟨n + 1, hnext.1.trans (steps_succ x n).symm⟩

/-- There is one way to come back to the calls that were in progress. -/
theorem Amid.eq_of_calls (h : Amid base x y) (h' : Amid base x t) (hy : y.calls = base)
    (ht : t.calls = base) : y = t := by
  induction h using Relation.ReflTransGen.head_induction_on with
  | refl =>
    rcases Relation.ReflTransGen.cases_head h' with heq | ⟨z, ⟨-, hmore⟩, -⟩
    · exact heq
    · rw [hy] at hmore
      exact absurd hmore (Nat.lt_irrefl _)
  | @head x z hstep _ ih =>
    rcases Relation.ReflTransGen.cases_head h' with rfl | ⟨z', hstep', hamid⟩
    · have hmore := hstep.2
      rw [ht] at hmore
      exact absurd hmore (Nat.lt_irrefl _)
    · refine ih ?_
      rwa [hstep.1, ← hstep'.1]

/-- With a task on top there is one more step to be made. -/
theorem amid_step (s : Session) (w : World) (task : Task) (tasks : List Task) (notes : List Note) :
    Amid s.calls (s.during w (task :: tasks) notes) (s.during w (task :: tasks) notes).step := by
  refine .single ⟨rfl, ?_⟩
  show s.calls.length < ((task :: tasks).map Call.task ++ s.calls).length
  rw [List.length_append, List.length_map, List.length_cons]
  omega

/-! ### Moves that change nothing -/

/-- Tasks that keep no subscriber in use make no difference to buses. -/
theorem usesBus_during (w : World) (notes : List Note) (h : ∀ t ∈ tasks, t.subscribers = [])
    (b : BusId) : (s.during w tasks notes).usesBus b = s.usesBus b := by
  have hnone : ((tasks.map Call.task).any fun call => call.subscribers.contains (.bus b)) =
      false := by
    rw [List.any_map, List.any_eq_false]
    intro t ht
    show ¬ (t.subscribers.contains (.bus b)) = true
    rw [h t ht]
    simp
  show ((s.heldBuses.any _) || (tasks.map Call.task ++ s.calls).any _) = _
  rw [List.any_append, hnone, Bool.false_or]
  rfl

/-- **A move that changes nothing** but the epoch of a query leaves the rest of the session exactly
as it is. -/
theorem Calm.amid_silent (h : s.Calm audience) (hswept : s.sweep = s) (tasks : List Task)
    (notes : List Note) {e e' : Nat} {m : Move}
    (hmove : (s.world.inEpoch q e).advance task = m) (hworld : m.world = s.world.inEpoch q e')
    (hcallback : ∀ c, m.callback = some c → c = .read)
    (htasks : ∀ t ∈ m.tasks ++ tasks, t.subscribers = []) :
    Amid s.calls (s.during (s.world.inEpoch q e) (task :: tasks) notes)
      (s.during (s.world.inEpoch q e') (m.tasks ++ tasks) (notes ++ m.notes)) := by
  have hidle : ∀ c, m.callback = some c → c.IsIdle audience := by
    intro c hc
    rw [hcallback c hc]
    trivial
  have honly : World.OnlyFor q s.world m.world := by
    rw [hworld]
    exact World.onlyFor_inEpoch s.world q e'
  subst hmove
  have hamid := amid_step s (s.world.inEpoch q e) task tasks notes
  rw [h.step_during hidle honly, hworld] at hamid
  -- nothing is let go that was not let go before
  have hkept : ∀ inUse : BusId → Bool, (∀ b, inUse b = s.usesBus b) →
      (s.world.inEpoch q e').releaseBuses inUse = s.world.inEpoch q e' := fun _ huse =>
    World.releaseBuses_eq_self_congr (h.sound.releaseBuses_of_swept hswept) rfl rfl
      (World.busIsSubscribed_inEpoch s.world q e') huse
  rwa [hkept _ (usesBus_during _ _ htasks)] at hamid

end Session

end RoomSearch
