import RoomSearch.Session.Measure
import RoomSearch.World.Epoch

/-!
# Sessions come to rest

## Main results

* `World.advance_decreases` — a move of a task leaves less to do, callbacks apart.
* `Session.scriptWeight_perform_lt` — performing an action uses up what it holds.
* `Session.measure_step_lt` — **each step makes the measure smaller**.
-/

namespace RoomSearch

/-! ### Moves of tasks -/

/-- How many watchers, providers or queries tasks have before them. -/
def spreadOf (tasks : List Task) : Nat := total Task.spread tasks

/-- How much reading tasks have before them. -/
def readingOf (w : World) (tasks : List Task) : Nat := total (Task.reading w) tasks

/-- How many deliveries tasks have before them. -/
def remainderOf (tasks : List Task) : Nat := total Task.remainder tasks

namespace World

theorem spreadOf_commit (w : World) (q : QueryId) (news : List News) :
    spreadOf (w.commit q news).tasks = 0 := by
  cases news <;> rfl

theorem readingOf_commit (w w' : World) (q : QueryId) (news : List News) :
    readingOf w' (w.commit q news).tasks = 0 := by
  cases news <;> rfl

theorem spreadOf_change (w : World) (q : QueryId) (outcome : List News × ResultSet) :
    spreadOf (w.change q outcome).tasks = 0 := spreadOf_commit ..

theorem readingOf_change (w w' : World) (q : QueryId) (outcome : List News × ResultSet) :
    readingOf w' (w.change q outcome).tasks = 0 := readingOf_commit ..

theorem spreadOf_moveTo (w : World) (q : QueryId) (status : Status) :
    spreadOf (w.moveTo q status).tasks = 0 := spreadOf_commit ..

theorem spreadOf_cancel (w : World) (q : QueryId) : spreadOf (w.cancel q).tasks = 0 := by
  unfold cancel
  split
  · rfl
  · split
    · rfl
    · exact spreadOf_moveTo ..

/-- What a query does when something is announced reaches nobody further. -/
theorem spreadOf_follow (w : World) (q : QueryId) (notice : Notice) :
    spreadOf (w.follow q notice).tasks = 0 := by
  unfold follow
  split
  · rfl
  · rename_i query _
    split
    · rfl
    · cases notice with
      | presence n =>
        simp only [followPresence]
        split
        · rfl
        · split
          · -- an entry that is known is changed at once
            exact spreadOf_change ..
          · -- a room that is joined is looked up first
            split <;> rfl
      | rooms n =>
        simp only [followRooms]
        split
        · -- a new room does not match
          rfl
        · split
          · rfl
          · -- a change of results has to be made known, whichever it is
            split <;> exact spreadOf_change ..
      | providers n =>
        simp only [followProviders]
        split
        · -- a provider that came is going to be read
          rfl
        · split
          · rfl
          · -- a provider that went takes its entries along
            exact spreadOf_change ..
      | registration n =>
        simp only [followRegistry]
        split
        · split <;> rfl
        · rfl

/-- What is left to do after a move, compared with what the task had before it. -/
def Decreases (w : World) (t : Task) (m : Move) : Prop :=
  spreadOf m.tasks < t.spread ∨
    (spreadOf m.tasks = t.spread ∧ SameEpochs w m.world ∧
      (readingOf m.world m.tasks < t.reading w ∨
        (readingOf m.world m.tasks = t.reading w ∧ remainderOf m.tasks < t.remainder)))

/-- A move after which nothing is left to do, and that began no epoch. -/
theorem decreases_of_still {w : World} {t : Task} (ht : t.spread = 0)
    (hr : 0 < t.reading w ∨ t.reading w = 0 ∧ 0 < t.remainder) : Decreases w t (.still w) := by
  refine .inr ⟨ht.symm, .refl w, ?_⟩
  cases hr with
  | inl hr => exact .inl hr
  | inr hr => exact .inr ⟨hr.1.symm, hr.2⟩

/-- A change of results after which no reading is left. -/
theorem decreases_of_change {w : World} {t : Task} (ht : t.spread = 0) (hr : 0 < t.reading w)
    (q : QueryId) (outcome : List News × ResultSet) : Decreases w t (w.change q outcome) := by
  refine .inr ⟨?_, sameEpochs_change w q outcome, .inl ?_⟩
  · rw [spreadOf_change, ht]
  · rwa [readingOf_change]

theorem reading_merge_pos (w : World) (q : QueryId) (p : ProviderId) (epoch : Nat)
    (rooms : List Room) : 0 < (Task.merge q p epoch rooms).reading w := by
  simp only [Task.reading]
  split <;> omega

/-- **A move of a task leaves less to do**, callbacks apart. -/
theorem advance_decreases (w : World) (t : Task) : Decreases w t (w.advance t) := by
  cases t with
  | deliver notice rest =>
    -- one watcher less, and what it does itself reaches nobody further
    left
    cases rest with
    | nil => exact Nat.one_pos
    | cons x rest =>
      cases x with
      | query q =>
        have h := spreadOf_follow w q notice
        simp only [spreadOf] at h
        simp [advance, advanceDelivery, Move.andThen, spreadOf, h, Task.spread]
      | tap t => simp [advance, advanceDelivery, spreadOf, Task.spread]
  | withdraw s => exact .inr ⟨rfl, sameEpochs_of_queries_eq rfl, .inr ⟨rfl, Nat.one_pos⟩⟩
  | mergeJoined q notice autoJoin =>
    simp only [advance, advanceJoined]
    split
    · exact decreases_of_still rfl (.inl Nat.one_pos)
    · split
      · exact decreases_of_still rfl (.inl Nat.one_pos)
      · have hpos : 0 < (Task.mergeJoined q notice autoJoin).reading w := Nat.one_pos
        exact decreases_of_change rfl hpos ..
  | scan q provider =>
    simp only [advance, advanceScan]
    split
    · exact decreases_of_still rfl (.inl Nat.two_pos)
    · rename_i query hq
      split
      · exact decreases_of_still rfl (.inl Nat.two_pos)
      -- what has just been read belongs to the epoch the query is in
      · refine .inr ⟨rfl, .refl w, .inl ?_⟩
        simp [readingOf, Task.reading, epoch, hq]
  | merge q provider epoch rooms =>
    have hpos := reading_merge_pos w q provider epoch rooms
    simp only [advance, advanceMerge]
    split
    · exact decreases_of_still rfl (.inl hpos)
    · rename_i query hq
      split
      · exact decreases_of_still rfl (.inl hpos)
      · split
        -- the query has gone on to another epoch, so the rooms are read once more
        · rename_i hne
          refine .inr ⟨rfl, .refl w, .inl ?_⟩
          have : w.epoch q ≠ epoch := by simpa [World.epoch, hq] using hne
          simp [readingOf, Task.reading, this, Move.doing]
        · exact decreases_of_change rfl hpos ..
  | search q rest =>
    left
    cases rest with
    | nil =>
      simp only [advance, advanceSearch]
      -- at the end of a search only the status moves
      split
      · exact Nat.one_pos
      · split
        · rw [spreadOf_moveTo]; exact Nat.one_pos
        · exact Nat.one_pos
    | cons p rest =>
      simp only [advance, advanceSearch]
      split
      · exact Nat.succ_pos _
      · split
        · exact Nat.succ_pos _
        · simp [Move.doing, spreadOf, Task.spread]
  | notify q audience rest =>
    cases rest with
    | nil => exact .inr ⟨rfl, .refl w, .inr ⟨rfl, Nat.one_pos⟩⟩
    | cons d rest =>
      -- neither a listener nor a bus takes part in anything but the deliveries
      have hlt : remainderOf [Task.notify q audience rest] <
          (Task.notify q audience (d :: rest)).remainder := by
        simp [remainderOf, Task.remainder]
      simp only [advance, advanceNotification]
      split
      · exact .inr ⟨rfl, sameEpochs_of_queries_eq rfl, .inr ⟨rfl, hlt⟩⟩
      · exact .inr ⟨rfl, .refl w, .inr ⟨rfl, hlt⟩⟩
  | cancelEach rest =>
    left
    cases rest with
    | nil => exact Nat.one_pos
    | cons q rest =>
      have h := spreadOf_cancel w q
      simp only [spreadOf] at h
      simp [advance, Move.andThen, spreadOf, h, Task.spread]

end World

namespace Session

/-! ### Callbacks -/

/-- Using a reaction takes its actions, and one more, from what the reactions hold. -/
theorem reactionsWeight_react {news : News} {reactions later : List (Reaction Action)}
    {steps : List Action} (h : react news reactions = some (steps, later)) :
    reactionsWeight reactions = stepsWeight steps + 1 + reactionsWeight later := by
  induction reactions generalizing later with
  | nil => cases h
  | cons r rest ih =>
    obtain ⟨kind, address, uses, actions⟩ := r
    simp only [react] at h
    split at h
    -- this reaction applies, and applies once less from now on
    · rename_i happ
      cases h
      have huses : uses ≠ 0 := by
        simp only [Reaction.applies, Bool.and_eq_true, bne_iff_ne] at happ
        exact happ.1.1
      obtain ⟨n, rfl⟩ := Nat.exists_eq_succ_of_ne_zero huses
      simp only [reactionsWeight, Nat.succ_eq_add_one, Nat.add_sub_cancel, Nat.add_mul, Nat.one_mul]
      omega
    -- a later one applies
    · obtain ⟨⟨s, l⟩, hs, heq⟩ := Option.map_eq_some_iff.mp h
      cases heq
      have := ih hs
      simp only [reactionsWeight, this]
      omega

/-- Using a reaction of a listener takes its actions, and one more, from what listeners hold. -/
theorem total_reactOf {name : String} {news : News} {listeners later : List Listener}
    {steps : List Action} (h : reactOf name news listeners = some (steps, later)) :
    total Listener.weight listeners = stepsWeight steps + 1 + total Listener.weight later := by
  induction listeners generalizing later with
  | nil => cases h
  | cons l rest ih =>
    simp only [reactOf] at h
    split at h
    -- this is the listener that is told
    · obtain ⟨⟨s, r⟩, hs, heq⟩ := Option.map_eq_some_iff.mp h
      cases heq
      have := reactionsWeight_react hs
      simp only [total_cons, Listener.weight, this]
      omega
    · obtain ⟨⟨s, r⟩, hs, heq⟩ := Option.map_eq_some_iff.mp h
      cases heq
      have := ih hs
      simp only [total_cons, this]
      omega

/-- Performing the actions of an observer once takes them, and one more, from what it holds. -/
theorem total_set_tap {taps : List Tap} {i : Nat} {tap : Tap} (h : taps[i]? = some tap)
    (huses : tap.uses ≠ 0) :
    total Tap.weight taps = stepsWeight tap.steps + 1 +
      total Tap.weight (taps.set i { tap with uses := tap.uses - 1 }) := by
  induction taps generalizing i with
  | nil => simp at h
  | cons t rest ih =>
    cases i with
    | zero =>
      simp only [List.getElem?_cons_zero, Option.some.injEq] at h
      subst h
      obtain ⟨name, uses, steps⟩ := t
      obtain ⟨n, rfl⟩ := Nat.exists_eq_succ_of_ne_zero huses
      simp only [List.set_cons_zero, total_cons, Tap.weight, Nat.succ_eq_add_one,
        Nat.add_sub_cancel, Nat.add_mul, Nat.one_mul]
      omega
    | succ i =>
      have := ih (by simpa using h)
      simp only [List.set_cons_succ, total_cons, this]
      omega

/-- Answering a callback changes nothing, or uses up some of what the scripts hold. -/
theorem respond_eq_or_lt (s : Session) (c : Callback) :
    s.respond c = s ∨ (s.respond c).scriptWeight < s.scriptWeight := by
  cases c with
  | read =>
    cases hs : s.hook with
    -- nothing is in store
    | none => left; simp [respond, hs]
    | some steps =>
      right
      simp only [respond, hs, interrupt, scriptWeight, Option.elim, total_cons,
        Call.scriptWeight]
      omega
  | listener name event =>
    cases hr : reactOf name event.news s.listeners with
    -- nobody by this name reacts
    | none => left; simp [respond, hr]
    | some r =>
      obtain ⟨steps, later⟩ := r
      right
      have := total_reactOf hr
      simp only [respond, hr, interrupt, scriptWeight, total_cons,
        Call.scriptWeight, this]
      omega
  | tap t notice =>
    cases ht : s.taps[t.index]? with
    -- there is no such observer
    | none => left; simp [respond, ht]
    | some tap =>
      by_cases huses : tap.uses = 0
      · left; simp [respond, ht, huses]
      · -- an observer that acts has one turn less
        right
        have := total_set_tap ht huses
        simp only [respond, ht, huses, if_false, interrupt, scriptWeight, total_cons,
          Call.scriptWeight, this]
        omega

theorem scriptWeight_respond_le (s : Session) (c : Callback) :
    (s.respond c).scriptWeight ≤ s.scriptWeight := by
  rcases respond_eq_or_lt s c with h | h
  · exact Nat.le_of_eq (congrArg scriptWeight h)
  · exact Nat.le_of_lt h

/-! ### Moves of the world in a session -/

/-- The session after a move of the world, before the callback is answered. -/
def taking (s : Session) (m : Move) (after : List Call) : Session :=
  { s with
    world := m.world
    journal := (m.notes.map Line.noted).reverse ++ s.journal
    calls := m.tasks.map Call.task ++ after ++ s.calls }

theorem absorb_eq (s : Session) (m : Move) (after : List Call) :
    s.absorb m after = m.callback.elim (s.taking m after) (s.taking m after).respond := by
  unfold absorb taking
  cases m.callback <;> rfl

theorem total_scriptWeight_tasks (tasks : List Task) :
    total Call.scriptWeight (tasks.map Call.task) = 0 := by
  induction tasks with
  | nil => rfl
  | cons t rest ih => simpa [Call.scriptWeight] using ih

theorem scriptWeight_taking (s : Session) (m : Move) (after : List Call) :
    (s.taking m after).scriptWeight = s.scriptWeight + total Call.scriptWeight after := by
  simp only [taking, scriptWeight, total_append, total_scriptWeight_tasks]
  omega

theorem scriptWeight_absorb_le (s : Session) (m : Move) (after : List Call) :
    (s.absorb m after).scriptWeight ≤ s.scriptWeight + total Call.scriptWeight after := by
  rw [absorb_eq, ← scriptWeight_taking s m]
  cases m.callback with
  | none => exact Nat.le_refl _
  | some c => exact scriptWeight_respond_le _ c

/-! ### Actions -/

theorem scriptWeight_conclude_le (s : Session) (a : Action) (m : Move) (reply : Reply) :
    (s.conclude a m reply).scriptWeight ≤ s.scriptWeight := by
  have := scriptWeight_absorb_le s m [.answer a.verb reply]
  simpa [conclude, Call.scriptWeight] using this

theorem scriptWeight_answer_le (s : Session) (a : Action) (reply : Reply) :
    (s.answer a reply).scriptWeight ≤ s.scriptWeight := scriptWeight_conclude_le ..

theorem scriptWeight_withQuery_le {s : Session} {a : Action} {name : String} {f : QueryId → Session}
    (h : ∀ q, (f q).scriptWeight ≤ s.scriptWeight) :
    (s.withQuery a name f).scriptWeight ≤ s.scriptWeight := by
  unfold withQuery
  split
  · exact scriptWeight_answer_le ..
  · exact h _

theorem scriptWeight_withBus_le {s : Session} {a : Action} {name : String} {f : BusId → Session}
    (h : ∀ b, (f b).scriptWeight ≤ s.scriptWeight) :
    (s.withBus a name f).scriptWeight ≤ s.scriptWeight := by
  unfold withBus
  split
  · exact scriptWeight_answer_le ..
  · exact h _

theorem scriptWeight_withReceiver_le {s : Session} {a : Action} {name : String}
    {f : BusId → ReaderId → Session} (h : ∀ b r, (f b r).scriptWeight ≤ s.scriptWeight) :
    (s.withReceiver a name f).scriptWeight ≤ s.scriptWeight := by
  unfold withReceiver
  split
  · exact scriptWeight_answer_le ..
  · exact h _ _

theorem scriptWeight_subscribe_le (s : Session) (a : Action) (q : QueryId)
    (subscriber : Subscriber) (name : String) :
    (s.subscribe a q subscriber name).scriptWeight ≤ s.scriptWeight := by
  refine Nat.le_trans (scriptWeight_conclude_le _ a _ _) ?_
  exact Nat.le_refl _

/-- Listeners hold no more than before, and what one more listener brings. -/
theorem total_insert_le (l : Listener) (listeners : List Listener) :
    total Listener.weight (Keyed.insert Listener.name l listeners) ≤
      l.weight + total Listener.weight listeners := by
  induction listeners with
  | nil => simp [Keyed.insert]
  | cons x rest ih =>
    simp only [Keyed.insert]
    split
    · simp
    · split
      · simp only [total_cons]; omega
      · simp only [total_cons]; omega

theorem total_insertNew_le (l : Listener) (listeners : List Listener) :
    total Listener.weight (Keyed.insertNew Listener.name l listeners) ≤
      l.weight + total Listener.weight listeners := by
  unfold Keyed.insertNew
  split
  · omega
  · exact total_insert_le l listeners

theorem scriptWeight_endReader (s : Session) (name : String) :
    (s.endReader name).scriptWeight = s.scriptWeight := by
  unfold endReader
  split <;> rfl

theorem scriptWeight_readBus (s : Session) (b : BusId) (r : ReaderId) :
    (s.readBus b r).2.1.scriptWeight = s.scriptWeight := by
  unfold readBus
  split <;> rfl

/-- **Performing an action** uses up what it holds. -/
theorem scriptWeight_perform_lt (s : Session) (a : Action) :
    (s.perform a).scriptWeight < s.scriptWeight + a.weight := by
  have one {n : Nat} (h : n ≤ s.scriptWeight) : n < s.scriptWeight + 1 := Nat.lt_succ_of_le h
  cases a with
  | listen name listener subscription reactions bus =>
    have le {n : Nat} (h : n ≤ s.scriptWeight + reactionsWeight reactions) :
        n < s.scriptWeight + (1 + reactionsWeight reactions) := by omega
    -- the reactions of a listener go into store, unless it was known before
    refine le ?_
    simp only [perform, withQuery]
    split
    · exact Nat.le_trans (scriptWeight_answer_le ..) (Nat.le_add_right ..)
    · split
      · exact Nat.le_trans (scriptWeight_withBus_le fun b => scriptWeight_subscribe_le ..)
          (Nat.le_add_right ..)
      · refine Nat.le_trans (scriptWeight_subscribe_le ..) ?_
        have h := total_insertNew_le ⟨listener, reactions⟩ s.listeners
        have hw : Listener.weight ⟨listener, reactions⟩ = reactionsWeight reactions := rfl
        simp only [scriptWeight]
        omega
  | afterRead steps =>
    -- the actions take the place of those in store before
    have h := scriptWeight_answer_le { s with hook := some steps } (.afterRead steps) .done
    have hset : { s with hook := some steps }.scriptWeight ≤
        s.scriptWeight + (1 + stepsWeight steps) := by
      simp only [scriptWeight, Option.elim]
      omega
    show (Session.answer { s with hook := some steps } (.afterRead steps) .done).scriptWeight <
      s.scriptWeight + (2 + stepsWeight steps)
    omega
  | tap target name uses steps =>
    -- making a service does not touch what scripts hold
    have htarget : (s.targetOf target).1.scriptWeight = s.scriptWeight := by
      cases target <;> rfl
    have le {n : Nat}
        (h : n ≤ (s.targetOf target).1.scriptWeight + uses * (1 + stepsWeight steps)) :
        n < s.scriptWeight + (1 + uses * (1 + stepsWeight steps)) := by omega
    refine le ?_
    simp only [perform]
    split
    · exact Nat.le_trans (scriptWeight_answer_le ..) (Nat.le_add_right ..)
    · refine Nat.le_trans (scriptWeight_conclude_le ..) ?_
      simp only [scriptWeight, total_append, total_cons, total_nil, Tap.weight]
      omega
  | run name | start name | cancel name | setStatus name status | find name address
  | indexOf name address =>
    exact one (scriptWeight_withQuery_le fun _ => scriptWeight_conclude_le ..)
  | unlisten name subscription =>
    refine one (scriptWeight_withQuery_le fun q => ?_)
    split
    · exact scriptWeight_answer_le ..
    · exact scriptWeight_conclude_le ..
  | directory => exact one (by simp [perform, scriptWeight, Call.scriptWeight])
  | presence m provider room identifier change =>
    refine one ?_
    simp only [perform]
    split
    · exact scriptWeight_answer_le (s.mention m) ..
    · exact scriptWeight_conclude_le (s.mention m) ..
  | bus name size =>
    refine one ?_
    simp only [perform]
    split
    · exact scriptWeight_answer_le ..
    · exact scriptWeight_conclude_le ..
  | publish name event =>
    exact one (scriptWeight_withBus_le fun _ => scriptWeight_conclude_le ..)
  | receivers busName =>
    exact one (scriptWeight_withBus_le fun _ => scriptWeight_conclude_le ..)
  | receiver busName name =>
    refine one (scriptWeight_withBus_le fun b => ?_)
    split
    · exact scriptWeight_answer_le ..
    · exact Nat.le_trans (scriptWeight_answer_le ..) (Nat.le_of_eq (scriptWeight_endReader ..))
  | receiverDrop name =>
    have h := Nat.le_of_eq (scriptWeight_endReader s name)
    exact one (Nat.le_trans (scriptWeight_answer_le ..) h)
  | tryReceive name =>
    refine one (scriptWeight_withReceiver_le fun b r => ?_)
    exact Nat.le_trans (scriptWeight_answer_le ..) (Nat.le_of_eq (scriptWeight_readBus s b r))
  | receive name =>
    refine one (scriptWeight_withReceiver_le fun b r => ?_)
    refine Nat.le_trans ?_ (Nat.le_of_eq (scriptWeight_readBus s b r))
    dsimp only
    split
    · exact scriptWeight_answer_le ..
    · exact scriptWeight_answer_le ..
  | _ => exact one (scriptWeight_conclude_le ..)

/-! ### Steps -/

/-- Less is left to do in `s'` than in `s`: the first part of the measure that differs is
smaller. -/
def LessLeft (s' s : Session) : Prop :=
  s'.scriptWeight < s.scriptWeight ∨ s'.scriptWeight = s.scriptWeight ∧
    (s'.spread < s.spread ∨ s'.spread = s.spread ∧
      (s'.reading < s.reading ∨ s'.reading = s.reading ∧ s'.remainder < s.remainder))

theorem lex_of_lessLeft {s' s : Session} (h : LessLeft s' s) :
    Prod.Lex (· < ·) (Prod.Lex (· < ·) (Prod.Lex (· < ·) (· < ·))) s'.measure s.measure := by
  simp only [Prod.lex_def, measure]
  exact h

/-- Reading is left to the same amount in worlds with the same epochs. -/
theorem reading_congr {w w' : World} (h : w.SameEpochs w') (c : Call) :
    c.reading w' = c.reading w := by
  have he : ∀ q, w'.epoch q = w.epoch q := h
  cases c with
  | task t => cases t <;> simp only [Call.reading, Task.reading, he]
  | _ => rfl

theorem total_reading_congr {w w' : World} (h : w.SameEpochs w') (calls : List Call) :
    total (Call.reading w') calls = total (Call.reading w) calls :=
  total_congr (reading_congr h) calls

/-- Letting go leaves as much to do as there was. -/
theorem lessLeft_sweep {s' s : Session} (h : LessLeft s' s) : LessLeft s'.sweep s := by
  have hr : s'.sweep.reading = s'.reading :=
    total_reading_congr (World.sameEpochs_release s'.world s'.usesQuery s'.usesBus) s'.calls
  unfold LessLeft
  rw [hr]
  exact h

theorem total_spread_tasks (tasks : List Task) :
    total Call.spread (tasks.map Call.task) = spreadOf tasks := by
  rw [spreadOf, total_map]
  rfl

theorem total_reading_tasks (w : World) (tasks : List Task) :
    total (Call.reading w) (tasks.map Call.task) = readingOf w tasks := by
  rw [readingOf, total_map]
  rfl

theorem total_remainder_tasks (tasks : List Task) :
    total Call.remainder (tasks.map Call.task) = remainderOf tasks := by
  rw [remainderOf, total_map]
  rfl

/-- A move that leaves less to do, callbacks apart, leaves less to do with them. -/
theorem lessLeft_absorb {s s₀ : Session} {m : Move} {after : List Call}
    (hw : (s₀.taking m after).scriptWeight = s.scriptWeight)
    (h : LessLeft (s₀.taking m after) s) : LessLeft (s₀.absorb m after) s := by
  rw [absorb_eq]
  cases m.callback with
  | none => exact h
  | some c =>
    -- the answer to the callback changes nothing, or uses up some script
    rcases respond_eq_or_lt (s₀.taking m after) c with he | hlt
    · simp only [Option.elim, he]
      exact h
    · exact .inl (hw ▸ hlt)

/-- The next step of a task leaves less to do. -/
theorem lessLeft_task {s : Session} {t : Task} {calls : List Call}
    (hc : s.calls = .task t :: calls) :
    LessLeft ({ s with calls }.absorb (s.world.advance t) []) s := by
  have hw : ({ s with calls }.taking (s.world.advance t) []).scriptWeight = s.scriptWeight := by
    rw [scriptWeight_taking]
    simp [scriptWeight, hc, Call.scriptWeight]
  refine lessLeft_absorb hw (.inr ⟨hw, ?_⟩)
  simp only [taking, spread, reading, remainder, total_append, hc,
    total_cons, List.append_nil, total_spread_tasks, total_reading_tasks,
    total_remainder_tasks, Call.spread, Call.reading, Call.remainder]
  -- the parts of the measure fall in the order in which a move decreases them
  rcases World.advance_decreases s.world t with h | ⟨h, hsame, h' | ⟨h', h''⟩⟩
  · exact .inl (by omega)
  · refine .inr ⟨by omega, .inl ?_⟩
    rw [total_reading_congr hsame]
    omega
  · refine .inr ⟨by omega, .inr ⟨?_, by omega⟩⟩
    rw [total_reading_congr hsame]
    omega

/-- Going on with a call leaves less to do. -/
theorem lessLeft_proceed {s : Session} {call : Call} {calls : List Call}
    (hc : s.calls = call :: calls) : LessLeft ({ s with calls }.proceed call) s := by
  cases call with
  | script steps =>
    cases steps with
    | nil =>
      refine .inr ⟨?_, .inr ⟨?_, .inr ⟨?_, ?_⟩⟩⟩ <;>
        simp [proceed, scriptWeight, spread, reading, remainder, hc, Call.scriptWeight, stepsWeight,
          Call.spread, Call.reading, Call.remainder]
    | cons a rest =>
      -- the rest of the script stays; the action itself is used up
      left
      have h := scriptWeight_perform_lt { s with calls := .script rest :: calls } a
      have hs : s.scriptWeight =
          { s with calls := .script rest :: calls }.scriptWeight + a.weight := by
        simp only [scriptWeight, hc, total_cons, Call.scriptWeight, stepsWeight]
        omega
      rw [hs]
      exact h
  | task t => exact lessLeft_task hc
  | listing verb done rest =>
    cases rest with
    | nil =>
      refine .inr ⟨?_, .inl ?_⟩ <;>
        simp [proceed, proceedListing, scriptWeight, spread, hc, Call.scriptWeight, Call.spread]
    | cons p rest =>
      -- one provider less, and the answer to the callback may use up some script
      have hw (m : Move) (later : List Listing) :
          ({ s with calls }.taking m [.listing verb later rest]).scriptWeight =
            s.scriptWeight := by
        rw [scriptWeight_taking]
        simp [scriptWeight, hc, Call.scriptWeight]
      refine lessLeft_absorb (hw ..) (.inr ⟨hw .., .inl ?_⟩)
      simp [taking, spread, hc, Call.spread]
  | answer verb reply =>
    refine .inr ⟨?_, .inr ⟨?_, .inr ⟨?_, ?_⟩⟩⟩ <;>
      simp [proceed, scriptWeight, spread, reading, remainder, hc, Call.scriptWeight,
        Call.spread, Call.reading, Call.remainder]

/-- **Each step makes the measure smaller.** -/
theorem measure_step_lt {s : Session} (h : s.calls ≠ []) :
    Prod.Lex (· < ·) (Prod.Lex (· < ·) (Prod.Lex (· < ·) (· < ·))) s.step.measure s.measure := by
  cases hc : s.calls with
  | nil => exact absurd hc h
  | cons call calls =>
    have hstep : s.step = ({ s with calls }.proceed call).sweep := by
      simp only [step, hc]
    rw [hstep]
    exact lex_of_lessLeft (lessLeft_sweep (lessLeft_proceed hc))

end Session

end RoomSearch
