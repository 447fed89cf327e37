import RoomSearch.Proofs.Convergence.KeepingUp
import RoomSearch.Proofs.Replay

/-!
# Keeping up or hearing next

While a query has a subscriber and is not canceled, it hears of every change of the directory.  If
listeners and observers do not call back, the query hears of a change before anything else can
happen, with one exception: it may hear of a new provider only after the directory has changed
again, for another query may have heard of the provider before it, and read the provider's rooms.
So between two steps the query either keeps up with the directory, its errands considered, or it
has kept up with the directory as it was and is about to hear what has become different.

This can be watched over a whole session, or from a moment at which other calls are in progress
until it is their turn again; what these are going to do for the query is not considered then.

## Main definitions

* `World.Behind` — a query is one notice behind the directory.
* `Session.Truthfully` — what may be done: the directory is changed truthfully.
* `Session.Phase` — a query keeps up with the directory, or is about to hear of a change.
* `Session.KeepsUp` — a session in which a query keeps up as long as these calls wait.

## Main results

* `Session.KeepsUp.step` — **the phase is kept by every step**.
* `Session.KeepsUp.steps` — so it is by all steps while the calls wait.
* `Session.KeepsUp.at_base` — there are no errands left when it is the turn of what has waited.
-/

namespace RoomSearch

/-- What a call is still going to do for a query. -/
def Call.errands (q : QueryId) (c : Call) : List Errand := c.task?.elim [] (Task.errands q)

/-- The task that a call is, if it is one, announces nothing urgent to the query. -/
def Call.IsCalm (q : QueryId) (c : Call) : Prop := ∀ t, c.task? = some t → t.IsCalm q

theorem Call.isCalm_of_bare {q : QueryId} {c : Call} (h : c.task? = none) : c.IsCalm q := by
  intro t ht
  rw [h] at ht
  cases ht

namespace World

variable {S : Standing} {w w' : World} {q p : QueryId} {m : Move}

/-- The move leaves a query in its course, and does nothing but tell listeners. -/
structure Whispers (w : World) (q : QueryId) (m : Move) : Prop where
  course : SameCourse q w m.world
  tasks : ∀ t ∈ m.tasks, t.isNotification = true
  callback : m.callback = none ∨ ∃ name event, m.callback = some (.listener name event)

theorem Whispers.told (h : w.Whispers q m) :
    ∀ c ∈ m.tasks.map Call.task, c.isNotification = true := by
  intro c hc
  obtain ⟨t, ht, rfl⟩ := List.mem_map.mp hc
  exact h.tasks t ht

theorem whispers_still (h : SameCourse q w w') : w.Whispers q (.still w') :=
  ⟨h, List.forall_mem_nil _, .inl rfl⟩

/-- A notification goes on. -/
theorem whispers_notify (h : SameCourse q w w') (audience : List Subscriber) (rest : List Delivery)
    {callback : Option Callback} {notes : List Note}
    (hcallback : callback = none ∨ ∃ name event, callback = some (.listener name event)) :
    w.Whispers q ⟨w', [.notify p audience rest], callback, notes⟩ := by
  refine ⟨h, ?_, hcallback⟩
  intro t ht
  rw [List.mem_singleton.mp ht]
  rfl

theorem whispers_commit (h : SameCourse q w w') (p : QueryId) (news : List News) :
    w.Whispers q (w'.commit p news) := by
  cases news with
  | nil => exact whispers_still h
  | cons n rest => exact whispers_notify h _ _ (.inl rfl)

theorem Advances.whispers {t : Task} (hadvances : w.Advances t m)
    (h : t.isNotification = true) : w.Whispers q m := by
  cases hadvances with
  | spent | dropped => exact whispers_still (.refl q w)
  | publish p audience d rest b =>
    have hcourse : SameCourse q w (w.publish b ⟨.query p, d.news⟩) := .of_queries_eq rfl rfl
    exact whispers_notify hcourse audience rest (.inl rfl)
  | hear p audience d rest name => exact whispers_notify (.refl q w) _ _ (.inr ⟨name, _, rfl⟩)
  | _ => cases h

/-- Another query hears of a change. -/
theorem Follows.whispers {d : Directory} {query : Query} {notice : Notice}
    (hfollows : w.Follows p query notice m) (hturns : d.Turns w.directory notice) (hne : p ≠ q) :
    w.Whispers q m := by
  have hepoch : SameCourse q w (w.modifyQuery p Query.advanceEpoch) := .modifyQuery_of_ne w hne _
  cases hfollows with
  | still => exact whispers_still (.refl q w)
  | rooms | gone => exact whispers_commit (hepoch.trans (.modifyQuery_of_ne _ hne _)) p _
  | presence | joined | entered | registration => cases hturns

theorem whispers_follow {d : Directory} {notice : Notice} (hturns : d.Turns w.directory notice)
    (hne : p ≠ q) : w.Whispers q (w.follow p notice) := by
  rcases follow_spec w p notice with hstill | ⟨query, -, hfollows⟩
  · rw [hstill]
    exact whispers_still (.refl q w)
  · exact hfollows.whispers hturns hne

/-- The query is one notice behind: it has kept up with the directory as it was before the change
that the notice tells of. -/
structure Behind (S : Standing) (w : World) (q : QueryId) (notice : Notice) (below : List Call) :
    Prop where
  distinct : w.directory.Distinct
  before : ∃ d query, d.Distinct ∧ d.Turns w.directory notice ∧ w.query? q = some query ∧
    S d query (below.flatMap (Call.errands q))
  calm : ∀ c ∈ below, c.IsCalm q

namespace Behind

variable {notice : Notice} {below : List Call}

theorem of_sameCourse (hS : S.Upheld) (h : w.Behind S q notice below)
    (hcourse : SameCourse q w w') : w'.Behind S q notice below := by
  obtain ⟨d, query, hd, hturns, hq, hstands⟩ := h.before
  obtain ⟨query', hq', hsame⟩ := hcourse.query hq
  refine ⟨?_, ⟨d, query', hd, ?_, hq', hS.course hstands hsame⟩, h.calm⟩
  · rw [hcourse.directory]
    exact h.distinct
  · rw [hcourse.directory]
    exact hturns

theorem isUrgent (h : w.Behind S q notice below) : notice.isUrgent = true := by
  obtain ⟨d, query, -, hturns, -⟩ := h.before
  cases hturns <;> rfl

/-- **Hearing of the change**, the query keeps up with the directory as it is. -/
theorem keepsUp_follow (hS : S.Upheld) (h : w.Behind S q notice below) (haccounts : w.Accounts)
    (htidy : w.Tidy) (hattends : w.Attends q) :
    (w.follow q notice).KeepsUp S q (below.flatMap (Call.errands q)) := by
  obtain ⟨d, query, hd, hturns, hq, hstands⟩ := h.before
  obtain ⟨query', hq', hsubscribed, hactive⟩ := hattends
  cases Option.some.inj (hq.symm.trans hq')
  exact keepsUp_follow_turn hS hd h.distinct hturns hq (haccounts.alive hq hsubscribed) hactive
    (htidy hq) hstands

end Behind

end World

namespace Session

variable {S : Standing} {s t : Session} {q : QueryId} {c : Call}
  {calls base above told below : List Call} {m : Move} {first later : List Call} {notice : Notice}
  {rest : List Watcher}

/-- What may be done: listeners get no reactions, observers do not act, and the directory is
changed truthfully. -/
def Truthfully (s : Session) (a : Action) : Prop :=
  a.isPassive = true ∧ a.isDiscreet = true ∧ s.world.directory.admits a = true

instance (s : Session) (a : Action) : Decidable (Truthfully s a) :=
  inferInstanceAs (Decidable (_ ∧ _ ∧ _))

/-- How far a query is with the directory while the calls `base` wait. -/
inductive Phase (S : Standing) (base : List Call) (q : QueryId) (s : Session) : Prop where
  /-- It keeps up with the directory. -/
  | upToDate (above : List Call) (hcalls : s.calls = above ++ base)
      (hkeeps : s.world.KeepsUp S q (above.flatMap (Call.errands q)))
      (hcalm : ∀ d ∈ above, d.IsCalm q)
  /-- It is one notice behind, and hears of it once those have been told who are told of something
  else before. -/
  | hearing {notice : Notice} {rest : List Watcher} (told below : List Call)
      (hcalls : s.calls = told ++ .task (.deliver notice rest) :: (below ++ base))
      (htold : ∀ c ∈ told, c.isNotification = true) (honce : rest.count (.query q) = 1)
      (hbehind : s.world.Behind S q notice below)

/-- A session in which a query keeps up with the directory while the calls `base` wait. -/
structure KeepsUp (S : Standing) (base : List Call) (q : QueryId) (s : Session) : Prop where
  orderly : s.Orderly
  passive : s.Passive
  discreet : s.Discreet
  attends : s.world.Attends q
  phase : s.Phase S base q

/-- **When it is their turn**, there are no errands left. -/
theorem KeepsUp.at_base (hs : s.KeepsUp S base q) (hcalls : s.calls = base) :
    s.world.KeepsUp S q [] := by
  cases hs.phase with
  | upToDate above habove hkeeps =>
    have hnothing : above = [] := List.self_eq_append_left.mp (hcalls.symm.trans habove)
    rw [hnothing] at hkeeps
    exact hkeeps
  | hearing told below hhearing =>
    have hlength := congrArg List.length (hcalls.symm.trans hhearing)
    rw [List.length_append, List.length_cons, List.length_append] at hlength
    omega

/-- At rest it does not matter what is asked for. -/
theorem KeepsUp.ask (hs : s.KeepsUp S [] q) (hrest : s.calls = []) (a : Action) :
    (s.ask a).KeepsUp S [] q := by
  have hnext : Next Truthfully s (s.ask a) := .ask a hrest
  refine ⟨(hs.orderly.next hnext).1, hs.passive, hs.discreet, hs.attends, ?_⟩
  refine .upToDate [.script [a]] rfl (hs.at_base hrest) ?_
  intro d hd
  rw [List.mem_singleton.mp hd]
  exact Call.isCalm_of_bare rfl

/-! ### One step -/

/-- Letting go leaves every query in its course. -/
theorem Goes.course (h : s.Goes c calls m first later t) (hs : s.Sound) (q : QueryId) :
    World.SameCourse q m.world t.world where
  directory := (h.releases hs).directory
  query hq := by
    obtain ⟨query', hq', hfound⟩ := (h.releases hs).findings.exists hq
    exact ⟨query', hq', hfound.course⟩

/-- After a move that keeps the query up, it keeps up. -/
theorem Goes.upToDate (h : s.Goes c (above ++ base) m first later t) (hS : S.Upheld)
    (hs : s.Sound) (hm : m.KeepsUp S q (above.flatMap (Call.errands q)))
    (hcalm : ∀ d ∈ above, d.IsCalm q) : t.Phase S base q := by
  have herrands : (first ++ m.tasks.map Call.task ++ later ++ above).flatMap (Call.errands q) =
      m.tasks.flatMap (Task.errands q) ++ above.flatMap (Call.errands q) :=
    h.flatMap_above (Task.errands q) above
  refine .upToDate (first ++ m.tasks.map Call.task ++ later ++ above) ?_ ?_ ?_
  · rw [h.calls, List.append_assoc (first ++ m.tasks.map Call.task ++ later)]
  · rw [herrands]
    exact hm.world.of_sameCourse hS (h.course hs q)
  · intro d hd
    rcases List.mem_append.mp hd with hd | hd
    · rcases List.mem_append.mp hd with hd | hd
      · rcases List.mem_append.mp hd with hd | hd
        · exact Call.isCalm_of_bare (h.bare d (List.mem_append_left _ hd))
        · obtain ⟨u, hu, rfl⟩ := List.mem_map.mp hd
          intro t ht
          cases ht
          exact hm.calm u hu
      · exact Call.isCalm_of_bare (h.bare d (List.mem_append_right _ hd))
    · exact hcalm d hd

/-- The directory has changed, and this is announced before anything else happens. -/
theorem Goes.phase_of_alters (h : s.Goes c (above ++ base) m first later t) (hS : S.Upheld)
    (hs : s.Sound) (hattends : s.world.Attends q) (halters : s.world.Alters m)
    (hkeeps : s.world.KeepsUp S q (above.flatMap (Call.errands q)))
    (hcalm : ∀ d ∈ above, d.IsCalm q) : t.Phase S base q := by
  cases halters with
  | @turn d notice x hd hturns hx =>
    -- nobody answers, so that the announcement comes first
    have hfirst : first = [] := h.unasked rfl
    have hlater : ∀ d ∈ later, d.task? = none := fun d hd =>
      h.bare d (List.mem_append_right _ hd)
    obtain ⟨query, hq, hstands⟩ := hkeeps.stands
    have hbehind : World.Behind S { s.world with directory := d } q notice (later ++ above) := by
      refine ⟨hd, ⟨s.world.directory, query, hkeeps.distinct, hturns, hq, ?_⟩, ?_⟩
      · have hnothing : later.flatMap (Call.errands q) = [] :=
          Call.flatMap_of_bare hlater (Task.errands q)
        rw [List.flatMap_append, hnothing]
        exact hstands
      · intro e he
        rcases List.mem_append.mp he with he | he
        · exact Call.isCalm_of_bare (hlater e he)
        · exact hcalm e he
    refine .hearing [] (later ++ above) ?_ (List.forall_mem_nil _)
      (hattends.listeners hs.accounts hx) (hbehind.of_sameCourse hS (h.course hs q))
    rw [h.calls, hfirst, List.append_assoc, List.append_assoc later]
    rfl

/-- A query that keeps up does so after the next step, unless the directory changes. -/
theorem Goes.phase_of_upToDate (h : s.Goes c (above ++ base) m first later t) (hS : S.Upheld)
    (hs : s.Sound) (hattends : s.world.Attends q)
    (hpermitted : ∀ a, c.action? = some a → Truthfully s a)
    (hkeeps : s.world.KeepsUp S q ((c :: above).flatMap (Call.errands q)))
    (hcalm : ∀ d ∈ c :: above, d.IsCalm q) : t.Phase S base q := by
  have hbelow : ∀ d ∈ above, d.IsCalm q := fun d hd => hcalm d (List.mem_cons_of_mem _ hd)
  cases h.does with
  | task task =>
    exact h.upToDate hS hs (World.keepsUp_advance hS hs.accounts hattends
      (hcalm _ List.mem_cons_self task rfl) hkeeps) hbelow
  | @action a rest _ hacts =>
    have hkeeps' : s.world.KeepsUp S q (above.flatMap (Call.errands q)) := hkeeps
    rcases World.keepsUp_acts hS hs.accounts hattends hkeeps' hacts hs.named
      (hpermitted a rfl).2.2 with hm | halters
    · exact h.upToDate hS hs hm hbelow
    · exact h.phase_of_alters hS hs hattends halters hkeeps' hbelow
  | idle hc ha =>
    refine h.upToDate hS hs (World.keepsUp_still hS ?_) hbelow
    rw [List.flatMap_cons, Call.errands, hc] at hkeeps
    exact hkeeps
  | read => exact h.upToDate hS hs ⟨hkeeps, List.forall_mem_nil _⟩ hbelow

/-- Nobody answers a move that does nothing but tell listeners. -/
theorem Goes.first_eq_nil (h : s.Goes c calls m first later t) (hpassive : s.Passive)
    (hcallback : m.callback = none ∨ ∃ name event, m.callback = some (.listener name event)) :
    first = [] := by
  rcases hcallback with hnone | hlistener
  · exact h.unasked hnone
  · exact h.unheard hpassive hlistener

/-- The announcement of a change goes to the next watcher. -/
theorem Goes.phase_of_announcing
    (h : s.Goes (.task (.deliver notice rest)) (below ++ base) m first later t) (hS : S.Upheld)
    (hs : s.KeepsUp S base q) (honce : rest.count (.query q) = 1)
    (hbehind : s.world.Behind S q notice below) : t.Phase S base q := by
  have hsound := hs.orderly.sound
  have hcalls := h.calls
  rw [h.taskless (Option.some_ne_none _), List.append_nil] at hcalls
  cases h.does with
  | idle hc => cases hc
  | task =>
    cases rest with
    | nil => cases honce
    | cons v rest =>
      cases v with
      | tap i =>
        -- an observer has its turn
        have hne : Watcher.tap i ≠ .query q := Watcher.noConfusion
        rw [List.count_cons_of_ne hne] at honce
        rw [h.unseen hs.discreet ⟨i, notice, rfl⟩] at hcalls
        exact .hearing [] below hcalls (List.forall_mem_nil _) honce
          (hbehind.of_sameCourse hS (h.course hsound q))
      | query p =>
        by_cases hpq : p = q
        · -- this is where the query hears of the change
          subst hpq
          rw [List.count_cons_self] at honce
          have hrest : .query p ∉ rest := List.count_eq_zero.mp (Nat.succ.inj honce)
          have hfollow := hbehind.keepsUp_follow hS hsound.accounts hs.orderly.tidy hs.attends
          refine h.upToDate hS hsound (Move.KeepsUp.andThen (t := .deliver notice rest) ?_ ?_)
            hbehind.calm
          · rw [Task.errands_deliver_urgent hbehind.isUrgent]
            exact hfollow
          · exact fun _ => hrest
        · -- another query has its turn, and may have something to tell
          have hne : Watcher.query p ≠ .query q := fun heq => hpq (Watcher.query.inj heq)
          obtain ⟨d, query, -, hturns, -⟩ := hbehind.before
          have hwhispers := World.whispers_follow (q := q) hturns hpq
          rw [List.count_cons_of_ne hne] at honce
          refine .hearing _ below ?_ hwhispers.told honce
            (hbehind.of_sameCourse hS (hwhispers.course.trans (h.course hsound q)))
          rw [hcalls, h.first_eq_nil hs.passive hwhispers.callback]
          simp only [World.advance, World.advanceDelivery, Move.andThen, List.map_append,
            List.map_cons, List.map_nil, List.nil_append, List.append_assoc, List.cons_append]

/-- A query that is about to hear of a change is closer to it after the next step. -/
theorem Goes.phase_of_hearing (h : s.Goes c calls m first later t) (hS : S.Upheld)
    (hs : s.KeepsUp S base q)
    (hcalls : c :: calls = told ++ .task (.deliver notice rest) :: (below ++ base))
    (htold : ∀ c ∈ told, c.isNotification = true) (honce : rest.count (.query q) = 1)
    (hbehind : s.world.Behind S q notice below) : t.Phase S base q := by
  cases told with
  | nil =>
    obtain ⟨rfl, rfl⟩ := List.cons.inj hcalls
    exact h.phase_of_announcing hS hs honce hbehind
  | cons c' told =>
    rw [List.cons_append] at hcalls
    obtain ⟨rfl, rfl⟩ := List.cons.inj hcalls
    have hnotification := htold c List.mem_cons_self
    cases c with
    | task task =>
      cases h.does with
      | idle hc => cases hc
      | task =>
        have hwhispers := (World.advances_advance s.world task).whispers (q := q) hnotification
        refine .hearing ((s.world.advance task).tasks.map Call.task ++ told) below ?_
          (fun d hd => ?_) honce
          (hbehind.of_sameCourse hS (hwhispers.course.trans (h.course hs.orderly.sound q)))
        · rw [h.calls, h.first_eq_nil hs.passive hwhispers.callback,
            h.taskless (Option.some_ne_none _), List.append_nil, List.nil_append, List.append_assoc]
        · rcases List.mem_append.mp hd with hd | hd
          · exact hwhispers.told d hd
          · exact htold d (List.mem_cons_of_mem _ hd)
    | script | listing | answer => cases hnotification

/-- **Every step** leaves the query up to date, or about to hear of a change. -/
theorem KeepsUp.step (hS : S.Upheld) (hs : s.KeepsUp S base q)
    (hcalls : s.calls = c :: above ++ base)
    (hpermitted : ∀ a, c.action? = some a → Truthfully s a) (hattends : s.step.world.Attends q) :
    s.step.KeepsUp S base q := by
  obtain ⟨m, first, later, hgoes⟩ := goes_step hcalls
  have hnext : Next Truthfully s s.step := .step hcalls hpermitted
  refine ⟨(hs.orderly.next hnext).1, ?_, ?_, hattends, ?_⟩
  · exact hgoes.passive hs.passive fun a ha => (hpermitted a ha).1
  · exact hgoes.discreet hs.discreet fun a ha => (hpermitted a ha).2.1
  · cases hs.phase with
    | upToDate above' habove hkeeps hcalm =>
      have heq : above' = c :: above := List.append_cancel_right (habove.symm.trans hcalls)
      subst heq
      exact hgoes.phase_of_upToDate hS hs.orderly.sound hs.attends hpermitted hkeeps hcalm
    | hearing told below hcalls' htold honce hbehind =>
      exact hgoes.phase_of_hearing hS hs (hcalls.symm.trans hcalls') htold honce hbehind

/-- **As long as the calls `base` wait**, the query keeps up, if all that is done is done
truthfully. -/
theorem KeepsUp.steps (hS : S.Upheld) (hs : s.KeepsUp S base q) (n : Nat)
    (hwaits : ∀ k < n, ∃ c above, (s.steps k).calls = c :: above ++ base)
    (hdone : ∀ k < n, (∀ a ∈ (s.steps k).action?, Truthfully (s.steps k) a) ∧
      (s.steps (k + 1)).world.Attends q) : (s.steps n).KeepsUp S base q := by
  induction n with
  | zero => exact hs
  | succ n ih =>
    have hbefore := ih (fun k hk => hwaits k (Nat.lt_succ_of_lt hk))
      fun k hk => hdone k (Nat.lt_succ_of_lt hk)
    obtain ⟨c, above, hcalls⟩ := hwaits n (Nat.lt_succ_self n)
    obtain ⟨hpermitted, hattends⟩ := hdone n (Nat.lt_succ_self n)
    rw [steps_succ] at hattends ⊢
    refine KeepsUp.step hS hbefore hcalls (fun a ha => hpermitted a ?_) hattends
    rw [action?, hcalls]
    exact ha

end Session

end RoomSearch
