import RoomSearch.Proofs.Session.Acting
import RoomSearch.Proofs.World.Release

/-!
# One step of a session

A step takes the innermost call off the calls in progress and lets it move the world.  What the move
leaves behind comes before the calls that were in progress already: first what the outside answers,
then the tasks of the move, then the answer of the action or the next listing.

## Main definitions

* `Session.Does` — the moves of the world that a call can lead to.
* `Session.Goes` — all that is different after a step.
* `Session.notes` — what the moves of the world have done so far, in order.
* `Session.Sound` — the accounts balance, what is held is alive, and what is alive is in use.

## Main results

* `Session.goes_step` — every step is a move of this kind.
* `Session.Goes.sound` — every step keeps a session sound.
-/

namespace RoomSearch

/-- The note in a line of the journal, if it is one. -/
def Line.note? : Line → Option Note
  | .noted note => some note
  | .answered .. => none

/-- Calls that are no tasks bring nothing along. -/
theorem Call.flatMap_of_bare {α : Type} {bare : List Call} (h : ∀ c ∈ bare, c.task? = none)
    (f : Task → List α) : bare.flatMap (fun c => c.task?.elim [] f) = [] := by
  apply List.flatMap_eq_nil_iff.mpr
  intro c hc
  rw [h c hc]
  rfl

namespace Session

/-- What the moves of the world have done so far, in order. -/
def notes (s : Session) : List Note := (s.journal.filterMap Line.note?).reverse

/-- No listener has a reaction. -/
def Passive (s : Session) : Prop := ∀ l ∈ s.listeners, l.reactions = []

/-- No observer acts any more. -/
def Discreet (s : Session) : Prop := ∀ tap ∈ s.taps, tap.uses = 0

/-- The moves of the world that a call can lead to. -/
inductive Does (s : Session) : Call → Move → Prop where
  | task (t : Task) : Does s (.task t) (s.world.advance t)
  | action {a : Action} {rest : List Action} {m : Move}
      (h : World.Acts s.world s.query? a m) : Does s (.script (a :: rest)) m
  | idle {c : Call} (hc : c.task? = none) (ha : c.action? = none) : Does s c (.still s.world)
  | read {verb : String} {done : List Listing} {rest : List ProviderId} :
      Does s (.listing verb done rest) ⟨s.world, [], some .read, []⟩

/-- All that is different after a step from `s` to `t`: the call `c` was the innermost, `calls` were
the others, `m` is the move of the world, `first` is what the outside answers to it, and `later` is
what comes after the tasks of the move. -/
structure Goes (s : Session) (c : Call) (calls : List Call) (m : Move) (first later : List Call)
    (t : Session) : Prop where
  /-- The call can lead to this move. -/
  does : s.Does c m
  /-- The world is let go of what is not in use. -/
  world : t.world = m.world.release t.usesQuery t.usesBus
  /-- The calls that are in progress now. -/
  calls : t.calls = first ++ m.tasks.map Call.task ++ later ++ calls
  /-- Tasks come from the move alone. -/
  bare : ∀ d ∈ first ++ later, d.task? = none
  /-- What the move has done is written down. -/
  notes : t.notes = s.notes ++ m.notes
  /-- Nothing is answered that was not asked. -/
  unasked : m.callback = none → first = []
  /-- Nothing comes after the tasks of a task. -/
  taskless : c.task? ≠ none → later = []
  /-- Listeners without reactions do not answer. -/
  unheard : s.Passive → (∃ name event, m.callback = some (.listener name event)) → first = []
  /-- Observers that do not act do not answer. -/
  unseen : s.Discreet → (∃ tap notice, m.callback = some (.tap tap notice)) → first = []
  /-- A query that is held was held before, or has just been made. -/
  held : ∀ h ∈ t.held, h ∈ s.held ∨ ∃ query, m.world.query? h.2 = some query ∧ query.alive = true
  /-- Listeners get no reactions but by actions. -/
  passive : s.Passive → (∀ a, c.action? = some a → a.isPassive = true) → t.Passive
  /-- Observers act only as often as actions let them. -/
  discreet : s.Discreet → (∀ a, c.action? = some a → a.isDiscreet = true) → t.Discreet

variable {s t : Session} {c : Call} {calls : List Call} {m : Move}

/-- A single listener has no reactions. -/
theorem passive_of_listeners {name : String} (h : s.listeners = [⟨name, []⟩]) : s.Passive := by
  intro l hl
  rw [h] at hl
  rw [List.mem_singleton.mp hl]

/-! ### Answers of the outside -/

/-- Whoever has no reactions does not answer. -/
theorem reactOf_eq_none {name : String} {listeners : List Listener}
    (h : ∀ l ∈ listeners, l.name = name → l.reactions = []) (news : News) :
    reactOf name news listeners = none := by
  induction listeners with
  | nil => rfl
  | cons l rest ih =>
    rw [reactOf]
    split
    · next hname =>
      rw [h l List.mem_cons_self hname]
      rfl
    · rw [ih fun l hl => h l (List.mem_cons_of_mem _ hl)]
      rfl

theorem reactOf_of_passive (hs : s.Passive) (name : String) (news : News) :
    reactOf name news s.listeners = none := reactOf_eq_none (fun l hl _ => hs l hl) news

/-- All that is different from `s` to `t` once the outside has answered, by the calls `first`. -/
structure Answers (s : Session) (callback : Callback) (first : List Call) (t : Session) : Prop where
  calls : t.calls = first ++ s.calls
  bare : ∀ d ∈ first, d.task? = none
  world : t.world = s.world
  journal : t.journal = s.journal
  held : t.held = s.held
  passive : s.Passive → t.Passive
  discreet : s.Discreet → t.Discreet
  unheard : s.Passive → (∃ name event, callback = .listener name event) → first = []
  unseen : s.Discreet → (∃ tap notice, callback = .tap tap notice) → first = []

theorem answers_nothing (s : Session) (callback : Callback) : s.Answers callback [] s :=
  ⟨rfl, List.forall_mem_nil _, rfl, rfl, rfl, id, id, fun _ _ => rfl, fun _ _ => rfl⟩

theorem answers_script {callback : Callback} {steps : List Action} {listeners : List Listener}
    {taps : List Tap} {hook : Option (List Action)}
    (hpassive : s.Passive → ∀ l ∈ listeners, l.reactions = [])
    (hdiscreet : s.Discreet → ∀ tap ∈ taps, tap.uses = 0)
    (hheard : (∃ name event, callback = .listener name event) → ¬ s.Passive)
    (hseen : (∃ tap notice, callback = .tap tap notice) → ¬ s.Discreet) :
    s.Answers callback [.script steps]
      ({ s with listeners := listeners, taps := taps, hook := hook }.interrupt steps) := by
  refine ⟨rfl, ?_, rfl, rfl, rfl, hpassive, hdiscreet, fun hs h => absurd hs (hheard h),
    fun hs h => absurd hs (hseen h)⟩
  intro d hd
  rw [List.mem_singleton.mp hd]
  rfl

/-- **What the outside answers** is at most one script. -/
theorem answers_respond (s : Session) (callback : Callback) :
    ∃ first, s.Answers callback first (s.respond callback) := by
  cases callback with
  | read =>
    rw [respond]
    -- the actions in store are performed now, and only once
    split
    · exact ⟨_, answers_nothing ..⟩
    · refine ⟨_, answers_script id id ?_ ?_⟩
      · rintro ⟨name, event, ⟨⟩⟩
      · rintro ⟨tap, notice, ⟨⟩⟩
  | listener name event =>
    rw [respond]
    split
    · exact ⟨_, answers_nothing ..⟩
    · next steps listeners hreact =>
      -- whoever answers has a reaction
      have hno : ¬ s.Passive := by
        intro hs
        rw [reactOf_of_passive hs] at hreact
        cases hreact
      refine ⟨_, answers_script (fun hs => absurd hs hno) id (fun _ => hno) ?_⟩
      rintro ⟨tap, notice, ⟨⟩⟩
  | tap i notice =>
    rw [respond]
    split
    · exact ⟨_, answers_nothing ..⟩
    · next tap htap =>
      split
      · exact ⟨_, answers_nothing ..⟩
      · next huses =>
        -- whoever answers can act once more
        have hno : ¬ s.Discreet := fun hs => huses (hs tap (List.mem_of_getElem? htap))
        refine ⟨_, answers_script id (fun hs => absurd hs hno) ?_ fun _ => hno⟩
        rintro ⟨name, event, ⟨⟩⟩

/-- All that is different from `s` to `t` once a move is absorbed and the outside has answered it by
the calls `first`. -/
structure Absorbs (s : Session) (m : Move) (after first : List Call) (t : Session) : Prop where
  world : t.world = m.world
  calls : t.calls = first ++ m.tasks.map Call.task ++ after ++ s.calls
  bare : ∀ d ∈ first, d.task? = none
  notes : t.notes = s.notes ++ m.notes
  held : t.held = s.held
  passive : s.Passive → t.Passive
  discreet : s.Discreet → t.Discreet
  unasked : m.callback = none → first = []
  unheard : s.Passive → (∃ name event, m.callback = some (.listener name event)) → first = []
  unseen : s.Discreet → (∃ tap notice, m.callback = some (.tap tap notice)) → first = []

/-- **A move is absorbed**: its tasks come first, unless the outside has something to say. -/
theorem absorbs_absorb (s : Session) (m : Move) (after : List Call) :
    ∃ first, s.Absorbs m after first (s.absorb m after) := by
  -- the journal begins with the latest note, the move with the first
  have hnotes : ((m.notes.map Line.noted).reverse ++ s.journal).filterMap Line.note? =
      m.notes.reverse ++ s.journal.filterMap Line.note? := by
    rw [List.filterMap_append, ← List.map_reverse, List.filterMap_map]
    congr 1
    exact List.filterMap_some
  unfold absorb
  split
  · -- nobody is called
    refine ⟨[], rfl, by simp, List.forall_mem_nil _, ?_, rfl, id, id, fun _ => rfl,
      fun _ _ => rfl, fun _ _ => rfl⟩
    rw [notes, hnotes, List.reverse_append, List.reverse_reverse, notes]
  · next callback hcallback =>
    obtain ⟨first, h⟩ := answers_respond { s with
      world := m.world
      journal := (m.notes.map Line.noted).reverse ++ s.journal
      calls := m.tasks.map Call.task ++ after ++ s.calls } callback
    refine ⟨first, h.world, ?_, h.bare, ?_, h.held, h.passive, h.discreet, ?_, ?_, ?_⟩
    · -- the answer comes before the tasks of the move
      rw [h.calls]
      simp only [List.append_assoc]
    · rw [notes, h.journal, hnotes, List.reverse_append, List.reverse_reverse, notes]
    · -- there is a callback
      intro hnone
      rw [hcallback] at hnone
      cases hnone
    · -- a listener is called
      rintro hs ⟨name, event, heq⟩
      rw [hcallback] at heq
      cases heq
      exact h.unheard hs ⟨name, event, rfl⟩
    · -- an observer is called
      rintro hs ⟨tap, notice, heq⟩
      rw [hcallback] at heq
      cases heq
      exact h.unseen hs ⟨tap, notice, rfl⟩

/-! ### A step -/

theorem step_of_calls (h : s.calls = c :: calls) :
    s.step = ({ s with calls := calls }.proceed c).sweep := by
  rw [step, h]

/-- An action is performed, before the rest of its script. -/
theorem step_of_action {a : Action} {rest : List Action}
    (h : s.calls = .script (a :: rest) :: calls) :
    s.step = ({ s with calls := .script rest :: calls }.perform a).sweep :=
  step_of_calls h

/-- A task goes on, and the outside answers. -/
theorem step_of_task {task : Task} (h : s.calls = .task task :: calls) :
    s.step = ({ s with calls := calls }.absorb (s.world.advance task) []).sweep :=
  step_of_calls h

/-- A call that leaves the names and stores alone goes on. -/
theorem Absorbs.goes {s' : Session} {after first : List Call}
    (h : { s with calls := calls }.Absorbs m after first s') (hdoes : s.Does c m)
    (hafter : ∀ d ∈ after, d.task? = none) (htask : c.task? ≠ none → after = []) :
    s.Goes c calls m first after s'.sweep where
  does := hdoes
  world := by
    show s'.world.release _ _ = _
    rw [h.world]
    rfl
  calls := h.calls
  bare d hd := by
    rcases List.mem_append.mp hd with hd | hd
    · exact h.bare d hd
    · exact hafter d hd
  notes := h.notes
  unasked := h.unasked
  taskless := htask
  unheard := h.unheard
  unseen := h.unseen
  held d hd := by
    have hheld : s'.held = s.held := h.held
    exact .inl (hheld ▸ hd)
  passive hs _ := h.passive hs
  discreet hs _ := h.discreet hs

/-- A call that leaves the world alone, and brings no note. -/
theorem goes_idle (after : List Call) (journal : List Line) (hc : c.task? = none)
    (ha : c.action? = none) (hafter : ∀ d ∈ after, d.task? = none)
    (hjournal : journal.filterMap Line.note? = s.journal.filterMap Line.note?) :
    s.Goes c calls (.still s.world) [] after
      { s with calls := after ++ calls, journal := journal }.sweep := by
  have hnotes : notes { s with calls := after ++ calls, journal := journal } = s.notes ++ [] := by
    rw [List.append_nil]
    exact congrArg List.reverse hjournal
  have habs : { s with calls := calls }.Absorbs (.still s.world) after []
      { s with calls := after ++ calls, journal := journal } :=
    ⟨rfl, rfl, List.forall_mem_nil _, hnotes, rfl, id, id, fun _ => rfl, fun _ _ => rfl,
      fun _ _ => rfl⟩
  exact habs.goes (.idle hc ha) hafter fun htask => absurd hc htask

/-- An action is performed. -/
theorem goes_action {a : Action} {rest : List Action} (h : s.calls = .script (a :: rest) :: calls) :
    ∃ m first later, s.Goes (.script (a :: rest)) calls m first later s.step := by
  obtain ⟨base, m, after, heq, hbegins⟩ :=
    enacts_perform { s with calls := .script rest :: calls } a
  obtain ⟨first, habs⟩ := absorbs_absorb base m after
  rw [← heq] at habs
  refine ⟨m, first, after ++ [.script rest], ?_⟩
  rw [step_of_action h]
  refine ⟨.action hbegins.acts, ?_, ?_, ?_, ?_, habs.unasked, fun h => absurd rfl h, ?_,
    ?_, ?_, ?_, ?_⟩
  · -- the world is that of the move, and then let go
    show (perform _ a).world.release _ _ = _
    rw [habs.world]
    rfl
  · show (perform _ a).calls = _
    rw [habs.calls, hbegins.calls]
    simp only [List.append_assoc, List.singleton_append]
  · -- neither the answer of the outside nor what comes after the action is a task
    intro d hd
    rcases List.mem_append.mp hd with hd | hd
    · exact habs.bare d hd
    · rcases List.mem_append.mp hd with hd | hd
      · exact (hbegins.bare d hd).1
      · rw [List.mem_singleton.mp hd]
        rfl
  · -- beginning an action writes nothing down
    show notes (perform _ a) = _
    rw [habs.notes, notes, hbegins.journal]
    rfl
  -- an action calls the outside only to read
  · rintro - ⟨name, event, hcallback⟩
    rcases hbegins.acts.callback with hnone | hread
    · exact habs.unasked hnone
    · rw [hread] at hcallback
      cases hcallback
  · rintro - ⟨tap, notice, hcallback⟩
    rcases hbegins.acts.callback with hnone | hread
    · exact habs.unasked hnone
    · rw [hread] at hcallback
      cases hcallback
  · -- what is held has been held before the move
    intro d hd
    have hheld : (perform _ a).held = base.held := habs.held
    exact hbegins.held d (hheld ▸ hd)
  · exact fun hs hpassive => habs.passive (hbegins.listeners (hpassive a rfl) hs)
  · exact fun hs hdiscreet => habs.discreet (hbegins.taps (hdiscreet a rfl) hs)

/-- **Every step** is a move of the world, absorbed. -/
theorem goes_step (h : s.calls = c :: calls) :
    ∃ m first later, s.Goes c calls m first later s.step := by
  have hstep := step_of_calls h
  cases c with
  | script actions =>
    cases actions with
    | nil =>
      -- the script is over
      rw [hstep]
      exact ⟨_, _, _, goes_idle [] s.journal rfl rfl (List.forall_mem_nil _) rfl⟩
    | cons a rest => exact goes_action h
  | task t =>
    obtain ⟨first, habs⟩ := absorbs_absorb { s with calls := calls } (s.world.advance t) []
    rw [hstep]
    exact ⟨_, first, [], habs.goes (.task t) (List.forall_mem_nil _) fun _ => rfl⟩
  | listing verb done rest =>
    rw [hstep]
    cases rest with
    | nil =>
      -- the listings are handed over
      refine ⟨_, _, _, goes_idle [.answer verb (.listings done.reverse)] s.journal rfl rfl ?_ rfl⟩
      intro d hd
      rw [List.mem_singleton.mp hd]
      rfl
    | cons provider rest =>
      -- the next provider is read, and the outside may answer
      obtain ⟨first, habs⟩ := absorbs_absorb { s with calls := calls }
        ⟨s.world, [], some .read, []⟩
        [.listing verb (⟨provider, s.world.directory.rooms provider⟩ :: done) rest]
      refine ⟨_, first, _, habs.goes .read ?_ fun h => absurd rfl h⟩
      intro d hd
      rw [List.mem_singleton.mp hd]
      rfl
  | answer verb reply =>
    rw [hstep]
    exact ⟨_, _, _, goes_idle [] (.answered verb reply :: s.journal) rfl rfl
      (List.forall_mem_nil _) rfl⟩

/-! ### What every step keeps -/

/-- The accounts of the world balance, what is held is alive, and what is alive is in use. -/
structure Sound (s : Session) : Prop where
  accounts : s.world.Accounts
  alive : ∀ h ∈ s.held, ∃ query, s.world.query? h.2 = some query ∧ query.alive = true
  used : ∀ {q query}, s.world.query? q = some query → query.alive = true → s.usesQuery q = true

/-- A query that is held under a name is alive. -/
theorem Sound.named (hs : s.Sound) {name : String} {q : QueryId} (hq : s.query? name = some q) :
    ∃ query, s.world.query? q = some query ∧ query.alive = true := by
  obtain ⟨h, hfound, rfl⟩ := Option.map_eq_some_iff.mp hq
  exact hs.alive h (Keyed.mem_of_find? hfound)

namespace Goes

variable {first later : List Call}

/-- **What tasks bring along**, whatever it is: those of the move come before those of the calls that
are considered besides. -/
theorem flatMap_above {α : Type} (h : s.Goes c calls m first later t) (f : Task → List α)
    (above : List Call) :
    (first ++ m.tasks.map Call.task ++ later ++ above).flatMap (fun d => d.task?.elim [] f) =
      m.tasks.flatMap f ++ above.flatMap fun d => d.task?.elim [] f := by
  have htasks : (m.tasks.map Call.task).flatMap (fun d => d.task?.elim [] f) =
      m.tasks.flatMap f := by
    rw [List.flatMap_map]
    rfl
  rw [List.flatMap_append, List.flatMap_append, List.flatMap_append, htasks,
    Call.flatMap_of_bare (fun d hd => h.bare d (List.mem_append_left _ hd)) f,
    Call.flatMap_of_bare (fun d hd => h.bare d (List.mem_append_right _ hd)) f, List.append_nil,
    List.nil_append]

/-- Those of the move come before those that were in progress. -/
theorem flatMap_calls {α : Type} (h : s.Goes c calls m first later t) (f : Task → List α) :
    t.calls.flatMap (fun d => d.task?.elim [] f) =
      m.tasks.flatMap f ++ calls.flatMap fun d => d.task?.elim [] f := by
  rw [h.calls]
  exact h.flatMap_above f calls

/-- A task moves the world as it does by itself. -/
theorem move_task {task : Task} (h : s.Goes (.task task) calls m first later t) :
    m = s.world.advance task := by
  cases h.does with
  | task => rfl
  | idle hc => cases hc

/-- The move of a step is a chain of elementary changes. -/
theorem chain (h : s.Goes c calls m first later t) (hs : s.Sound) :
    World.Chain s.world m.world := by
  cases h.does with
  | task task => exact (World.advances_advance s.world task).chain
  | action hacts => exact World.chain_acts hacts hs.named
  | idle hc ha => exact .refl
  | read => exact .refl

theorem accounts (h : s.Goes c calls m first later t) (hs : s.Sound) : m.world.Accounts :=
  hs.accounts.of_chain (h.chain hs)

theorem releases (h : s.Goes c calls m first later t) (hs : s.Sound) :
    World.Releases t.usesQuery m.world t.world := by
  rw [h.world]
  exact World.releases_release (h.accounts hs) ..

/-- What all changes have in common holds for a whole step. -/
theorem later_world (h : s.Goes c calls m first later t) (hs : s.Sound) :
    World.Later s.world t.world :=
  (World.Later.of_chain hs.accounts (h.chain hs)).trans (h.releases hs).later

/-- **A step keeps a session sound.** -/
theorem sound (h : s.Goes c calls m first later t) (hs : s.Sound) : t.Sound where
  accounts := (h.releases hs).accounts
  alive := by
    intro d hd
    have hused : t.usesQuery d.2 = true := by
      rw [usesQuery, Bool.or_eq_true]
      exact .inl (List.any_eq_true.mpr ⟨d, hd, beq_self_eq_true d.2⟩)
    rw [(h.releases hs).same d.2 hused]
    rcases h.held d hd with hold | hnew
    · obtain ⟨query, hq, halive⟩ := hs.alive d hold
      obtain ⟨query', hq', heq⟩ := World.alive_of_chain hs.accounts (h.chain hs) hq
      exact ⟨query', hq', heq.trans halive⟩
    · exact hnew
  used := by
    intro q query hq halive
    rw [h.world] at hq
    exact World.inUse_of_release (h.accounts hs) hq halive

end Goes

end Session

end RoomSearch
