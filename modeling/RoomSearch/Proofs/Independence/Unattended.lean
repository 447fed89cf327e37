import RoomSearch.Proofs.Session.Log
import RoomSearch.Proofs.Session.Requests

/-!
# Sessions in which nobody interferes

Without actions in store, for when rooms are read, for listeners, or for observers, nothing comes
between the steps of a call: a step is the move of the world that the call leads to, and what the
session holds under names stays as it is until the next action is asked for.  So what an action has
settled as its answer is the last line of the journal when the session is at rest again.

## Main definitions

* `Action.isPlain` — actions that put no actions in store.
* `Action.isNoted` — actions that can change what is held.
* `Session.Unattended` — a session without actions in store.
* `Session.Plain` — such a session that can be reached.
* `Session.notebook` — the queries and subscriptions that are held, with what is in store for when
  rooms are read.
* `Session.carryOut` — an action is asked for and carried out with all that it leads to.

## Main results

* `Session.Unattended.step` — **a step without an action** is a move of the world.
* `Session.notebook_perform` — most actions leave the notebook as it is.
* `Session.Unattended.settle` — what is held stays as it is meanwhile.
* `Session.answered_settle` — an answer that has been settled comes last.
-/

namespace RoomSearch

/-- Whether an action puts actions in store for the next time that rooms are read. -/
def Action.isHook : Action → Bool
  | .afterRead _ => true
  | _ => false

/-- Whether an action can change what queries and subscriptions are held, or puts actions in store
for the next time that rooms are read. -/
def Action.isNoted : Action → Bool
  | .create .. | .drop _ | .listen .. | .afterRead _ => true
  | _ => false

/-- Whether an action puts no actions in store. -/
def Action.isPlain (a : Action) : Bool := a.isPassive && a.isDiscreet && !a.isHook

namespace Session

/-- There are no actions in store: none for the next time that rooms are read, none for listeners,
and none for observers. -/
structure Unattended (s : Session) : Prop where
  unhooked : s.hook = none
  passive : s.Passive
  discreet : s.Discreet

/-- The queries and subscriptions that are held, with what is in store for when rooms are read. -/
def notebook (s : Session) :
    List (String × QueryId) × List (String × SubscriptionId) × Option (List Action) :=
  (s.held, s.subscriptions, s.hook)

/-- An action is asked for and carried out with all that it leads to. -/
def carryOut (s : Session) (a : Action) : Session := (s.ask a).settle

variable {s t : Session} {c : Call} {calls : List Call} {m : Move} {a : Action}

theorem isPlain_iff : a.isPlain = true ↔
    a.isPassive = true ∧ a.isDiscreet = true ∧ a.isHook = false := by
  rw [Action.isPlain, Bool.and_eq_true, Bool.and_eq_true, Bool.not_eq_true', and_assoc]

/-! ### Steps without an action -/

/-- **A move is absorbed** without an answer from the outside. -/
theorem Unattended.absorb (hs : s.Unattended) (m : Move) (after : List Call) :
    s.absorb m after = s.taking m after := by
  rw [absorb_eq]
  cases m.callback with
  | none => rfl
  | some callback =>
    rw [Option.elim_some]
    cases callback with
    | read =>
      have hhook : (s.taking m after).hook = none := hs.unhooked
      rw [respond, hhook]
    | listener name event =>
      have hpassive : (s.taking m after).Passive := hs.passive
      rw [respond, reactOf_of_passive hpassive]
    | tap i notice =>
      rw [respond]
      split
      · rfl
      · next tap htap => rw [if_pos (hs.discreet tap (List.mem_of_getElem? htap))]

theorem Unattended.conclude (hs : s.Unattended) (a : Action) (m : Move) (reply : Reply) :
    s.conclude a m reply = s.taking m [.answer a.verb reply] := hs.absorb m _

theorem notes_taking (s : Session) (m : Move) (after : List Call) :
    (s.taking m after).notes = s.notes ++ m.notes := by
  have hnotes : ((m.notes.map Line.noted).reverse ++ s.journal).filterMap Line.note? =
      m.notes.reverse ++ s.journal.filterMap Line.note? := by
    rw [List.filterMap_append, ← List.map_reverse, List.filterMap_map]
    congr 1
    exact List.filterMap_some
  rw [notes, taking, hnotes, List.reverse_append, List.reverse_reverse, notes]

/-- A task goes on by its next move. -/
theorem Unattended.step_task (hs : s.Unattended) {task : Task}
    (hcalls : s.calls = .task task :: calls) :
    s.step = (taking { s with calls := calls } (s.world.advance task) []).sweep := by
  have hrest : Unattended { s with calls := calls } := ⟨hs.unhooked, hs.passive, hs.discreet⟩
  rw [step_of_task hcalls]
  exact congrArg sweep (hrest.absorb (s.world.advance task) [])

/-- **A step without an action** is a move of the world, which nothing answers. -/
theorem Unattended.step (hs : s.Unattended) (hcalls : s.calls = c :: calls)
    (hc : c.action? = none) :
    ∃ m after journal,
      s.step = (taking { s with calls := calls, journal := journal } m after).sweep ∧
      s.Does c m ∧ (∀ d ∈ after, d.task? = none ∧ d.action? = none) ∧
      journal.filterMap Line.note? = s.journal.filterMap Line.note? := by
  have hstep := step_of_calls hcalls
  have hrest : Unattended { s with calls := calls } := ⟨hs.unhooked, hs.passive, hs.discreet⟩
  have hone : ∀ {d : Call}, d.task? = none → d.action? = none →
      ∀ e ∈ [d], e.task? = none ∧ e.action? = none := by
    intro d htask haction e he
    rw [List.mem_singleton.mp he]
    exact ⟨htask, haction⟩
  cases c with
  | script actions =>
    cases actions with
    | nil =>
      exact ⟨.still s.world, [], s.journal, hstep, .idle rfl rfl, List.forall_mem_nil _, rfl⟩
    | cons a rest => cases hc
  | task task =>
    exact ⟨_, [], s.journal, hs.step_task hcalls, .task task, List.forall_mem_nil _, rfl⟩
  | listing verb done rest =>
    cases rest with
    | nil =>
      exact ⟨.still s.world, [.answer verb (.listings done.reverse)], s.journal, hstep,
        .idle rfl rfl, hone rfl rfl, rfl⟩
    | cons provider rest =>
      refine ⟨⟨s.world, [], some .read, []⟩,
        [.listing verb (⟨provider, s.world.directory.rooms provider⟩ :: done) rest], s.journal, ?_,
        .read, hone rfl rfl, rfl⟩
      rw [hstep]
      exact congrArg sweep (hrest.absorb ⟨s.world, [], some .read, []⟩ _)
  | answer verb reply =>
    exact ⟨.still s.world, [], .answered verb reply :: s.journal, hstep, .idle rfl rfl,
      List.forall_mem_nil _, rfl⟩

/-- What is in store, what is held, and that no action is to come, after a step without one. -/
theorem Unattended.keeps (hs : s.Unattended) (hbare : ∀ c ∈ s.calls, c.action? = none)
    (hbusy : s.calls ≠ []) :
    s.step.Unattended ∧ (∀ c ∈ s.step.calls, c.action? = none) ∧
      s.step.notebook = s.notebook := by
  obtain ⟨c, calls, hcalls⟩ := List.exists_cons_of_ne_nil hbusy
  rw [hcalls] at hbare
  obtain ⟨m, after, journal, hstep, -, hafter, -⟩ := hs.step hcalls (hbare c List.mem_cons_self)
  rw [hstep]
  refine ⟨⟨hs.unhooked, hs.passive, hs.discreet⟩, ?_, rfl⟩
  intro d hd
  rcases List.mem_append.mp hd with hd | hd
  · rcases List.mem_append.mp hd with hd | hd
    · obtain ⟨task, -, rfl⟩ := List.mem_map.mp hd
      rfl
    · exact (hafter d hd).2
  · exact hbare d (List.mem_cons_of_mem c hd)

/-- **What is held stays as it is** until the session is at rest. -/
theorem Unattended.settle (hs : s.Unattended) (hbare : ∀ c ∈ s.calls, c.action? = none) :
    s.settle.Unattended ∧ s.settle.notebook = s.notebook := by
  have hkeeps := settle_of_step
    (P := fun t => t.Unattended ∧ (∀ c ∈ t.calls, c.action? = none) ∧ t.notebook = s.notebook)
    (fun t hbusy ⟨ht, hcalls, hnotebook⟩ => by
      obtain ⟨hstep, hcalls', hnotebook'⟩ := ht.keeps hcalls hbusy
      exact ⟨hstep, hcalls', hnotebook'.trans hnotebook⟩) ⟨hs, hbare, rfl⟩
  exact ⟨hkeeps.1, hkeeps.2.2⟩

/-! ### Actions -/

theorem hook_of_notebook (h : t.notebook = s.notebook) : t.hook = s.hook :=
  congrArg (fun x => x.2.2) h

theorem notebook_absorb (h : s.hook = none) (m : Move) (after : List Call) :
    (s.absorb m after).notebook = s.notebook := by
  have htaking : (s.taking m after).hook = none := h
  rw [absorb_eq]
  cases m.callback with
  | none => rfl
  | some callback =>
    rw [Option.elim_some]
    cases callback with
    | read =>
      rw [respond, htaking]
      rfl
    | listener name event =>
      rw [respond]
      split <;> rfl
    | tap i notice =>
      rw [respond]
      split
      · rfl
      · split <;> rfl

theorem notebook_answer (h : s.hook = none) (a : Action) (reply : Reply) :
    (s.answer a reply).notebook = s.notebook := notebook_absorb h _ _

theorem notebook_withQuery (h : s.hook = none) {name : String} {f : QueryId → Session}
    (hf : ∀ q, (f q).notebook = s.notebook) : (s.withQuery a name f).notebook = s.notebook := by
  unfold withQuery
  split
  · exact notebook_answer h ..
  · exact hf _

theorem notebook_withBus (h : s.hook = none) {name : String} {f : BusId → Session}
    (hf : ∀ b, (f b).notebook = s.notebook) : (s.withBus a name f).notebook = s.notebook := by
  unfold withBus
  split
  · exact notebook_answer h ..
  · exact hf _

theorem notebook_withReceiver (h : s.hook = none) {name : String}
    {f : BusId → ReaderId → Session} (hf : ∀ b r, (f b r).notebook = s.notebook) :
    (s.withReceiver a name f).notebook = s.notebook := by
  unfold withReceiver
  split
  · exact notebook_answer h ..
  · exact hf _ _

theorem notebook_readBus (s : Session) (b : BusId) (r : ReaderId) :
    (s.readBus b r).2.1.notebook = s.notebook := by
  unfold readBus
  split <;> rfl

theorem notebook_endReader (s : Session) (name : String) :
    (s.endReader name).notebook = s.notebook := by
  unfold endReader
  split <;> rfl

/-- An action whose answer is settled, and that has changed nothing that is in the notebook. -/
theorem notebook_conclude (h : s.hook = none) {base : Session} (hbase : base.notebook = s.notebook)
    (a : Action) (m : Move) (reply : Reply) : (base.conclude a m reply).notebook = s.notebook := by
  exact (notebook_absorb ((hook_of_notebook hbase).trans h) m _).trans hbase

/-- **Most actions** leave the notebook as it is. -/
theorem notebook_perform (h : s.hook = none) (ha : a.isNoted = false) :
    (s.perform a).notebook = s.notebook := by
  cases a with
  -- the actions that write in the notebook
  | create | drop | listen | afterRead => cases ha
  | run name | start name | cancel name | setStatus name status =>
    exact notebook_withQuery h fun q => notebook_absorb h _ _
  | find name address | indexOf name address =>
    exact notebook_withQuery h fun q => notebook_answer h ..
  | unlisten name subscription =>
    apply notebook_withQuery h
    intro q
    split
    · exact notebook_answer h ..
    · exact notebook_absorb h _ _
  -- the service may be made for this, and is not in the notebook
  | presence m provider room identifier change =>
    rw [perform]
    split
    · apply notebook_conclude h
      rfl
    · apply notebook_conclude h
      rfl
  | tap target name uses steps =>
    have htarget : (s.targetOf target).1.notebook = s.notebook := by
      cases target <;> rfl
    rw [perform]
    revert htarget
    generalize s.targetOf target = found
    intro htarget
    dsimp only
    split
    · exact notebook_conclude h htarget ..
    · apply notebook_conclude h
      exact htarget
  | bus name size =>
    rw [perform]
    split
    · exact notebook_answer h ..
    · apply notebook_conclude h
      rfl
  | publish name event => exact notebook_withBus h fun b => notebook_absorb h _ _
  | receivers name => exact notebook_withBus h fun b => notebook_answer h ..
  -- a reader that was held under the name before is ended
  | receiver busName name =>
    rw [perform]
    apply notebook_withBus h
    intro b
    dsimp only
    split
    · exact notebook_answer h ..
    · apply notebook_conclude h
      exact notebook_endReader ..
  | receiverDrop name =>
    apply notebook_conclude h
    exact notebook_endReader s name
  | tryReceive name =>
    exact notebook_withReceiver h fun b r => notebook_conclude h (notebook_readBus s b r) ..
  | receive name =>
    rw [perform]
    apply notebook_withReceiver h
    intro b r
    dsimp only
    split <;> exact notebook_conclude h (notebook_readBus s b r) ..
  | directory => rfl
  | overview | source | active | busDrop name =>
    apply notebook_conclude h
    rfl
  | _ =>
    apply notebook_conclude h
    rfl

/-- A subscription is held under its name at once. -/
theorem subscribe_eq (s : Session) (a : Action) (q : QueryId) (subscriber : Subscriber)
    (name : String) : s.subscribe a q subscriber name =
      conclude
        { s with subscriptions :=
            Keyed.insert Prod.fst (name, (s.world.subscribe q subscriber).2) s.subscriptions }
        a (.still (s.world.subscribe q subscriber).1) .done := rfl

/-- Only one kind of action puts anything in store for when rooms are read. -/
theorem hook_perform (h : s.hook = none) (ha : a.isHook = false) : (s.perform a).hook = none := by
  have habsorb : ∀ {base : Session}, base.hook = none → ∀ m after,
      (base.absorb m after).hook = none := fun hbase m after =>
    (hook_of_notebook (notebook_absorb hbase m after)).trans hbase
  by_cases hnoted : a.isNoted = false
  · exact (hook_of_notebook (notebook_perform h hnoted)).trans h
  · cases a with
    | afterRead steps => cases ha
    | create name text isTracked | drop name =>
      refine habsorb ?_ _ _
      exact h
    | listen name listener subscription reactions bus =>
      rw [perform, withQuery]
      split
      · exact habsorb h _ _
      · cases bus with
        | none =>
          refine habsorb ?_ _ _
          exact h
        | some bus =>
          dsimp only
          rw [withBus]
          split
          · exact habsorb h _ _
          · refine habsorb ?_ _ _
            exact h
    | _ => exact absurd rfl hnoted

/-- **A plain action** puts nothing in store. -/
theorem Unattended.perform (hs : s.Unattended) (ha : a.isPlain = true) :
    (s.perform a).Unattended := by
  obtain ⟨base, m, after, heq, hbegins⟩ := enacts_perform s a
  obtain ⟨first, habs⟩ := absorbs_absorb base m after
  obtain ⟨hpassive, hdiscreet, hhook⟩ := isPlain_iff.mp ha
  refine ⟨hook_perform hs.unhooked hhook, ?_, ?_⟩
  · rw [heq]
    exact habs.passive (hbegins.listeners hpassive hs.passive)
  · rw [heq]
    exact habs.discreet (hbegins.taps hdiscreet hs.discreet)

/-! ### Sessions that can be reached -/

/-- A session that can be reached, without actions in store. -/
structure Plain (s : Session) : Prop extends Unattended s where
  reachable : Reachable Unrestricted s

namespace Plain

theorem sound (hs : s.Plain) : s.Sound := sound_of_reachable hs.reachable

/-- One more step, without an action. -/
theorem step (hs : s.Plain) (hcalls : s.calls = c :: calls) (hc : c.action? = none) :
    s.step.Plain := by
  obtain ⟨m, after, journal, hstep, -⟩ := hs.toUnattended.step hcalls hc
  refine ⟨?_, hs.reachable.leads (.single (.step hcalls fun _ _ => trivial))⟩
  rw [hstep]
  exact ⟨hs.unhooked, hs.passive, hs.discreet⟩

/-- The first step of an action. -/
theorem begin (hs : s.Plain) (hrest : s.calls = []) (ha : a.isPlain = true) :
    (s.ask a).step.Plain := by
  refine ⟨?_, ?_⟩
  · have hasked : Unattended { s with calls := [.script []] } :=
      ⟨hs.unhooked, hs.passive, hs.discreet⟩
    have hperformed := hasked.perform ha
    have hscript : (s.ask a).calls = .script [a] :: [] := rfl
    rw [step_of_action hscript]
    exact ⟨hperformed.unhooked, hperformed.passive, hperformed.discreet⟩
  · exact hs.reachable.leads (leads_ask a 1 hrest fun _ _ _ _ => trivial)

theorem settle (hs : s.Plain) (hbare : ∀ c ∈ s.calls, c.action? = none) : s.settle.Plain := by
  refine ⟨(hs.toUnattended.settle hbare).1, ?_⟩
  obtain ⟨n, hn⟩ := exists_settle_eq_steps s
  rw [hn]
  exact hs.reachable.leads (leads_steps n fun _ _ _ _ => trivial)

end Plain

/-! ### Answers -/

/-- At rest after all these steps. -/
theorem settle_steps (s : Session) (n : Nat) : (s.steps n).settle = s.settle := by
  induction n generalizing s with
  | zero => rfl
  | succ n ih =>
    rw [steps, ih]
    by_cases hrest : s.calls = []
    · rw [Session.step, hrest]
    · rw [Session.settle.eq_def s, dif_neg hrest]

/-- **An answer that has been settled** is the last line of the journal at rest. -/
theorem answered_settle {above : List Call} {verb : String} {reply : Reply}
    (h : s.calls = above ++ [.answer verb reply, .script []]) :
    s.settle.journal.head? = some (.answered verb reply) := by
  obtain ⟨n, hn, -⟩ := exists_steps_calls h
  rw [← settle_steps s n]
  revert hn
  generalize s.steps n = t
  intro ht
  have hstep : t.step = sweep { t with
      calls := [.script []], journal := .answered verb reply :: t.journal } := by
    rw [Session.step, ht]
    rfl
  have hlast : (t.steps 2).calls = [] ∧
      (t.steps 2).journal = .answered verb reply :: t.journal := by
    rw [steps, steps, steps, hstep]
    exact ⟨rfl, rfl⟩
  rw [← settle_steps t 2, Session.settle, dif_pos hlast.1, hlast.2]
  rfl

end Session

end RoomSearch
