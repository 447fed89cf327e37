import RoomSearch.Proofs.Independence.Together

/-!
# Queries do not interfere

A script acts on many queries, which share the directory, the registry, the services and the feeds
of all of these.  What is left of it when the actions on other queries are taken out is the part
that one query has in the script.  An action acts on the query that its name stands for when it is
performed.  Making a query under the name of another one also lets go of that one, so of such an
action the letting go is left.

The part of a query is performed in a session of its own.  The query is the first one there, and
subscriptions have other identities.  A subscription is held there under a name that is made from
its identity in the session with all actions, so scripts may use a name again for a subscription to
another query.

An action that is taken out leaves the two sessions side by side, and an action that is left is
performed in both with the same answer.  So at the end, and before it whenever the session is at
rest, all that can be seen of the query is the same in both.

## Main definitions

* `SubscriptionId.tag` — the name that a subscription is held under in the session of one query.
* `Session.part`, `Session.parts` — the part that a query has in an action, and in a script.
* `Session.translates` — which identity of a subscription stands for which.
* `Session.Abreast` — the session with all actions and the session of one query, at rest.
* `Session.Echoes` — an action in the one and what is left of it in the other.
* `Session.Reflects` — what can be seen of a query in one session is what can be seen in the other.

## Main results

* `Session.Abreast.carryOut` — **one action** of the script.
* `Session.queries_independent` — **queries do not interfere.**
-/

namespace RoomSearch

/-- A text that tells a subscription from all others. -/
def SubscriptionId.tag (id : SubscriptionId) : String :=
  String.ofList (List.replicate (id.number + 1) 's')

theorem SubscriptionId.tag_inj {id id' : SubscriptionId} : id.tag = id'.tag ↔ id = id' := by
  refine ⟨?_, congrArg tag⟩
  intro h
  have hlength := congrArg (fun text => text.toList.length) h
  simp only [tag, String.toList_ofList, List.length_replicate] at hlength
  obtain ⟨number⟩ := id
  exact congrArg mk (Nat.succ.inj hlength)

theorem SubscriptionId.tag_ne_empty (id : SubscriptionId) : id.tag ≠ "" := by
  intro h
  have hlength := congrArg (fun text => text.toList.length) h
  simp [tag] at hlength

/-- The name of the query that an action is a call on. -/
def Action.callee? (a : Action) : Option String := a.subject?.or a.request?

/-- The answer that a line of the journal gives. -/
def Line.reply? : Line → Option Reply
  | .answered _ reply => some reply
  | .noted _ => none

namespace Session

/-- Whether another query is held under a name. -/
def holdsOther (s : Session) (q : QueryId) (name : String) : Bool :=
  (s.query? name).any fun p => p != q

/-- The same action, with names for subscriptions that are made from their identities. -/
def relabel (s : Session) : Action → Action
  | .listen name listener _ reactions bus =>
    .listen name listener s.world.nextSubscription.tag reactions bus
  | .unlisten name handle =>
    .unlisten name ((s.subscription? handle).elim "" SubscriptionId.tag)
  | a => a

/-- **The part that a query has in an action**: none if the action acts on another query. -/
def part (s : Session) (q : QueryId) (a : Action) : Option Action :=
  match a with
  | .create name _ _ =>
    if s.world.queries.length = q.index then some a
    -- the query that was held under the name is held no longer
    else if s.query? name = some q then some (.drop name)
    else none
  | _ => if a.subject?.any (s.holdsOther q) then none else some (s.relabel a)

/-- The action is a call on the query, or makes it. -/
def Addresses (s : Session) (q : QueryId) (a : Action) : Prop :=
  match a with
  | .create .. => s.world.queries.length = q.index
  | _ => a.callee?.bind s.query? = some q

/-- Actions are asked for one after the other, and carried out with all that they lead to. -/
def carryOutAll (s : Session) (actions : List Action) : Session := actions.foldl carryOut s

/-- **The part that a query has in a script.** -/
def parts (q : QueryId) : Session → List Action → List Action
  | _, [] => []
  | s, a :: rest => (s.part q a).toList ++ parts q (s.carryOut a) rest

/-- Which identity stands for which: the one that is held under the name made from the other. -/
def translates (t : Session) : Translation := fun id id' => t.subscription? id.tag = some id'

/-- The session in the middle of an action, before anything of it has been done. -/
def begun (s : Session) : Session := { s with calls := [.script []] }

/-- What is held in the session of one query, while identities below `next` and `next'` have been
given out: the query alone, and subscriptions under names that are made from identities. -/
structure Files (t : Session) (next next' : SubscriptionId) : Prop where
  sole : ∀ {name p}, t.query? name = some p → p = ⟨0⟩
  unbound : t.subscription? "" = none
  injective : ∀ {i j id'}, t.translates i id' → t.translates j id' → i = j
  issued : ∀ {id id'}, t.translates id id' → id.number < next.number ∧ id'.number < next'.number

/-- The session `s` with all actions and the session `t` of the query `q`, both at rest. -/
structure Abreast (q : QueryId) (s t : Session) : Prop where
  mirrors : s.Mirrors t.translates q ⟨0⟩ t
  left : s.Plain
  right : t.Plain
  rest : s.calls = []
  rest' : t.calls = []
  files : t.Files s.world.nextSubscription t.world.nextSubscription

/-- What the session `t` holds after the first step of `a'`, when the session `s` has taken the
first step of `a`. -/
def FilesAfter (s : Session) (a : Action) (t : Session) (a' : Action) : Prop :=
  (t.begun.perform a').Files (s.ask a).step.world.nextSubscription
    (t.ask a').step.world.nextSubscription

/-- The action `a'` is to the session `t` of the query what `a` is to the session `s` with all
actions, and has the same answer. -/
structure Echoes (q : QueryId) (s : Session) (a : Action) (t : Session) (a' : Action) : Prop where
  agree : Agree (t.begun.perform a').translates q ⟨0⟩ s.begun a t.begun a'
  files : FilesAfter s a t a'

variable {q p : QueryId} {s t t' : Session} {a a' : Action} {name : String}
  {next next' later later' : SubscriptionId}

theorem carryOutAll_append (s : Session) (actions later : List Action) :
    s.carryOutAll (actions ++ later) = (s.carryOutAll actions).carryOutAll later :=
  List.foldl_append

/-! ### What the session of one query holds -/

theorem translates_congr (h : t'.subscriptions = t.subscriptions) :
    t'.translates = t.translates := by
  funext id id'
  rw [translates, subscription?, h, translates, subscription?]

theorem Files.congr (h : t.Files next next') (hsubscriptions : t'.subscriptions = t.subscriptions)
    (hsole : ∀ {name p}, t'.query? name = some p → p = ⟨0⟩)
    (hlater : next.number ≤ later.number) (hlater' : next'.number ≤ later'.number) :
    t'.Files later later' where
  sole := hsole
  unbound := by
    rw [subscription?, hsubscriptions]
    exact h.unbound
  injective hi hj := by
    rw [translates_congr hsubscriptions] at hi hj
    exact h.injective hi hj
  issued hid := by
    rw [translates_congr hsubscriptions] at hid
    obtain ⟨hlt, hlt'⟩ := h.issued hid
    exact ⟨by omega, by omega⟩

/-- A subscription is held under the name that is made from an identity. -/
theorem subscription?_hold (t : Session) (id id' : SubscriptionId) (handle : String) :
    subscription? { t with subscriptions := Keyed.insert Prod.fst (id.tag, id') t.subscriptions }
      handle = if id.tag = handle then some id' else t.subscription? handle := by
  rw [subscription?, Keyed.find?_insert]
  split <;> rfl

/-- Which identity stands for which when one more subscription is held. -/
theorem translates_hold
    (h : t'.subscriptions = Keyed.insert Prod.fst (next.tag, next') t.subscriptions)
    {id id' : SubscriptionId} :
    t'.translates id id' ↔ if next = id then id' = next' else t.translates id id' := by
  have hhandle : t'.subscription? id.tag =
      if next.tag = id.tag then some next' else t.subscription? id.tag := by
    rw [← subscription?_hold, subscription?, h]
    rfl
  rw [translates, hhandle]
  by_cases heq : next = id
  · rw [if_pos heq, if_pos (congrArg _ heq), Option.some.injEq]
    exact eq_comm
  · rw [if_neg heq, if_neg (mt SubscriptionId.tag_inj.mp heq)]
    rfl

/-- **A new subscription** is held, with the next identity of either session. -/
theorem Files.hold (h : t.Files next next')
    (hsubscriptions : t'.subscriptions = Keyed.insert Prod.fst (next.tag, next') t.subscriptions)
    (hheld : t'.held = t.held) (hlater : next.number < later.number)
    (hlater' : next'.number < later'.number) :
    t'.Files later later' ∧ (∀ {id id'}, t.translates id id' → t'.translates id id') ∧
      t'.translates next next' := by
  have hwhich : ∀ {id id'}, t'.translates id id' ↔
      if next = id then id' = next' else t.translates id id' := translates_hold hsubscriptions
  -- neither identity has been given out before
  have hunused : ∀ {id'}, ¬ t.translates next id' := fun hid => Nat.lt_irrefl _ (h.issued hid).1
  have hunused' : ∀ {id}, ¬ t.translates id next' := fun hid => Nat.lt_irrefl _ (h.issued hid).2
  refine ⟨⟨?_, ?_, ?_, ?_⟩, ?_, ?_⟩
  · -- queries are held as before
    intro name p hp
    rw [query?, hheld] at hp
    exact h.sole hp
  · -- no name that is made from an identity is empty
    have hhandle := subscription?_hold t next next' ""
    rw [if_neg next.tag_ne_empty, h.unbound] at hhandle
    rw [subscription?, hsubscriptions]
    exact hhandle
  · -- the second identity is new, so it stands for nothing else
    intro i j id' hi hj
    rw [hwhich] at hi hj
    split at hi
    · next hni =>
      subst hi
      split at hj
      · next hnj => exact hni.symm.trans hnj
      · exact absurd hj hunused'
    · split at hj
      · subst hj
        exact absurd hi hunused'
      · exact h.injective hi hj
  · -- what has been given out is older than what comes later
    intro id id' hid
    rw [hwhich] at hid
    split at hid
    · next heq =>
      subst heq
      subst hid
      exact ⟨hlater, hlater'⟩
    · obtain ⟨hlt, hlt'⟩ := h.issued hid
      exact ⟨by omega, by omega⟩
  · intro id id' hid
    have hne : next ≠ id := by
      rintro rfl
      exact hunused hid
    rw [hwhich, if_neg hne]
    exact hid
  · rw [hwhich, if_pos rfl]

/-! ### One action -/

theorem carryOut_eq (s : Session) (a : Action) : s.carryOut a = (s.ask a).step.settle :=
  (settle_steps (s.ask a) 1).symm

theorem step_ask (s : Session) (a : Action) : (s.ask a).step = (s.begun.perform a).sweep := by
  have hscript : (s.ask a).calls = .script [a] :: [] := rfl
  exact step_of_action hscript

theorem query?_of_notebook (h : t'.notebook = t.notebook) (name : String) :
    t'.query? name = t.query? name := by
  rw [query?, (Prod.mk.inj h).1, query?]

theorem subscriptions_of_notebook (h : t'.notebook = t.notebook) :
    t'.subscriptions = t.subscriptions := (Prod.mk.inj (Prod.mk.inj h).2).1

theorem Plain.later_step (hs : s.Plain) (hrest : s.calls = []) (a : Action) :
    s.world.nextSubscription.number ≤ (s.ask a).step.world.nextSubscription.number := by
  have hleads : Leads Unrestricted s ((s.ask a).steps 1) :=
    leads_ask a 1 hrest fun _ _ _ _ => trivial
  exact (hs.sound.later hleads).next

theorem Plain.later_settle (hs : s.Plain) :
    s.world.nextSubscription.number ≤ s.settle.world.nextSubscription.number := by
  obtain ⟨n, hn⟩ := exists_settle_eq_steps s
  have hleads : Leads Unrestricted s (s.steps n) := leads_steps n fun _ _ _ _ => trivial
  rw [hn]
  exact (hs.sound.later hleads).next

/-- Nothing that is held changes after the first step of an action. -/
theorem Plain.notebook_carryOut (hs : s.Plain) (hrest : s.calls = []) (ha : a.isPlain = true)
    (hbare : ∀ c ∈ (s.ask a).step.calls, c.action? = none) :
    (s.carryOut a).Plain ∧ (s.carryOut a).notebook = (s.begun.perform a).notebook := by
  have hbegun := hs.begin hrest ha
  rw [carryOut_eq]
  refine ⟨hbegun.settle hbare, ?_⟩
  rw [(hbegun.toUnattended.settle hbare).2, step_ask]
  rfl

/-- A listener for a bus that is not there changes nothing that is held. -/
theorem notebook_listen_of_noBus (ht : t.hook = none) (hq : t.query? name = some q) {bus : String}
    (hbus : t.bus? bus = none) (listener subscription : String)
    (reactions : List (Reaction Action)) :
    (t.begun.perform (.listen name listener subscription reactions (some bus))).notebook =
      t.notebook := by
  have hquery : t.begun.query? name = some q := hq
  have hnobus : t.begun.bus? bus = none := hbus
  rw [perform, withQuery_of_some hquery]
  dsimp only
  rw [withBus_of_none hnobus]
  exact notebook_answer (s := t.begun) ht ..

/-- A new subscription is held under its name. -/
theorem notebook_listen (ht : t.Unattended) (hq : t.query? name = some q) {bus : Option String}
    (hbus : ∀ b, bus = some b → (t.bus? b).isSome = true) (listener subscription : String)
    {reactions : List (Reaction Action)} (hreactions : reactions = []) :
    (t.begun.perform (.listen name listener subscription reactions bus)).notebook =
      notebook { t with
        subscriptions :=
          Keyed.insert Prod.fst (subscription, t.world.nextSubscription) t.subscriptions } := by
  obtain ⟨subscriber, listeners, -, hperform⟩ :=
    perform_listen (s := t.begun) hq ht.passive hbus listener subscription hreactions
  rw [hperform]
  apply notebook_absorb
  exact ht.unhooked

/-- A new subscriber takes the next identity. -/
theorem Plain.lt_listen (hs : s.Plain) (hq : s.query? name = some q) {bus : Option String}
    (hbus : ∀ b, bus = some b → (s.bus? b).isSome = true) (listener subscription : String)
    {reactions : List (Reaction Action)} (hreactions : reactions = []) :
    s.world.nextSubscription.number <
      (s.ask (.listen name listener subscription reactions bus)).step.world.nextSubscription.number
    := by
  obtain ⟨query, hquery, halive⟩ := hs.sound.named hq
  obtain ⟨subscriber, listeners, -, hperform⟩ :=
    perform_listen (s := s.begun) hq hs.passive hbus listener subscription hreactions
  have hamends := hs.sound.accounts.subscribe hquery halive subscriber
  obtain ⟨attachment, hfound⟩ := hamends.found
  have hlt : s.world.nextSubscription.number <
      (s.world.subscribe q subscriber).1.nextSubscription.number :=
    hamends.accounts.given hfound (List.mem_append_right _ List.mem_cons_self)
  rw [step_ask, hperform]
  refine Nat.lt_of_lt_of_le hlt ?_
  show _ ≤ (World.release (Session.world (conclude ..)) _ _).nextSubscription.number
  rw [world_conclude]
  exact (World.releases_release hamends.accounts _ _).later.next

/-! ### Parts of actions -/

theorem part_of_subject? (h : a.subject? = some name) :
    s.part q a = if s.holdsOther q name then none else some (s.relabel a) := by
  cases a with
  | drop | run | start | cancel | setStatus | listen | unlisten =>
    cases h
    rfl
  | _ => cases h

theorem part_of_shared (h : a.subject? = none)
    (hcreate : ∀ name text isTracked, a ≠ .create name text isTracked) : s.part q a = some a := by
  cases a with
  | drop | run | start | cancel | setStatus | listen | unlisten => cases h
  | create name text isTracked => exact absurd rfl (hcreate name text isTracked)
  | _ => rfl

namespace Abreast

theorem begun (h : Abreast q s t) : s.begun.Mirrors t.translates q ⟨0⟩ t.begun := by
  have hbare : ∀ {q : QueryId}, ∀ c ∈ [Call.script []], c.Spares q := by
    intro q c hc
    rw [List.mem_singleton.mp hc]
    rfl
  exact h.mirrors.withCalls (.bare hbare hbare) rfl rfl

/-- The session of the query rests. -/
theorem begunLeft (h : Abreast q s t) : s.begun.Mirrors t.translates q ⟨0⟩ t := by
  have hcalls : MirroredCalls t.translates q ⟨0⟩ [.script []] t.calls := by
    rw [h.rest']
    exact .left rfl .nil
  exact h.mirrors.withCalls hcalls rfl rfl

/-- **An action that is taken out** leaves the sessions side by side. -/
theorem skip (h : Abreast q s t) (ha : a.isPlain = true)
    (hm : (s.begun.perform a).Mirrors t.translates q ⟨0⟩ t) : Abreast q (s.carryOut a) t := by
  have hstep : (s.ask a).step.Mirrors t.translates q ⟨0⟩ t := by
    rw [step_ask]
    exact hm.sweepLeft h.right.sound
  have hbegun := h.left.begin h.rest ha
  have hplain := (h.left.notebook_carryOut h.rest ha hstep.calls.action?).1
  have hsettle := hstep.settle hbegun h.right
  rw [Session.settle.eq_def t, dif_pos h.rest', ← carryOut_eq] at hsettle
  have hlater : s.world.nextSubscription.number ≤
      (s.carryOut a).world.nextSubscription.number := by
    rw [carryOut_eq]
    exact Nat.le_trans (h.left.later_step h.rest a) hbegun.later_settle
  exact ⟨hsettle, hplain, h.right, calls_settle _, h.rest',
    h.files.congr rfl h.files.sole hlater (Nat.le_refl _)⟩

/-- **An action that is left** leaves the sessions side by side. -/
theorem keep (h : Abreast q s t) (ha : a.isPlain = true) (ha' : a'.isPlain = true)
    (hm : (s.begun.perform a).Mirrors (t.begun.perform a').translates q ⟨0⟩ (t.begun.perform a'))
    (hfiles : FilesAfter s a t a') : Abreast q (s.carryOut a) (t.carryOut a') := by
  have hstep : (s.ask a).step.Mirrors (t.begun.perform a').translates q ⟨0⟩ (t.ask a').step := by
    rw [step_ask, step_ask]
    exact hm.sweep
  have hbegun := h.left.begin h.rest ha
  have hbegun' := h.right.begin h.rest' ha'
  obtain ⟨hplain, -⟩ := h.left.notebook_carryOut h.rest ha hstep.calls.action?
  obtain ⟨hplain', hnotebook⟩ := h.right.notebook_carryOut h.rest' ha' hstep.symm.calls.action?
  have hsubscriptions := subscriptions_of_notebook hnotebook
  have hsettle := hstep.settle hbegun hbegun'
  rw [← carryOut_eq, ← carryOut_eq, ← translates_congr hsubscriptions] at hsettle
  refine ⟨hsettle, hplain, hplain', calls_settle _, calls_settle _, ?_⟩
  rw [carryOut_eq s]
  refine hfiles.congr hsubscriptions ?_ hbegun.later_settle ?_
  · intro name p hp
    rw [query?_of_notebook hnotebook] at hp
    exact hfiles.sole hp
  · rw [carryOut_eq t]
    exact hbegun'.later_settle

/-- What is held in the session of the query after the first step of an action that has changed no
subscription that is held. -/
theorem files_of_subscriptions (h : Abreast q s t)
    (hsubscriptions : (t.begun.perform a').subscriptions = t.subscriptions)
    (hsole : ∀ {name p}, (t.begun.perform a').query? name = some p → p = ⟨0⟩) :
    FilesAfter s a t a' :=
  h.files.congr hsubscriptions hsole (h.left.later_step h.rest a) (h.right.later_step h.rest' a')

theorem files_of_notebook (h : Abreast q s t)
    (hnotebook : (t.begun.perform a').notebook = t.notebook) : FilesAfter s a t a' := by
  refine h.files_of_subscriptions (subscriptions_of_notebook hnotebook) ?_
  intro name p hp
  rw [query?_of_notebook hnotebook] at hp
  exact h.files.sole hp

/-- An action that is left and changes nothing that is held. -/
theorem keepNotebook (h : Abreast q s t) (ha : a.isPlain = true) (ha' : a'.isPlain = true)
    (hm : (s.begun.perform a).Mirrors t.translates q ⟨0⟩ (t.begun.perform a'))
    (hnotebook : (t.begun.perform a').notebook = t.notebook) :
    Abreast q (s.carryOut a) (t.carryOut a') := by
  refine h.keep ha ha' ?_ (h.files_of_notebook hnotebook)
  rw [translates_congr (subscriptions_of_notebook hnotebook)]
  exact hm

/-- A query that is held is held under the same name in the session of its own. -/
theorem named (h : Abreast q s t) (hq : s.query? name = some q) : t.query? name = some ⟨0⟩ :=
  (h.mirrors.held name).mpr hq

/-- Nothing else is held there. -/
theorem unnamed (h : Abreast q s t) (hq : s.query? name ≠ some q) : t.query? name = none := by
  cases hp : t.query? name with
  | none => rfl
  | some p =>
    rw [h.files.sole hp] at hp
    exact absurd ((h.mirrors.held name).mp hp) hq

/-! ### Calls on the query -/

/-- **The query is made.** -/
theorem create (h : Abreast q s t) (hindex : s.world.queries.length = q.index)
    (name text : String) (isTracked : Bool) :
    Echoes q s (.create name text isTracked) t (.create name text isTracked) := by
  have hindex' : t.world.queries.length = 0 := by
    have hnone : s.world.query? q = none := List.getElem?_eq_none_iff.mpr (by omega)
    have hnone' := List.getElem?_eq_none_iff.mp (h.mirrors.world.query?_eq_none hnone)
    exact Nat.le_zero.mp hnone'
  have hnotebook : (t.begun.perform (.create name text isTracked)).notebook =
      notebook
        { t with held := Keyed.insert Prod.fst (name, ⟨t.world.queries.length⟩) t.held } := by
    apply notebook_absorb
    exact h.right.unhooked
  have hsubscriptions := subscriptions_of_notebook hnotebook
  refine ⟨?_, h.files_of_subscriptions hsubscriptions ?_⟩
  · rw [translates_congr hsubscriptions]
    exact h.begun.create (h.left.ready _) (h.right.ready _) hindex.symm hindex'.symm name text
      isTracked
  · intro other p hp
    rw [query?_of_notebook hnotebook] at hp
    have hwhich := query?_hold t t.labels name other ⟨t.world.queries.length⟩
    rw [hindex'] at hwhich hp
    rw [hwhich] at hp
    split at hp
    · exact (Option.some.inj hp).symm
    · exact h.files.sole hp

theorem notebook_drop (h : t.hook = none) (name : String) :
    (t.begun.perform (.drop name)).notebook =
      notebook { t with held := Keyed.erase Prod.fst name t.held } := by
  apply notebook_absorb
  exact h

/-- Nothing else is held in the session of the query after something is held no longer. -/
theorem files_drop (h : Abreast q s t) (name : String) :
    (t.begun.perform (.drop name)).subscriptions = t.subscriptions ∧
      FilesAfter s a t (.drop name) := by
  have hnotebook := notebook_drop h.right.unhooked name
  have hsubscriptions : (t.begun.perform (.drop name)).subscriptions = t.subscriptions := by
    have hsame := subscriptions_of_notebook hnotebook
    exact hsame
  refine ⟨hsubscriptions, h.files_of_subscriptions hsubscriptions ?_⟩
  intro other p hp
  rw [query?_of_notebook hnotebook, query?_letGo] at hp
  split at hp
  · cases hp
  · exact h.files.sole hp

/-- **The query gets a subscriber**, unless there is no such bus. -/
theorem listen (h : Abreast q s t) (hq : s.query? name = some q)
    (listener subscription : String) {reactions : List (Reaction Action)}
    (hreactions : reactions = []) (bus : Option String) :
    Echoes q s (.listen name listener subscription reactions bus) t
      (.listen name listener s.world.nextSubscription.tag reactions bus) := by
  have hq' := h.named hq
  have hs := h.left.ready [.script []]
  have ht := h.right.ready [.script []]
  by_cases hfails : ∃ b, bus = some b ∧ s.bus? b = none
  · obtain ⟨b, rfl, hbus⟩ := hfails
    -- there is no such bus in either session
    have hagree := h.begun.listenFails hs.toUnattended ht.toUnattended hq hq' hbus listener
      subscription s.world.nextSubscription.tag reactions
    have hbus' : t.bus? b = none := by
      rw [← Option.not_isSome_iff_eq_none, h.mirrors.buses, hbus]
      exact Bool.false_ne_true
    have hnotebook := notebook_listen_of_noBus h.right.unhooked hq' hbus' listener
      s.world.nextSubscription.tag reactions
    refine ⟨?_, h.files_of_notebook hnotebook⟩
    rw [translates_congr (subscriptions_of_notebook hnotebook)]
    exact hagree
  · have hbus : ∀ b, bus = some b → (s.bus? b).isSome = true := by
      intro b hb
      rw [Option.isSome_iff_ne_none]
      exact fun hnone => hfails ⟨b, hb, hnone⟩
    have hbus' : ∀ b, bus = some b → (t.bus? b).isSome = true := by
      intro b hb
      rw [h.mirrors.buses]
      exact hbus b hb
    -- the new subscription is held in both sessions, under corresponding names
    obtain ⟨query, hquery, -⟩ := hs.named hq
    have hnotebook := notebook_listen h.right.toUnattended hq' hbus' listener
      s.world.nextSubscription.tag hreactions
    obtain ⟨hfiles, hnames, hnew⟩ := h.files.hold (subscriptions_of_notebook hnotebook)
      (Prod.mk.inj hnotebook).1
      (h.left.lt_listen hq hbus listener subscription hreactions)
      (h.right.lt_listen hq' hbus' listener s.world.nextSubscription.tag hreactions)
    exact ⟨h.begun.listen hs.toUnattended ht.toUnattended hq hq' hquery hbus hnames hnew listener
      subscription s.world.nextSubscription.tag hreactions, hfiles⟩

/-- **A call on the query** is left, and has the same answer in the session of the query. -/
theorem own (h : Abreast q s t) (ha : a.isPlain = true) (haddresses : s.Addresses q a) :
    ∃ a', s.part q a = some a' ∧ a'.isPlain = true ∧ Echoes q s a t a' := by
  have hs := h.left.ready [.script []]
  have ht := h.right.ready [.script []]
  -- the name stands for the query, which takes part in the action
  have hpart : ∀ {name}, a.subject? = some name → s.query? name = some q →
      s.part q a = some (s.relabel a) := by
    intro name hsubject hq
    have hmine : ¬ s.holdsOther q name = true := by
      rw [holdsOther, hq]
      simp
    rw [part_of_subject? hsubject, if_neg hmine]
  -- an action that writes nothing in the notebook is carried out in the same way
  have hrequest : ∀ {name}, a.request? = some name → s.query? name = some q →
      a.isNoted = false → Echoes q s a t a := by
    intro name hname hq hnoted
    have hnotebook : (t.begun.perform a).notebook = t.notebook :=
      notebook_perform ht.unhooked hnoted
    refine ⟨?_, h.files_of_notebook hnotebook⟩
    rw [translates_congr (subscriptions_of_notebook hnotebook)]
    exact h.begun.performOwn hs.toUnattended ht.toUnattended hname hq (h.named hq)
  cases a with
  | create name text isTracked =>
    exact ⟨_, if_pos haddresses, ha, h.create haddresses name text isTracked⟩
  | run name | start name | cancel name | setStatus name status =>
    exact ⟨_, hpart rfl haddresses, ha, hrequest rfl haddresses rfl⟩
  | find name address | indexOf name address =>
    exact ⟨_, part_of_shared rfl (by rintro _ _ _ ⟨⟩), ha, hrequest rfl haddresses rfl⟩
  | drop name =>
    obtain ⟨hsubscriptions, hfiles⟩ := h.files_drop (a := .drop name) name
    refine ⟨.drop name, hpart rfl haddresses, ha, ?_, hfiles⟩
    rw [translates_congr hsubscriptions]
    exact h.begun.drop hs.toUnattended ht.toUnattended haddresses (h.named haddresses)
  | listen name listener subscription reactions bus =>
    have hreactions := List.isEmpty_iff.mp (isPlain_iff.mp ha).1
    exact ⟨_, hpart rfl haddresses, ha, h.listen haddresses listener subscription hreactions bus⟩
  | unlisten name handle =>
    have hnotebook : (t.begun.perform (s.relabel (.unlisten name handle))).notebook = t.notebook :=
      notebook_perform ht.unhooked rfl
    refine ⟨_, hpart rfl haddresses, ha, ?_, h.files_of_notebook hnotebook⟩
    rw [translates_congr (subscriptions_of_notebook hnotebook)]
    obtain ⟨query, hquery, -⟩ := hs.named haddresses
    refine h.begun.unlisten hs.toUnattended ht.toUnattended haddresses (h.named haddresses)
      hquery ?_ ?_
    · -- a name that stands for nothing is taken for the empty one
      intro hnone
      have hunheld : s.subscription? handle = none := hnone
      rw [hunheld]
      exact h.files.unbound
    · -- a name that stands for an identity is taken for the one made from it
      intro id i i' hsome hi
      have hheld : s.subscription? handle = some id := hsome
      rw [hheld]
      constructor
      · intro hid
        exact h.files.injective hi hid
      · rintro rfl
        exact hi
  | _ => cases haddresses

/-! ### The other actions -/

theorem subject?_relabel (s : Session) (a : Action) : (s.relabel a).subject? = a.subject? := by
  cases a <;> rfl

theorem isPlain_relabel (s : Session) (a : Action) : (s.relabel a).isPlain = a.isPlain := by
  cases a <;> rfl

/-- An action on a query that is not held changes nothing that is held. -/
theorem notebook_unnamed (h : t.hook = none) (hsubject : a.subject? = some name)
    (hnone : t.query? name = none) (hdrop : a ≠ .drop name) :
    (t.begun.perform a).notebook = t.notebook := by
  cases a with
  | drop other =>
    cases hsubject
    exact absurd rfl hdrop
  | listen other listener subscription reactions bus =>
    cases hsubject
    have hnobody : t.begun.query? name = none := hnone
    rw [perform, withQuery_of_none hnobody]
    exact notebook_answer (s := t.begun) h ..
  | run | start | cancel | setStatus | unlisten => exact notebook_perform h rfl
  | _ => cases hsubject

/-- An action on a query that is not held fails in both sessions. -/
theorem keepUnnamed (h : Abreast q s t) (ha : a.isPlain = true)
    (hsubject : a.subject? = some name) (hname : s.query? name ≠ some q) :
    Abreast q (s.carryOut a) (t.carryOut (s.relabel a)) := by
  have hs := h.left.ready [.script []]
  have ht := h.right.ready [.script []]
  have ha' : (s.relabel a).isPlain = true := (isPlain_relabel s a).trans ha
  have hsubject' : (s.relabel a).subject? = some name := (subject?_relabel s a).trans hsubject
  have hnone := h.unnamed hname
  have hname' : t.query? name ≠ some ⟨0⟩ := by
    rw [hnone]
    exact nofun
  have hleft := h.begun.actLeft hs ha hsubject hname
  have hboth := (hleft.symm.actLeft ht ha' hsubject' hname').symm
  by_cases hdrop : s.relabel a = .drop name
  · rw [hdrop] at hboth ⊢
    obtain ⟨hsubscriptions, hfiles⟩ := h.files_drop (a := a) name
    refine h.keep ha rfl ?_ hfiles
    rw [translates_congr hsubscriptions]
    exact hboth
  · exact h.keepNotebook ha ha' hboth (notebook_unnamed ht.unhooked hsubject' hnone hdrop)

/-- **Another query is made**; what was held under its name is let go of. -/
theorem createOther (h : Abreast q s t) (hindex : s.world.queries.length ≠ q.index)
    (name text : String) (isTracked : Bool) :
    Abreast q (s.carryOut (.create name text isTracked))
      (t.carryOutAll (s.part q (.create name text isTracked)).toList) := by
  have hs := h.left.ready [.script []]
  have ht := h.right.ready [.script []]
  rw [part, if_neg hindex]
  by_cases hname : s.query? name = some q
  · rw [if_pos hname]
    obtain ⟨hsubscriptions, hfiles⟩ := h.files_drop (a := .create name text isTracked) name
    refine h.keep rfl rfl ?_ hfiles
    rw [translates_congr hsubscriptions]
    exact h.begun.replace hs.toUnattended ht.toUnattended hindex.symm name text isTracked
  · rw [if_neg hname]
    exact h.skip rfl (h.begunLeft.createLeft hs.toUnattended hindex.symm hname text isTracked)

theorem query?_ne_of_not_addresses (hsubject : a.subject? = some name)
    (hnot : ¬ s.Addresses q a) : s.query? name ≠ some q := by
  cases a with
  | drop | run | start | cancel | setStatus | listen | unlisten =>
    cases hsubject
    exact hnot
  | _ => cases hsubject

/-- **One action** of a script, and the part that the query has in it. -/
theorem carryOut (h : Abreast q s t) (ha : a.isPlain = true) :
    Abreast q (s.carryOut a) (t.carryOutAll (s.part q a).toList) := by
  by_cases haddresses : s.Addresses q a
  · -- the query is called, or made
    obtain ⟨a', hpart, ha', hechoes⟩ := h.own ha haddresses
    rw [hpart]
    exact h.keep ha ha' hechoes.agree.mirrors hechoes.files
  · have hs := h.left.ready [.script []]
    have ht := h.right.ready [.script []]
    cases hsubject : a.subject? with
    | some name =>
      have hname := query?_ne_of_not_addresses hsubject haddresses
      rw [part_of_subject? hsubject]
      split
      · -- the action is on another query, so the session of this one takes no part in it
        exact h.skip ha (h.begunLeft.actLeft hs ha hsubject hname)
      · exact h.keepUnnamed ha hsubject hname
    | none =>
      by_cases hcreate : ∃ name text isTracked, a = .create name text isTracked
      · obtain ⟨name, text, isTracked, rfl⟩ := hcreate
        -- the new query may take the name of this one
        exact h.createOther haddresses name text isTracked
      · have hnew : ∀ name text isTracked, a ≠ .create name text isTracked :=
          fun name text isTracked heq => hcreate ⟨name, text, isTracked, heq⟩
        have hnoted : a.isNoted = false := by
          cases a with
          | create name text isTracked => exact absurd rfl (hnew name text isTracked)
          | afterRead => cases (isPlain_iff.mp ha).2.2
          | drop | listen => cases hsubject
          | _ => rfl
        rw [part_of_shared hsubject hnew]
        exact h.keepNotebook ha ha (h.begun.performShared hs ht ha hsubject hnew)
          (notebook_perform ht.unhooked hnoted)

/-! ### Scripts -/

/-- **A script**, and the part that the query has in it. -/
theorem carryOutAll (h : Abreast q s t) {actions : List Action}
    (hplain : ∀ a ∈ actions, a.isPlain = true) :
    Abreast q (s.carryOutAll actions) (t.carryOutAll (parts q s actions)) := by
  induction actions generalizing s t with
  | nil => exact h
  | cons a rest ih =>
    have hnext := ih (h.carryOut (hplain a List.mem_cons_self))
      fun b hb => hplain b (List.mem_cons_of_mem a hb)
    rw [parts, carryOutAll_append]
    exact hnext

end Abreast

theorem plain_ofSources (config : Config) (directory : Directory)
    (registered : List ServiceMention) (limit : Nat) :
    (ofSources config directory registered limit).Plain :=
  ⟨⟨rfl, nofun, nofun⟩, config, directory, registered, limit, .refl⟩

/-- **At the beginning** both sessions are the same. -/
theorem abreast_ofSources (config : Config) (directory : Directory)
    (registered : List ServiceMention) (limit : Nat) (q : QueryId) :
    Abreast q (ofSources config directory registered limit)
      (ofSources config directory registered limit) where
  mirrors :=
    ⟨⟨rfl, rfl, .none, iff_of_false List.not_mem_nil List.not_mem_nil⟩, .nil, .nil,
      fun _ => iff_of_false nofun nofun, .nil, .nil, fun _ => rfl⟩
  left := plain_ofSources config directory registered limit
  right := plain_ofSources config directory registered limit
  rest := rfl
  rest' := rfl
  files := ⟨nofun, rfl, nofun, nofun⟩

/-- The part of a script is the beginning of the part of every longer script. -/
theorem parts_append (q : QueryId) (s : Session) (actions later : List Action) :
    parts q s (actions ++ later) =
      parts q s actions ++ parts q (s.carryOutAll actions) later := by
  induction actions generalizing s with
  | nil => rfl
  | cons a rest ih =>
    rw [List.cons_append, parts, parts, ih, List.append_assoc]
    rfl

/-- A script and the part of a query in it, if each action is over after `n` steps at most. -/
def enact (n : Nat) (q : QueryId) : Session → List Action → Option (Session × List Action)
  | s, [] => some (s, [])
  | s, a :: rest =>
    let next := (s.ask a).steps n
    if next.calls.isEmpty then
      (enact n q next rest).map fun r => (r.1, (s.part q a).toList ++ r.2)
    else none

theorem enact_eq_some {n : Nat} {actions found : List Action}
    (h : enact n q s actions = some (t, found)) :
    s.carryOutAll actions = t ∧ parts q s actions = found := by
  induction actions generalizing s found with
  | nil =>
    cases h
    exact ⟨rfl, rfl⟩
  | cons a rest ih =>
    rw [enact] at h
    split at h
    · next hrest =>
      obtain ⟨⟨t', found'⟩, hnext, heq⟩ := Option.map_eq_some_iff.mp h
      cases heq
      obtain ⟨hall, hparts⟩ := ih hnext
      have hcarry : s.carryOut a = (s.ask a).steps n := by
        rw [carryOut, ← settle_steps _ n, settle.eq_def, dif_pos (List.isEmpty_iff.mp hrest)]
      rw [parts, hcarry, hparts]
      refine ⟨?_, rfl⟩
      rw [← hall, ← hcarry]
      rfl
    · cases h

/-! ### What can be seen of a query -/

/-- What can be seen of the query `q` in the session `s` is what can be seen of the query `q'` in
the session `t`. -/
structure Reflects (q q' : QueryId) (s t : Session) : Prop where
  status : (t.world.query? q').map Query.status = (s.world.query? q).map Query.status
  results : (t.world.query? q').map Query.results = (s.world.query? q).map Query.results
  subscriberCount :
    (t.world.query? q').map Query.subscriberCount = (s.world.query? q).map Query.subscriberCount
  isAttached : (t.world.query? q').map Query.isAttached = (s.world.query? q).map Query.isAttached
  presenceCount :
    (t.world.query? q').map Query.presenceCount = (s.world.query? q).map Query.presenceCount
  /-- No two subscriptions of the one session have the same counterpart. -/
  injective : ∀ {i j id'}, t.translates i id' → t.translates j id' → i = j
  /-- The subscribers correspond one by one. -/
  subscribers :
    List.Forall₂ t.translates (s.world.subscriptions q) (t.world.subscriptions q')
  /-- Corresponding subscriptions have been delivered the same, in the same order. -/
  news : ∀ {id id'}, t.translates id id' →
    newsTo id' (lettersOf q' t.received) = newsTo id (lettersOf q s.received)
  /-- Whatever has been delivered went to subscriptions with a counterpart. -/
  letters :
    List.Forall₂ (Letter.Mirrors t.translates) (lettersOf q s.received) (lettersOf q' t.received)

/-- The answer that has been given last. -/
def lastReply? (s : Session) : Option Reply := s.journal.head?.bind Line.reply?

/-- An answer that is settled by an action is the last one when all is over. -/
theorem lastReply?_carryOut {reply : Reply} (h : s.begun.Replies a reply) :
    (s.carryOut a).lastReply? = some reply := by
  obtain ⟨above, hcalls⟩ := h
  have hstep : (s.ask a).step.calls = above ++ [.answer a.verb reply, .script []] := by
    rw [step_ask]
    exact hcalls
  rw [carryOut_eq, lastReply?, answered_settle hstep]
  rfl

/-- The same news are delivered to corresponding subscriptions. -/
theorem newsTo_eq_of_mirrors {names : Translation} {id id' : SubscriptionId}
    {letters letters' : List Letter} (h : List.Forall₂ (Letter.Mirrors names) letters letters')
    (hid : ∀ {i i'}, names i i' → (i' = id' ↔ i = id)) :
    newsTo id' letters' = newsTo id letters := by
  induction h with
  | nil => rfl
  | @cons l l' rest rest' hl _ ih =>
    have hwhich : (l'.subscription == id') = (l.subscription == id) := by
      rw [Bool.eq_iff_iff, beq_iff_eq, beq_iff_eq]
      exact hid hl.1
    rw [newsTo, newsTo] at ih
    rw [newsTo, newsTo, List.filter_cons, List.filter_cons, hwhich]
    split
    · rw [List.map_cons, List.map_cons, hl.2, ih]
    · exact ih

/-- A query that is in the same state has as many links. -/
theorem presenceCount_eq_of_mirrors {names : Translation} {query query' : Query}
    (h : query.Mirrors names query') : query'.presenceCount = query.presenceCount := by
  have hcount : ∀ query : Query,
      query.presenceCount = query.links?.elim 0 List.length := by
    intro query
    rw [Query.presenceCount, Query.links?]
    cases query.attachment with
    | none => rfl
    | some attachment => exact (List.length_map _).symm
  rw [hcount, hcount, h.links]

/-- A query that is in the same state is attached or not. -/
theorem isAttached_eq_of_mirrors {names : Translation} {query query' : Query}
    (h : query.Mirrors names query') : query'.isAttached = query.isAttached := by
  have hattached : ∀ query : Query, query.isAttached = query.links?.isSome := fun _ =>
    Option.isSome_map.symm
  rw [hattached, hattached, h.links]

/-- **Sessions side by side** show the same of the query. -/
theorem Abreast.reflects (h : Abreast q s t) : Reflects q ⟨0⟩ s t where
  status := h.mirrors.world.map_query? Query.Mirrors.status
  results := h.mirrors.world.map_query? Query.Mirrors.results
  subscriberCount := h.mirrors.world.map_query? fun hm => hm.congr fun _ _ _ => rfl
  isAttached := h.mirrors.world.map_query? isAttached_eq_of_mirrors
  presenceCount := h.mirrors.world.map_query? presenceCount_eq_of_mirrors
  injective := h.files.injective
  subscribers := by
    rw [World.subscriptions, World.subscriptions]
    cases hq : s.world.query? q with
    | none =>
      rw [h.mirrors.world.query?_eq_none hq]
      exact .nil
    | some query =>
      obtain ⟨query', hq', hm⟩ := h.mirrors.world.exists hq
      rw [hq']
      exact List.forall₂_map_left_iff.mpr (List.forall₂_map_right_iff.mpr hm.subscribers)
  news := by
    intro id id' hid
    apply newsTo_eq_of_mirrors h.mirrors.letters
    intro i i' hi
    constructor
    · rintro rfl
      exact h.files.injective hi hid
    · rintro rfl
      exact Option.some.inj (hi.symm.trans hid)
  letters := h.mirrors.letters

/-- **Queries do not interfere.**  In any script without hooks and with passive listeners, over
any number of queries, the actions on the other queries can be taken out: what can be seen of a
query stays the same, and so do the answers to the calls on it.  This holds after each action that
is left, since the part of a beginning of a script is the beginning of its part. -/
theorem queries_independent (config : Config) (directory : Directory)
    (registered : List ServiceMention) (limit : Nat) (q : QueryId) {actions : List Action}
    (hplain : ∀ a ∈ actions, a.isPlain = true) :
    let start := ofSources config directory registered limit
    let s := start.carryOutAll actions
    let t := start.carryOutAll (parts q start actions)
    Reflects q ⟨0⟩ s t ∧
      (∀ a, a.isPlain = true → s.Addresses q a → ∃ a' reply reply', s.part q a = some a' ∧
        (s.carryOut a).lastReply? = some reply ∧ (t.carryOut a').lastReply? = some reply' ∧
        reply.Mirrors q ⟨0⟩ reply') ∧
      ∀ later, parts q start (actions ++ later) = parts q start actions ++ parts q s later := by
  intro start s t
  have habreast : Abreast q s t :=
    (abreast_ofSources config directory registered limit q).carryOutAll hplain
  refine ⟨habreast.reflects, ?_, parts_append q start actions⟩
  intro a ha haddresses
  obtain ⟨a', hpart, -, hechoes⟩ := habreast.own ha haddresses
  obtain ⟨reply, reply', hreply, hreply', hsame⟩ := hechoes.agree.replies
  exact ⟨a', reply, reply', hpart, lastReply?_carryOut hreply, lastReply?_carryOut hreply', hsame⟩

/-- Two queries, with subscriptions that are held under the same name one after the other. -/
def twoQueries : List Action :=
  [.create "a" "" false, .create "b" "a" false, .listen "a" "l" "s" [] none,
    .listen "b" "l" "t" [] none, .run "a", .run "b", .cancel "a", .drop "a",
    .listen "b" "m" "s" [] none, .unlisten "b" "t"]

/-- Half of the script is left for the second query, which finds a room and tells its subscribers
the same without the first one. -/
theorem queries_independent_twoQueries :
    let start := ofSources .default twoRooms []
    let s := start.carryOutAll twoQueries
    let left := parts ⟨1⟩ start twoQueries
    (∀ a ∈ twoQueries, a.isPlain = true) ∧
      left.map Action.verb = ["create", "listen", "run", "listen", "unlisten"] ∧
      ((s.world.query? ⟨1⟩).map fun query => (query.results.entries.length, query.isAttached)) =
        some (1, true) ∧
      (lettersOf ⟨1⟩ s.received).length = 2 ∧
      Reflects ⟨1⟩ ⟨0⟩ s (start.carryOutAll left) := by
  intro start s left
  have hplain : ∀ a ∈ twoQueries, a.isPlain = true := by decide
  have henact : ((enact 40 ⟨1⟩ start twoQueries).map fun r => (r.2.map Action.verb,
      (r.1.world.query? ⟨1⟩).map fun query => (query.results.entries.length, query.isAttached),
      (lettersOf ⟨1⟩ r.1.received).length)) =
      some (["create", "listen", "run", "listen", "unlisten"], some (1, true), 2) := by
    decide +kernel
  obtain ⟨⟨t, found⟩, hsome, hfacts⟩ := Option.map_eq_some_iff.mp henact
  obtain ⟨ht, hfound⟩ := enact_eq_some hsome
  obtain ⟨hverbs, hrest⟩ := Prod.mk.inj hfacts
  obtain ⟨hseen, hletters⟩ := Prod.mk.inj hrest
  have hs : s = t := ht
  have hleft : left = found := hfound
  refine ⟨hplain, ?_, ?_, ?_, (queries_independent .default twoRooms [] _ ⟨1⟩ hplain).1⟩
  · rw [hleft]
    exact hverbs
  · rw [hs]
    exact hseen
  · rw [hs]
    exact hletters

end Session

end RoomSearch
