import RoomSearch.Proofs.Delivery

/-!
# Following a query by its news

Where listeners do not call back, notifications do not nest: a notification is always the innermost
call, for the calls that directory reads and observers let in come to their end before anything else
is told.  Letters are then received in the order in which they were sent, and a subscriber that
applies what it receives sees the query as it is whenever no notification is in progress.

## Main definitions

* `Move.TellsFirst` — a move leaves a notification in the first place only.
* `Session.IsNotifying` — the innermost call is a notification.

## Main results

* `Session.received_append_owed` — letters are received in the order in which they were sent.
* `Session.replay_received` — **replaying what a subscription has received** gives the query.
-/

namespace RoomSearch

open scoped List

/-- Whether a task is a notification. -/
def Task.isNotification : Task → Bool
  | .notify .. => true
  | _ => false

/-- Whether a call is a notification. -/
def Call.isNotification (c : Call) : Bool := c.task?.any Task.isNotification

/-- A notification is the first task of a move, if there is one at all, and then nobody but a
listener is called before it. -/
structure Move.TellsFirst (m : Move) : Prop where
  tail : ∀ t ∈ m.tasks.tail, t.isNotification = false
  head : ∀ t ∈ m.tasks.head?, t.isNotification = true →
    m.callback = none ∨ ∃ name event, m.callback = some (.listener name event)

theorem Move.tellsFirst_of_none {m : Move} (h : ∀ t ∈ m.tasks, t.isNotification = false) :
    m.TellsFirst := by
  refine ⟨fun t ht => h t (List.mem_of_mem_tail ht), ?_⟩
  intro t ht hnotification
  rw [h t (List.mem_of_mem_head? ht)] at hnotification
  cases hnotification

/-- A single task that is no notification. -/
theorem Move.tellsFirst_task {w : World} {t : Task} {callback : Option Callback}
    {notes : List Note} (ht : t.isNotification = false) :
    Move.TellsFirst ⟨w, [t], callback, notes⟩ := by
  apply tellsFirst_of_none
  intro u hu
  rwa [List.mem_singleton.mp hu]

/-- One more task at the end that is no notification. -/
theorem Move.TellsFirst.andThen {m : Move} {t : Task} (h : m.TellsFirst)
    (ht : t.isNotification = false) : (m.andThen [t]).TellsFirst := by
  cases htasks : m.tasks with
  | nil =>
    apply tellsFirst_of_none
    intro u hu
    rw [Move.andThen, htasks, List.nil_append, List.mem_singleton] at hu
    rwa [hu]
  | cons first rest =>
    have heq : (m.andThen [t]).tasks = first :: (rest ++ [t]) := by
      rw [Move.andThen, htasks, List.cons_append]
    refine ⟨?_, ?_⟩
    · intro u hu
      rw [heq, List.tail_cons] at hu
      rcases List.mem_append.mp hu with hu | hu
      · exact h.tail u (by rwa [htasks])
      · rwa [List.mem_singleton.mp hu]
    · intro u hu hnotification
      rw [heq] at hu
      exact h.head u (by rwa [htasks]) hnotification

namespace World

open Move

variable {w w' : World} {m : Move}

/-! ### Moves leave notifications in the first place -/

theorem tellsFirst_still (w : World) : (Move.still w).TellsFirst :=
  tellsFirst_of_none (List.forall_mem_nil _)

theorem tellsFirst_commit (w : World) (q : QueryId) (news : List News) :
    (w.commit q news).TellsFirst := by
  cases news with
  | nil => exact tellsFirst_still w
  | cons n rest => exact ⟨List.forall_mem_nil _, fun _ _ _ => .inl rfl⟩

theorem tellsFirst_change (w : World) (q : QueryId) (outcome : List News × ResultSet) :
    (w.change q outcome).TellsFirst := tellsFirst_commit ..

theorem tellsFirst_moveTo (w : World) (q : QueryId) (status : Status) :
    (w.moveTo q status).TellsFirst := tellsFirst_commit ..

theorem tellsFirst_cancel (w : World) (q : QueryId) : (w.cancel q).TellsFirst := by
  unfold cancel
  split
  · exact tellsFirst_still w
  · split
    · exact tellsFirst_still _
    · exact tellsFirst_moveTo ..

theorem Follows.tellsFirst {q : QueryId} {query : Query} {notice : Notice}
    (h : w.Follows q query notice m) : m.TellsFirst := by
  cases h with
  | still => exact tellsFirst_still w
  | presence | rooms | gone => exact tellsFirst_change ..
  | joined | entered => exact tellsFirst_task rfl
  | registration notice =>
    rw [followRegistry_eq_still]
    exact tellsFirst_still _

theorem tellsFirst_follow (w : World) (q : QueryId) (notice : Notice) :
    (w.follow q notice).TellsFirst := by
  rcases follow_spec w q notice with hstill | ⟨query, -, hfollows⟩
  · rw [hstill]
    exact tellsFirst_still w
  · exact hfollows.tellsFirst

theorem Advances.tellsFirst {t : Task} (h : w.Advances t m) : m.TellsFirst := by
  cases h with
  | spent | dropped | withdraw => exact tellsFirst_still _
  | tell notice q rest => exact (tellsFirst_follow w q notice).andThen rfl
  | tap | scan | rescan => exact tellsFirst_task rfl
  | mergeJoined | merge => exact tellsFirst_change ..
  | complete => exact tellsFirst_moveTo ..
  | search q p rest =>
    apply tellsFirst_of_none
    intro t ht
    rcases List.mem_cons.mp ht with rfl | ht
    · rfl
    · rw [List.mem_singleton.mp ht]
      rfl
  | publish => exact ⟨List.forall_mem_nil _, fun _ _ _ => .inl rfl⟩
  | hear q audience d rest name =>
    exact ⟨List.forall_mem_nil _, fun _ _ _ => .inr ⟨name, _, rfl⟩⟩
  | cancelEach q rest => exact (tellsFirst_cancel w q).andThen rfl

theorem Runs.tellsFirst {q : QueryId} (h : w.Runs q m) : m.TellsFirst := by
  cases h with
  | still | late => exact tellsFirst_still _
  | search => exact tellsFirst_task rfl

theorem Sets.tellsFirst {q : QueryId} (h : w.Sets q m) : m.TellsFirst := by
  cases h with
  | still => exact tellsFirst_still w
  | canceled => exact tellsFirst_cancel w q
  | completed => exact tellsFirst_moveTo ..

/-- An announcement is no notification. -/
theorem tellsFirst_announce (w : World) (source : Source) (notice : Notice) :
    (w.announce source notice).TellsFirst := by
  exact tellsFirst_task rfl

theorem tellsFirst_acts {named : String → Option QueryId} {a : Action}
    (h : Acts w named a m) : m.TellsFirst := by
  cases h with
  | read => exact tellsFirst_of_none (List.forall_mem_nil _)
  | run q => exact (runs_run w q).tellsFirst
  | setStatus q status => exact (sets_setStatus w q status).tellsFirst
  | cancel q => exact tellsFirst_cancel w q
  | cancelAll =>
    exact tellsFirst_task rfl
  | addRoom | removeRoom | setAutoJoin | addProvider | removeProvider | announceRoom
  | announceProvider | register | announceRegistration => exact tellsFirst_announce ..
  | unregister m ownerStopping => exact (tellsFirst_announce ..).andThen rfl
  | presence m provider room identifier change hpresence =>
    obtain ⟨notice, rfl⟩ := exists_of_announcePresence? hpresence
    exact tellsFirst_announce ..
  | _ => exact tellsFirst_still _

end World

namespace Session

variable {s t u : Session} {c : Call} {calls : List Call} {m : Move} {first later : List Call}

/-- The innermost call is a notification. -/
def IsNotifying (s : Session) : Prop := ∃ c ∈ s.calls.head?, c.isNotification = true

/-- Listeners have no reactions, and a notification is the innermost call if there is one at all. -/
structure Undisturbed (s : Session) : Prop where
  passive : s.Passive
  below : ∀ d ∈ s.calls.tail, d.isNotification = false

theorem isNotification_of_bare {d : Call} (h : d.task? = none) : d.isNotification = false := by
  rw [Call.isNotification, h]
  rfl

theorem Goes.tellsFirst (h : s.Goes c calls m first later t) : m.TellsFirst := by
  cases h.does with
  | task task => exact (World.advances_advance _ task).tellsFirst
  | action hacts => exact World.tellsFirst_acts hacts
  | idle hc ha => exact World.tellsFirst_still _
  | read => exact Move.tellsFirst_of_none (List.forall_mem_nil _)

/-- **A step leaves a notification** innermost. -/
theorem Goes.undisturbed (h : s.Goes c calls m first later t) (hs : s.Undisturbed)
    (hcalls : s.calls = c :: calls) (hpermitted : ∀ a, c.action? = some a → a.isPassive = true) :
    t.Undisturbed := by
  have htells := h.tellsFirst
  have hlater : ∀ d ∈ later ++ calls, d.isNotification = false := by
    intro d hd
    rcases List.mem_append.mp hd with hd | hd
    · exact isNotification_of_bare (h.bare d (List.mem_append_right _ hd))
    · exact hs.below d (by rwa [hcalls])
  refine ⟨h.passive hs.passive hpermitted, ?_⟩
  have heq : t.calls = first ++ (m.tasks.map Call.task ++ (later ++ calls)) := by
    rw [h.calls, List.append_assoc, List.append_assoc]
  cases htasks : m.tasks with
  | nil =>
    rw [htasks, List.map_nil, List.nil_append] at heq
    intro d hd
    rw [heq] at hd
    rcases List.mem_append.mp (List.mem_of_mem_tail hd) with hd | hd
    · exact isNotification_of_bare (h.bare d (List.mem_append_left _ hd))
    · exact hlater d hd
  | cons task rest =>
    have hrest : ∀ d ∈ rest.map Call.task ++ (later ++ calls), d.isNotification = false := by
      intro d hd
      rcases List.mem_append.mp hd with hd | hd
      · obtain ⟨u, hu, rfl⟩ := List.mem_map.mp hd
        exact htells.tail u (by rwa [htasks])
      · exact hlater d hd
    rw [htasks, List.map_cons, List.cons_append] at heq
    cases hnotification : task.isNotification with
    | true =>
      -- nobody answers before the notification begins
      have hfirst : first = [] := by
        rcases htells.head task (by rw [htasks]; rfl) hnotification with hnone | hlistener
        · exact h.unasked hnone
        · exact h.unheard hs.passive hlistener
      rw [heq, hfirst]
      exact hrest
    | false =>
      intro d hd
      rw [heq] at hd
      rcases List.mem_append.mp (List.mem_of_mem_tail hd) with hd | hd
      · exact isNotification_of_bare (h.bare d (List.mem_append_left _ hd))
      · rcases List.mem_cons.mp hd with rfl | hd
        · exact hnotification
        · exact hrest d hd

/-! ### Letters arrive in order -/

/-- A call that is no notification owes nothing. -/
theorem owed_of_not_notification {d : Call} (h : d.isNotification = false) : d.owed = [] := by
  rw [Call.owed]
  cases hd : d.task? with
  | none => rfl
  | some task =>
    rw [Call.isNotification, hd, Option.any_some] at h
    cases task <;> first | rfl | cases h

theorem owed_of_calls {calls : List Call} (h : ∀ d ∈ calls, d.isNotification = false) :
    calls.flatMap Call.owed = [] :=
  List.flatMap_eq_nil_iff.mpr fun d hd => owed_of_not_notification (h d hd)

/-- A session in which listeners do not call back, and letters are received in order. -/
structure Ordered (s : Session) : Prop where
  orderly : s.Orderly
  undisturbed : s.Undisturbed
  inOrder : s.received ++ s.owed = s.sent

theorem ordered_ofSources (config : Config) (directory : Directory)
    (registered : List ServiceMention) (limit : Nat) :
    (ofSources config directory registered limit).Ordered :=
  ⟨orderly_ofSources .., ⟨nofun, nofun⟩, rfl⟩

/-- **A step keeps letters in order**: what is below the innermost call owes nothing, so what is
sent now is received after all that was owed. -/
theorem Goes.inOrder (h : s.Goes c calls m first later t) (hs : s.Ordered)
    (hcalls : s.calls = c :: calls) : t.received ++ t.owed = t.sent := by
  have hletters := (h.tells hs.orderly.sound hs.orderly.tidy).letters
  have hbelow : calls.flatMap Call.owed = [] := owed_of_calls fun d hd =>
    hs.undisturbed.below d (by rwa [hcalls])
  have howed : s.owed = c.owed := by
    rw [Session.owed, hcalls, List.flatMap_cons, hbelow, List.append_nil]
  calc t.received ++ t.owed
      = s.received ++ (m.notes.flatMap Note.received ++ m.tasks.flatMap Task.owed) := by
        rw [received, h.notes, List.flatMap_append, h.owed, hbelow, List.append_nil,
          List.append_assoc, received]
    _ = s.received ++ s.owed ++ m.notes.flatMap Note.sent := by
        rw [hletters, howed, List.append_assoc]
    _ = t.sent := by
        rw [hs.inOrder, sent, ← List.flatMap_append, ← h.notes, sent]

theorem Ordered.next (hs : s.Ordered) (hnext : Next Passively s t) : t.Ordered := by
  have horderly := (hs.orderly.next hnext).1
  cases hnext with
  | ask a hrest =>
    refine ⟨horderly, ⟨hs.undisturbed.passive, nofun⟩, ?_⟩
    have heq := hs.inOrder
    rw [owed, hrest] at heq
    exact heq
  | step hcalls hpermitted =>
    obtain ⟨m, first, later, hgoes⟩ := goes_step hcalls
    exact ⟨horderly, hgoes.undisturbed hs.undisturbed hcalls hpermitted, hgoes.inOrder hs hcalls⟩

theorem Ordered.leads (hs : s.Ordered) (hleads : Leads Passively s t) : t.Ordered := by
  induction hleads with
  | refl => exact hs
  | tail _ hnext ih => exact ih.next hnext

theorem ordered_of_reachable (h : Reachable Passively s) : s.Ordered := by
  obtain ⟨config, directory, registered, limit, hleads⟩ := h
  exact (ordered_ofSources ..).leads hleads

/-- **Letters are received in the order in which they were sent**, if listeners do not call back. -/
theorem received_append_owed (h : Reachable Passively s) : s.received ++ s.owed = s.sent :=
  (ordered_of_reachable h).inOrder

/-- Nothing is owed while no notification is in progress. -/
theorem Ordered.owed_eq_nil (hs : s.Ordered) (hquiet : ¬ s.IsNotifying) : s.owed = [] := by
  apply owed_of_calls
  intro d hd
  cases hcalls : s.calls with
  | nil =>
    rw [hcalls] at hd
    cases hd
  | cons c calls =>
    rw [hcalls] at hd
    rcases List.mem_cons.mp hd with rfl | hd
    · rw [← Bool.not_eq_true]
      exact fun hnotification => hquiet ⟨d, by rw [hcalls]; rfl, hnotification⟩
    · exact hs.undisturbed.below d (by rwa [hcalls])

end Session

/-- Some of the first news can be replayed where all of them can. -/
theorem Picture.replay_of_prefix {p p' : Picture} {news all : List News} (h : news <+: all)
    (hall : p.replay all = some p') : ∃ view, p.replay news = some view := by
  obtain ⟨later, rfl⟩ := h
  rw [replay_append] at hall
  obtain ⟨view, hview, -⟩ := Option.bind_eq_some_iff.mp hall
  exact ⟨view, hview⟩

namespace Session

variable {s t u : Session}

/-- **Replaying what a subscription has received**, from the results and the status that the query
has when the subscription begins: the news are never refused, and as long as the subscription lasts
the view is the query as it is whenever no notification is in progress. -/
theorem replay_received {q : QueryId} {id : SubscriptionId} (hu : Reachable Passively u)
    (hnext : Next Passively u t) (hjoins : Joins q id u t) (hleads : Leads Passively t s) :
    ∃ query view, t.world.query? q = some query ∧
      query.picture.replay (newsTo id s.received) = some view ∧
      (id ∈ s.world.subscriptions q → ¬ s.IsNotifying →
        ∃ query', s.world.query? q = some query' ∧ query'.picture = view) := by
  have hordered := ordered_of_reachable hu
  have ht := hordered.next hnext
  have hs := ht.leads hleads
  obtain ⟨new, htracks⟩ := ht.orderly.tracks hjoins.2 hleads
  obtain ⟨query, hq, -⟩ := mem_subscriptions.mp hjoins.2
  obtain ⟨query', hq', hreplay⟩ := htracks.pictures hq
  have hsent : newsTo id s.received ++ newsTo id s.owed = newsTo id (new.flatMap Note.sent) := by
    rw [← newsTo_append, hs.inOrder,
      htracks.newsTo_sent (hordered.orderly.newsTo_eq_nil hnext hjoins)]
  have hprefix : newsTo id s.received <+: new.flatMap (Note.newsOf q) :=
    List.IsPrefix.trans ⟨_, hsent⟩ htracks.sentTo
  obtain ⟨view, hview⟩ := Picture.replay_of_prefix hprefix hreplay
  refine ⟨query, view, hq, hview, fun hheld hquiet => ⟨query', hq', ?_⟩⟩
  -- everything that was sent has been received, and that is all the news of the query
  have hnil : newsTo id s.owed = [] := by
    rw [hs.owed_eq_nil hquiet]
    rfl
  rw [hnil, List.append_nil, htracks.held hheld] at hsent
  rw [hsent, hreplay] at hview
  exact Option.some.inj hview

theorem joins_joining : Joins ⟨0⟩ ⟨1⟩ joining joining.step := by
  constructor
  · decide +kernel
  · decide +kernel

theorem replay_received_searched : Reachable Passively joining ∧
    Next Passively joining joining.step ∧ Joins ⟨0⟩ ⟨1⟩ joining joining.step ∧
      Leads Passively joining.step searched ∧ ∃ query view,
        joining.step.world.query? ⟨0⟩ = some query ∧
          query.picture.replay (newsTo ⟨1⟩ searched.received) = some view ∧
            view.results.entries.map Entry.address = ["a", "b"] := by
  obtain ⟨query, view, hq, hreplay, hview⟩ :=
    replay_received reachable_joining next_joining joins_joining leads_searched
  refine ⟨reachable_joining, next_joining, joins_joining, leads_searched, query, view, hq,
    hreplay, ?_⟩
  obtain ⟨query', hq', rfl⟩ := hview (by decide +kernel) (by rintro ⟨c, ⟨⟩, -⟩)
  cases hq'
  rfl

end Session

end RoomSearch
