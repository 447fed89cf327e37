import RoomSearch.Proofs.Independence.Mirroring

/-!
# Two worlds in step

In two worlds that mirror each other as far as a query goes, the query takes its moves in step: what
it finds, whom it tells and what is left to be done for it are the same.  The tasks that are left
correspond.  Those that pass through several watchers or queries correspond if the query has its
turn in them equally often, whoever else is there.

## Main definitions

* `Letter.Mirrors` — the same news for corresponding subscriptions.
* `Task.Mirrors` — the same is going to be done for the query.
* `Move.Mirrors` — two moves that are the same as far as the query goes.
* `Outcome.Mirrors` — the same answer of the query.

## Main results

* `World.Mirrors.follow`, `World.Mirrors.advance` — **announcements and tasks** are taken in step.
* `World.Mirrors.run`, `World.Mirrors.setStatus`, `World.Mirrors.cancel` — so are requests.
* `World.Mirrors.announce`, `World.Mirrors.cancelAll`, `World.Mirrors.mention`,
  `World.Mirrors.create` — so is what happens to both worlds.
-/

namespace RoomSearch

open scoped List

/-- The same news for corresponding subscriptions. -/
def Letter.Mirrors (names : Translation) (l l' : Letter) : Prop :=
  names l.subscription l'.subscription ∧ l'.news = l.news

/-- The same news on their way to corresponding subscriptions. -/
def Delivery.Mirrors (names : Translation) (d d' : Delivery) : Prop :=
  names d.subscription d'.subscription ∧ d'.news = d.news

/-- Two tasks that do the same for the query `q` in one world and `q'` in the other. -/
inductive Task.Mirrors (names : Translation) (q q' : QueryId) : Task → Task → Prop where
  | deliver (notice : Notice) {rest rest' : List Watcher}
      (hcount : rest'.count (.query q') = rest.count (.query q)) :
      Task.Mirrors names q q' (.deliver notice rest) (.deliver notice rest')
  | withdraw (s : ServiceId) : Task.Mirrors names q q' (.withdraw s) (.withdraw s)
  | mergeJoined (notice : PresenceNotice) (autoJoin : Bool) :
      Task.Mirrors names q q' (.mergeJoined q notice autoJoin) (.mergeJoined q' notice autoJoin)
  | scan (p : ProviderId) : Task.Mirrors names q q' (.scan q p) (.scan q' p)
  | merge (p : ProviderId) (epoch : Nat) (rooms : List Room) :
      Task.Mirrors names q q' (.merge q p epoch rooms) (.merge q' p epoch rooms)
  | search (rest : List ProviderId) : Task.Mirrors names q q' (.search q rest) (.search q' rest)
  | notify (audience audience' : List Subscriber) {rest rest' : List Delivery}
      (hrest : List.Forall₂ (Delivery.Mirrors names) rest rest') :
      Task.Mirrors names q q' (.notify q audience rest) (.notify q' audience' rest')
  | cancelEach {rest rest' : List QueryId} (hcount : rest'.count q' = rest.count q) :
      Task.Mirrors names q q' (.cancelEach rest) (.cancelEach rest')

section

variable {names names' : Translation} {q q' : QueryId}

theorem Letter.Mirrors.symm {l l' : Letter} (h : l.Mirrors names l') : l'.Mirrors (flip names) l :=
  ⟨h.1, h.2.symm⟩

theorem Task.Mirrors.symm {t t' : Task} (h : t.Mirrors names q q' t') :
    t'.Mirrors (flip names) q' q t := by
  cases h with
  | deliver notice hcount => exact .deliver notice hcount.symm
  | cancelEach hcount => exact .cancelEach hcount.symm
  | notify audience audience' hrest =>
    refine .notify audience' audience (List.Forall₂.flip (hrest.imp ?_))
    exact fun _ _ hd => ⟨hd.1, hd.2.symm⟩
  | _ => constructor

theorem Task.Mirrors.mono {t t' : Task} (h : t.Mirrors names q q' t')
    (hnames : ∀ {id id'}, names id id' → names' id id') : t.Mirrors names' q q' t' := by
  cases h with
  | deliver notice hcount => exact .deliver notice hcount
  | cancelEach hcount => exact .cancelEach hcount
  | notify audience audience' hrest =>
    refine .notify audience audience' (hrest.imp ?_)
    exact fun _ _ hd => ⟨hnames hd.1, hd.2⟩
  | _ => constructor

/-- A task that has turned to somebody else goes on doing the same for the query. -/
theorem Task.Mirrors.skip {t t' u : Task} (h : t.Mirrors names q q' t')
    (hskip : t.skip? q = some u) : u.Mirrors names q q' t' := by
  cases h with
  | @deliver notice rest rest' hcount =>
    cases rest with
    | nil => cases hskip
    | cons v rest =>
      rw [Task.skip?] at hskip
      split at hskip
      · cases hskip
      · next hne =>
        cases hskip
        rw [List.count_cons_of_ne hne] at hcount
        exact .deliver notice hcount
  | @cancelEach rest rest' hcount =>
    cases rest with
    | nil => cases hskip
    | cons p rest =>
      rw [Task.skip?] at hskip
      split at hskip
      · cases hskip
      · next hne =>
        cases hskip
        rw [List.count_cons_of_ne hne] at hcount
        exact .cancelEach hcount
  | _ => cases hskip

end

/-- Two lists that contain their first members equally often are both at an end, or neither is. -/
theorem heads_of_count_eq {α : Type} [DecidableEq α] {x x' : α} {l l' : List α}
    (hcount : l'.count x' = l.count x) (hhead : ∀ y rest, l = y :: rest → y = x)
    (hhead' : ∀ y rest, l' = y :: rest → y = x') :
    (l = [] ∧ l' = []) ∨ ∃ rest rest', l = x :: rest ∧ l' = x' :: rest' ∧
      rest'.count x' = rest.count x := by
  cases l with
  | nil =>
    cases l' with
    | nil => exact .inl ⟨rfl, rfl⟩
    | cons y' rest' =>
      rw [hhead' y' rest' rfl, List.count_cons_self, List.count_nil] at hcount
      omega
  | cons y rest =>
    obtain rfl := hhead y rest rfl
    cases l' with
    | nil =>
      rw [List.count_cons_self, List.count_nil] at hcount
      omega
    | cons y' rest' =>
      obtain rfl := hhead' y' rest' rfl
      rw [List.count_cons_self, List.count_cons_self, Nat.add_right_cancel_iff] at hcount
      exact .inr ⟨rest, rest', rfl, rfl, hcount⟩

/-- Two moves that are the same as far as the query goes. -/
structure Move.Mirrors (names : Translation) (q q' : QueryId) (m m' : Move) : Prop where
  world : World.Mirrors names q q' m.world m'.world
  tasks : List.Forall₂ (Task.Mirrors names q q') m.tasks m'.tasks
  letters : List.Forall₂ (Letter.Mirrors names) (lettersOf q (m.notes.flatMap Note.received))
    (lettersOf q' (m'.notes.flatMap Note.received))

/-- The same answer, except that a query that has been started names itself. -/
inductive Outcome.Mirrors (q q' : QueryId) :
    Except (QueryError QueryId) Unit → Except (QueryError QueryId) Unit → Prop where
  | same (outcome : Except (QueryError QueryId) Unit) : Outcome.Mirrors q q' outcome outcome
  | started : Outcome.Mirrors q q' (.error (.alreadyStarted q)) (.error (.alreadyStarted q'))

namespace Query.Mirrors

variable {names : Translation} {a b : Query}

theorem isCanceled (h : a.Mirrors names b) : b.isCanceled = a.isCanceled := h.congr fun _ _ _ => rfl

theorem status (h : a.Mirrors names b) : b.status = a.status := h.congr fun _ _ _ => rfl

theorem started (h : a.Mirrors names b) : b.started = a.started := h.congr fun _ _ _ => rfl

theorem results (h : a.Mirrors names b) : b.results = a.results := h.congr fun _ _ _ => rfl

theorem epoch (h : a.Mirrors names b) : b.epoch = a.epoch := h.congr fun _ _ _ => rfl

theorem alive (h : a.Mirrors names b) : b.alive = a.alive := h.congr fun _ _ _ => rfl

theorem accepts (h : a.Mirrors names b) : b.accepts = a.accepts := h.congr fun _ _ _ => rfl

end Query.Mirrors

namespace Move.Mirrors

variable {names : Translation} {q q' : QueryId} {m m' : Move} {w w' : World}

theorem still (h : World.Mirrors names q q' w w') :
    Move.Mirrors names q q' (.still w) (.still w') :=
  ⟨h, .nil, .nil⟩

/-- The same tasks are left, and no letter is delivered. -/
theorem doing (h : World.Mirrors names q q' w w') {tasks tasks' : List Task}
    (htasks : List.Forall₂ (Task.Mirrors names q q') tasks tasks')
    {callback callback' : Option Callback} {notes notes' : List Note}
    (hnotes : notes.flatMap Note.received = []) (hnotes' : notes'.flatMap Note.received = []) :
    Move.Mirrors names q q' ⟨w, tasks, callback, notes⟩ ⟨w', tasks', callback', notes'⟩ := by
  refine ⟨h, htasks, ?_⟩
  rw [hnotes, hnotes']
  exact .nil

theorem andThen {t t' : Task} (h : Move.Mirrors names q q' m m')
    (ht : t.Mirrors names q q' t') :
    Move.Mirrors names q q' (m.andThen [t]) (m'.andThen [t']) where
  world := h.world
  tasks := List.rel_append h.tasks (.cons ht .nil)
  letters := h.letters

end Move.Mirrors

namespace World

variable {w w' : World} {q q' : QueryId} {a b : Query} {names : Translation}

/-- The same news are on their way to corresponding subscribers. -/
theorem forall₂_deliveries {subscribers subscribers' : List (SubscriptionId × Subscriber)}
    (h : List.Forall₂ (fun v v' => names v.1 v'.1) subscribers subscribers') (news : List News) :
    List.Forall₂ (Delivery.Mirrors names) (deliveries news subscribers)
      (deliveries news subscribers') := by
  induction news with
  | nil => exact .nil
  | cons n rest ih =>
    refine List.rel_append ?_ ih
    refine List.forall₂_map_left_iff.mpr (List.forall₂_map_right_iff.mpr ?_)
    exact h.imp fun _ _ hv => ⟨hv, rfl⟩

namespace Mirrors

/-! ### Changes are made known -/

theorem commit (h : Mirrors names q q' w w') (news : List News) :
    Move.Mirrors names q q' (w.commit q news) (w'.commit q' news) := by
  cases news with
  | nil => exact .still h
  | cons n rest =>
    have hsubscribers : List.Forall₂ (fun v v' => names v.1 v'.1)
        ((w.query? q).elim [] Query.subscribers) ((w'.query? q').elim [] Query.subscribers) := by
      cases hq : w.query? q with
      | none =>
        rw [h.query?_eq_none hq]
        exact .nil
      | some a =>
        obtain ⟨b, hq', hm⟩ := h.exists hq
        rw [hq']
        exact hm.subscribers
    refine .doing h (.cons ?_ .nil) rfl rfl
    exact .notify _ _ (forall₂_deliveries hsubscribers (n :: rest))

theorem change (h : Mirrors names q q' w w') (outcome : List News × ResultSet) :
    Move.Mirrors names q q' (w.change q outcome) (w'.change q' outcome) := by
  refine commit (h.modifyQuery ?_ ?_) outcome.1
  · exact fun _ _ _ => rfl
  · exact fun _ => ⟨rfl, rfl, rfl⟩

theorem moveTo (h : Mirrors names q q' w w') (status : Status) :
    Move.Mirrors names q q' (w.moveTo q status) (w'.moveTo q' status) := by
  refine commit (h.modifyQuery ?_ ?_) _
  · exact fun _ _ _ => rfl
  · exact fun _ => ⟨rfl, rfl, rfl⟩

theorem advanceEpoch (h : Mirrors names q q' w w') :
    Mirrors names q q' (w.modifyQuery q Query.advanceEpoch)
      (w'.modifyQuery q' Query.advanceEpoch) :=
  h.modifyQuery (fun _ _ _ => rfl) fun _ => ⟨rfl, rfl, rfl⟩

/-- **A query is canceled** in both worlds. -/
theorem cancel (h : Mirrors names q q' w w') :
    Move.Mirrors names q q' (w.cancel q) (w'.cancel q') := by
  cases hq : w.query? q with
  | none =>
    rw [World.cancel, World.cancel, hq, h.query?_eq_none hq]
    exact .still h
  | some a =>
    obtain ⟨b, hq', hm⟩ := h.exists hq
    rw [World.cancel, World.cancel, hq, hq']
    dsimp only
    rw [hm.isCanceled]
    split
    · exact .still h.detach
    · exact h.detach.moveTo _

/-! ### Announcements are followed -/

theorem followPresence (h : Mirrors names q q' w w') (hm : a.Mirrors names b)
    (notice : PresenceNotice) :
    Move.Mirrors names q q' (w.followPresence q a notice) (w'.followPresence q' b notice) := by
  rw [World.followPresence, World.followPresence, hm.isCanceled, hm.results, hm.accepts,
    h.directory]
  split
  · exact .still h
  · split
    · exact h.change _
    · split
      · exact .doing h (.cons (.mergeJoined notice _) .nil) rfl rfl
      · exact .still h

theorem followRooms (h : Mirrors names q q' w w') (hm : a.Mirrors names b) (notice : RoomNotice) :
    Move.Mirrors names q q' (w.followRooms q a notice) (w'.followRooms q' b notice) := by
  rw [World.followRooms, World.followRooms, hm.isCanceled, hm.results, hm.accepts]
  dsimp only
  split
  · exact .still h
  · split
    · exact .still h
    · cases notice.change <;> exact h.advanceEpoch.change _

theorem followProviders (h : Mirrors names q q' w w') (hm : a.Mirrors names b)
    (notice : ProviderNotice) :
    Move.Mirrors names q q' (w.followProviders q a notice) (w'.followProviders q' b notice) := by
  rw [World.followProviders, World.followProviders, hm.isCanceled, hm.results]
  cases notice.change with
  | added => exact .doing h.advanceEpoch (.cons (.scan notice.provider) .nil) rfl rfl
  | removed =>
    dsimp only
    split
    · exact .still h
    · exact h.advanceEpoch.change _

/-- **An announcement** is answered in both worlds. -/
theorem follow (h : Mirrors names q q' w w') (notice : Notice) :
    Move.Mirrors names q q' (w.follow q notice) (w'.follow q' notice) := by
  cases hq : w.query? q with
  | none =>
    rw [World.follow, World.follow, hq, h.query?_eq_none hq]
    exact .still h
  | some a =>
    obtain ⟨b, hq', hm⟩ := h.exists hq
    rw [World.follow, World.follow, hq, hq']
    dsimp only
    rw [hm.alive]
    split
    · exact .still h
    · cases notice with
      | presence notice => exact h.followPresence hm notice
      | rooms notice => exact h.followRooms hm notice
      | providers notice => exact h.followProviders hm notice
      | registration notice =>
        show Move.Mirrors names q q' (w.followRegistry q a notice) (w'.followRegistry q' b notice)
        rw [followRegistry_eq_still w q a notice, followRegistry_eq_still w' q' b notice]
        exact .still (h.followRegistry hq hq' hm notice)

/-! ### Tasks -/

theorem advanceJoined (h : Mirrors names q q' w w') (notice : PresenceNotice) (autoJoin : Bool) :
    Move.Mirrors names q q' (w.advanceJoined q notice autoJoin)
      (w'.advanceJoined q' notice autoJoin) := by
  cases hq : w.query? q with
  | none =>
    rw [World.advanceJoined, World.advanceJoined, hq, h.query?_eq_none hq]
    exact .still h
  | some a =>
    obtain ⟨b, hq', hm⟩ := h.exists hq
    rw [World.advanceJoined, World.advanceJoined, hq, hq']
    dsimp only
    rw [hm.isCanceled, hm.results]
    split
    · exact .still h
    · exact h.change _

theorem advanceScan (h : Mirrors names q q' w w') (p : ProviderId) :
    Move.Mirrors names q q' (w.advanceScan q p) (w'.advanceScan q' p) := by
  cases hq : w.query? q with
  | none =>
    rw [World.advanceScan, World.advanceScan, hq, h.query?_eq_none hq]
    exact .still h
  | some a =>
    obtain ⟨b, hq', hm⟩ := h.exists hq
    rw [World.advanceScan, World.advanceScan, hq, hq']
    dsimp only
    rw [hm.isCanceled, hm.epoch, h.directory]
    split
    · exact .still h
    · exact .doing h (.cons (.merge p a.epoch _) .nil) rfl rfl

theorem advanceMerge (h : Mirrors names q q' w w') (p : ProviderId) (epoch : Nat)
    (rooms : List Room) :
    Move.Mirrors names q q' (w.advanceMerge q p epoch rooms)
      (w'.advanceMerge q' p epoch rooms) := by
  cases hq : w.query? q with
  | none =>
    rw [World.advanceMerge, World.advanceMerge, hq, h.query?_eq_none hq]
    exact .still h
  | some a =>
    obtain ⟨b, hq', hm⟩ := h.exists hq
    rw [World.advanceMerge, World.advanceMerge, hq, hq']
    dsimp only
    rw [hm.isCanceled, hm.epoch, hm.results, hm.accepts]
    split
    · exact .still h
    · split
      · exact .doing h (.cons (.scan p) .nil) rfl rfl
      · exact h.change _

theorem advanceSearch (h : Mirrors names q q' w w') (rest : List ProviderId) :
    Move.Mirrors names q q' (w.advanceSearch q rest) (w'.advanceSearch q' rest) := by
  cases hq : w.query? q with
  | none =>
    have hq' := h.query?_eq_none hq
    cases rest <;> rw [World.advanceSearch, World.advanceSearch, hq, hq'] <;> exact .still h
  | some a =>
    obtain ⟨b, hq', hm⟩ := h.exists hq
    cases rest with
    | nil =>
      rw [World.advanceSearch, World.advanceSearch, hq, hq']
      dsimp only
      rw [hm.status]
      split
      · exact h.moveTo _
      · exact .still h
    | cons p rest =>
      rw [World.advanceSearch, World.advanceSearch, hq, hq']
      dsimp only
      rw [hm.isCanceled]
      split
      · exact .still h
      · exact .doing h (.cons (.scan p) (.cons (.search rest) .nil)) rfl rfl

/-- Only a bus is different after a notification, if anything is. -/
theorem advanceNotification (h : Mirrors names q q' w w') (audience audience' : List Subscriber)
    {rest rest' : List Delivery} (hrest : List.Forall₂ (Delivery.Mirrors names) rest rest') :
    Move.Mirrors names q q' (w.advanceNotification q audience rest)
      (w'.advanceNotification q' audience' rest') := by
  have hone : ∀ (w : World) (q : QueryId) (audience : List Subscriber) (d : Delivery)
      (rest : List Delivery), Leaves q w (w.advanceNotification q audience (d :: rest)).world ∧
      (w.advanceNotification q audience (d :: rest)).tasks = [.notify q audience rest] ∧
      (w.advanceNotification q audience (d :: rest)).notes = [.delivered q d] := by
    intro w q audience d rest
    unfold World.advanceNotification
    dsimp only
    split
    · next b _ =>
      exact ⟨.of_overlooks (fun h => h.publish w b ⟨.query q, d.news⟩) rfl, rfl, rfl⟩
    · exact ⟨.refl q w, rfl, rfl⟩
  cases hrest with
  | nil => exact .still h
  | @cons d d' rest rest' hd hrest =>
    obtain ⟨hworld, htasks, hnotes⟩ := hone w q audience d rest
    obtain ⟨hworld', htasks', hnotes'⟩ := hone w' q' audience' d' rest'
    refine ⟨(h.left hworld).right hworld', ?_, ?_⟩
    · rw [htasks, htasks']
      exact .cons (.notify audience audience' hrest) .nil
    · rw [hnotes, hnotes']
      have hletter : ∀ (q : QueryId) (d : Delivery),
          lettersOf q ([Note.delivered q d].flatMap Note.received) = [d.letter q] := fun q d =>
        List.filter_cons_of_pos (beq_self_eq_true q)
      rw [hletter, hletter]
      exact .cons hd .nil

/-- **A task that turns to the query next** goes on in both worlds. -/
theorem advance (h : Mirrors names q q' w w') {t t' : Task} (ht : t.Mirrors names q q' t')
    (hskip : t.skip? q = none) (hskip' : t'.skip? q' = none) :
    Move.Mirrors names q q' (w.advance t) (w'.advance t') := by
  cases ht with
  | @deliver notice rest rest' hcount =>
    -- whoever comes first is the query itself
    have hhead : ∀ {q : QueryId} {rest : List Watcher}, (Task.deliver notice rest).skip? q = none →
        ∀ v later, rest = v :: later → v = .query q := by
      rintro q _ hskip v later rfl
      simpa [Task.skip?] using hskip
    rcases heads_of_count_eq hcount (hhead hskip) (hhead hskip') with
      ⟨rfl, rfl⟩ | ⟨later, later', rfl, rfl, hlater⟩
    · exact .still h
    · exact (h.follow notice).andThen (.deliver notice hlater)
  | @cancelEach rest rest' hcount =>
    have hhead : ∀ {q : QueryId} {rest : List QueryId}, (Task.cancelEach rest).skip? q = none →
        ∀ p later, rest = p :: later → p = q := by
      rintro q _ hskip p later rfl
      simpa [Task.skip?] using hskip
    rcases heads_of_count_eq hcount (hhead hskip) (hhead hskip') with
      ⟨rfl, rfl⟩ | ⟨later, later', rfl, rfl, hlater⟩
    · exact .still h
    · exact h.cancel.andThen (.cancelEach hlater)
  | withdraw s =>
    refine .still ⟨?_, h.posts, h.query, h.listed⟩
    show (w'.config, w'.busLimit, w'.directory, w'.registry.filter _) =
      (w.config, w.busLimit, w.directory, w.registry.filter _)
    rw [h.config, h.busLimit, h.directory, h.registry]
  | mergeJoined notice autoJoin => exact h.advanceJoined notice autoJoin
  | scan p => exact h.advanceScan p
  | merge p epoch rooms => exact h.advanceMerge p epoch rooms
  | search rest => exact h.advanceSearch rest
  | notify audience audience' hrest => exact h.advanceNotification audience audience' hrest

/-! ### Requests -/

/-- **A request to search** is answered in both worlds. -/
theorem run (h : Mirrors names q q' w w') :
    Move.Mirrors names q q' (w.run q).1 (w'.run q').1 ∧
      Outcome.Mirrors q q' (w.run q).2 (w'.run q').2 := by
  cases hq : w.query? q with
  | none =>
    rw [World.run, World.run, hq, h.query?_eq_none hq]
    exact ⟨.still h, .same _⟩
  | some a =>
    obtain ⟨b, hq', hm⟩ := h.exists hq
    have hstart : Mirrors names q q' (w.modifyQuery q fun query => { query with started := true })
        (w'.modifyQuery q' fun query => { query with started := true }) :=
      h.modifyQuery (fun _ _ _ => rfl) fun _ => ⟨rfl, rfl, rfl⟩
    rw [World.run, World.run, hq, hq']
    dsimp only
    rw [hm.started, hm.isCanceled]
    split
    · exact ⟨.still h, .started⟩
    · split
      · exact ⟨.still hstart, .same _⟩
      · refine ⟨.doing hstart (.cons ?_ .nil) rfl rfl, .same _⟩
        rw [hstart.directory]
        exact .search _

/-- **A request to have a status** is answered in both worlds. -/
theorem setStatus (h : Mirrors names q q' w w') (status : Status) :
    Move.Mirrors names q q' (w.setStatus q status).1 (w'.setStatus q' status).1 ∧
      Outcome.Mirrors q q' (w.setStatus q status).2 (w'.setStatus q' status).2 := by
  cases hq : w.query? q with
  | none =>
    rw [World.setStatus, World.setStatus, hq, h.query?_eq_none hq]
    exact ⟨.still h, .same _⟩
  | some a =>
    obtain ⟨b, hq', hm⟩ := h.exists hq
    rw [World.setStatus, World.setStatus, hq, hq']
    dsimp only
    rw [hm.status]
    split
    · exact ⟨h.cancel, .same _⟩
    · exact ⟨.still h, .same _⟩
    · exact ⟨.still h, .same _⟩
    · exact ⟨h.moveTo _, .same _⟩
    · exact ⟨.still h, .same _⟩

/-! ### What happens to both worlds -/

/-- **An announcement goes out** in both worlds. -/
theorem announce (h : Mirrors names q q' w w') (haccounts : w.Accounts)
    (haccounts' : w'.Accounts) (x : Source) (notice : Notice) :
    Move.Mirrors names q q' (w.announce x notice) (w'.announce x notice) :=
  .doing h (.cons (.deliver notice (h.count_audience haccounts haccounts' x)) .nil) rfl rfl

/-- The directory and the registry change in both worlds. -/
theorem restage (h : Mirrors names q q' w w') {directory directory' : Directory}
    {registry registry' : List ServiceId} (hdirectory : directory' = directory)
    (hregistry : registry' = registry) :
    Mirrors names q q' { w with directory := directory, registry := registry }
      { w' with directory := directory', registry := registry' } where
  stage := by
    show (w'.config, w'.busLimit, directory', registry') =
      (w.config, w.busLimit, directory, registry)
    rw [h.config, h.busLimit, hdirectory, hregistry]
  posts := h.posts
  query := h.query
  listed := h.listed

/-- The directory or the registry changes in both worlds, and that is announced. -/
theorem restageAndAnnounce (h : Mirrors names q q' w w') (haccounts : w.Accounts)
    (haccounts' : w'.Accounts) {directory directory' : Directory}
    {registry registry' : List ServiceId} (hdirectory : directory' = directory)
    (hregistry : registry' = registry) (x : Source) (notice : Notice) :
    Move.Mirrors names q q'
      ({ w with directory := directory, registry := registry }.announce x notice)
      ({ w' with directory := directory', registry := registry' }.announce x notice) := by
  have hstaged : ∀ {w : World} (d registry), w.Accounts →
      Accounts { w with directory := d, registry := registry } := fun d registry h =>
    h.of_chain ((chain_directory _ d).trans (chain_registry _ registry))
  exact (h.restage hdirectory hregistry).announce (hstaged _ _ haccounts) (hstaged _ _ haccounts')
    x notice

/-- **The presence in a room changes** in both worlds, if the service has a channel. -/
theorem announcePresence (h : Mirrors names q q' w w') (haccounts : w.Accounts)
    (haccounts' : w'.Accounts) (s : ServiceId) (provider : Option ProviderId)
    (room identifier : String) (change : PresenceChange) :
    Option.Rel (Move.Mirrors names q q')
      (w.announcePresence? s provider room identifier change)
      (w'.announcePresence? s provider room identifier change) := by
  have hpost : w'.post? s = w.post? s := congrFun h.posts s
  rw [post?, post?] at hpost
  rw [announcePresence?, announcePresence?]
  cases hservice : w.service? s with
  | none =>
    rw [hservice, Option.map_none, Option.map_eq_none_iff] at hpost
    rw [hpost]
    exact .none
  | some service =>
    rw [hservice, Option.map_some] at hpost
    obtain ⟨service', hservice', hsame⟩ := Option.map_eq_some_iff.mp hpost
    obtain ⟨hprovider, hchannel⟩ := Prod.mk.inj hsame
    have hnone : service'.channel.isNone = service.channel.isNone := by
      rw [← Option.not_isSome, ← Option.not_isSome, hchannel]
    rw [hservice']
    dsimp only
    rw [hnone, hprovider]
    split
    · exact .none
    · exact .some (h.announce haccounts haccounts' _ _)

/-- **A service is mentioned** in both worlds. -/
theorem mention (h : Mirrors names q q' w w') (m : ServiceMention) :
    Mirrors names q q' (w.mention m) (w'.mention m) where
  stage := h.stage
  posts := by
    have hpost : ∀ (w : World) (t : ServiceId), (w.mention m).post? t =
        if m.id = t ∧ w.post? t = none then some (m.provider, m.hasChannel) else w.post? t := by
      intro w t
      cases hm : w.service? m.id with
      | some service =>
        rw [World.mention, ensureService_of_some hm, if_neg]
        rintro ⟨rfl, hnone⟩
        rw [post?, hm] at hnone
        cases hnone
      | none =>
        rw [World.mention, post?, service?_ensureService_of_none hm]
        by_cases ht : m.id = t
        · subst ht
          have hnone : w.post? m.id = none := by
            rw [post?, hm, Option.map_none]
          rw [if_pos rfl, if_pos ⟨rfl, hnone⟩]
          cases hchannel : m.hasChannel <;> simp [Service.ofParts]
        · rw [if_neg ht, if_neg fun hand => ht hand.1]
          rfl
    funext t
    rw [hpost, hpost, h.posts]
  query := h.query
  listed := h.listed

/-- **All queries that are kept track of** are canceled in both worlds. -/
theorem cancelAll (h : Mirrors names q q' w w') (hnodup : w.aliveQueries.Nodup)
    (hnodup' : w'.aliveQueries.Nodup) :
    Move.Mirrors names q q' w.cancelAll w'.cancelAll := by
  have hworld : Mirrors names q q' { w with tracked := [] } { w' with tracked := [] } :=
    ⟨h.stage, h.posts, h.query, iff_of_false List.not_mem_nil List.not_mem_nil⟩
  refine .doing hworld (.cons (.cancelEach ?_) .nil) rfl rfl
  rw [hnodup.count, hnodup'.count]
  exact if_congr h.listed rfl rfl

/-- **The query is made** in both worlds. -/
theorem create (h : Mirrors names q q' w w') (hindex : q.index = w.queries.length)
    (hindex' : q'.index = w'.queries.length) (hnew : q ∉ w.tracked) (hnew' : q' ∉ w'.tracked)
    (text : String) (isTracked : Bool) :
    Mirrors names q q' (w.createQuery text isTracked).1 (w'.createQuery text isTracked).1 where
  stage := h.stage
  posts := h.posts
  query := by
    rw [query?_createQuery, query?_createQuery, if_pos hindex, if_pos hindex', h.config]
    exact .some ⟨⟨[], none, rfl⟩, .nil, rfl⟩
  listed := by
    have hlisted : ∀ {w : World} {q : QueryId}, q.index = w.queries.length → q ∉ w.tracked →
        (q ∈ (w.createQuery text isTracked).1.aliveQueries ↔ isTracked = true) := by
      intro w q hindex hnew
      have hq : q = ⟨w.queries.length⟩ := by
        obtain ⟨index⟩ := q
        exact congrArg QueryId.mk hindex
      have halive : (w.createQuery text isTracked).1.isAlive q = true := by
        rw [isAlive, query?_createQuery, if_pos hindex]
        rfl
      rw [mem_aliveQueries, and_iff_left halive]
      cases isTracked with
      | false => exact iff_of_false hnew Bool.false_ne_true
      | true =>
        refine iff_of_true ?_ rfl
        show q ∈ w.tracked.filter w.isAlive ++ [⟨w.queries.length⟩]
        rw [hq]
        exact List.mem_append_right _ List.mem_cons_self
    rw [hlisted hindex hnew, hlisted hindex' hnew']

end Mirrors

end World

end RoomSearch
