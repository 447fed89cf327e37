import RoomSearch.Proofs.Attachment
import RoomSearch.Proofs.Convergence.Current

/-!
# What leaves the results of a query alone

Most of what happens in a world is of no concern to the results of one query: other queries search
and are told of changes, subscribers come and go, services are registered.  Such a move leaves the
query in its course and its errands as they are.

## Main definitions

* `Task.errands` — what a task is still going to do for a query.
* `Task.IsCalm` — a task is not going to tell a query of a change of the directory that it should
  have heard of.
* `World.Bystands` — a move leaves a query in its course.
* `World.Spreads` — the actions that announce rooms, providers or presences.

## Main results

* `World.Advances.bystands` — a task that is not the query's own leaves it in its course.
* `World.Runs.bystands`, `World.bystands_cancel`, and so on — so do other calls.
* `World.Acts.bystands` — and so do all actions but those that spread news, and but the query's own
  search.
-/

namespace RoomSearch

/-- What a task is still going to do for a query. -/
def Task.errands (q : QueryId) : Task → List Errand
  | .deliver (.providers ⟨p, .added⟩) rest => .replicate (rest.count (.query q)) (.hear p)
  | .scan owner p => if owner = q then [.scan p] else []
  | .merge owner p epoch rooms => if owner = q then [.merge p epoch rooms] else []
  | .search owner rest => if owner = q then rest.map .scan else []
  | _ => []

/-- Whether what is announced has to be heard before anything else happens. -/
def Notice.isUrgent : Notice → Bool
  | .providers ⟨_, .added⟩ => false
  | .registration _ => false
  | _ => true

/-- Nothing urgent is announced to the query by this task, and no joined room is merged. -/
def Task.IsCalm (q : QueryId) : Task → Prop
  | .deliver notice rest => notice.isUrgent = true → .query q ∉ rest
  | .mergeJoined owner .. => owner ≠ q
  | _ => True

/-- The task changes the query next. -/
inductive Task.IsOwn : QueryId → Task → Prop where
  /-- The query hears of a new provider. -/
  | hear (q : QueryId) (p : ProviderId) (rest : List Watcher) :
      IsOwn q (.deliver (.providers ⟨p, .added⟩) (.query q :: rest))
  | scan (q : QueryId) (p : ProviderId) : IsOwn q (.scan q p)
  | merge (q : QueryId) (p : ProviderId) (epoch : Nat) (rooms : List Room) :
      IsOwn q (.merge q p epoch rooms)

section

variable {q : QueryId} {notice : Notice} {v : Watcher} {rest : List Watcher}

@[simp] theorem Task.errands_deliver_nil (q : QueryId) (notice : Notice) :
    (Task.deliver notice []).errands q = [] := by
  cases notice with
  | providers notice =>
    obtain ⟨p, change⟩ := notice
    cases change <;> rfl
  | presence | rooms | registration => rfl

theorem Task.errands_deliver_cons (hv : v ≠ .query q) :
    (Task.deliver notice (v :: rest)).errands q = (Task.deliver notice rest).errands q := by
  cases notice with
  | providers notice =>
    obtain ⟨p, change⟩ := notice
    cases change with
    | added => rw [Task.errands, Task.errands, List.count_cons_of_ne hv]
    | removed => rfl
  | presence | rooms | registration => rfl

theorem Task.IsCalm.deliver_cons (h : (Task.deliver notice (v :: rest)).IsCalm q) :
    (Task.deliver notice rest).IsCalm q :=
  fun hurgent hmem => h hurgent (List.mem_cons_of_mem _ hmem)

/-- What is urgent brings no errands. -/
theorem Task.errands_deliver_urgent (hurgent : notice.isUrgent = true) (rest : List Watcher) :
    (Task.deliver notice rest).errands q = [] := by
  cases notice with
  | providers notice =>
    obtain ⟨p, change⟩ := notice
    cases change with
    | added => cases hurgent
    | removed => rfl
  | presence | rooms | registration => rfl

theorem Task.errands_search_of_ne {owner : QueryId} (hne : owner ≠ q) (rest : List ProviderId) :
    (Task.search owner rest).errands q = [] := if_neg hne

/-- A search reads the rooms of its first provider and goes on with the others. -/
theorem Task.errands_search_cons (q owner : QueryId) (p : ProviderId) (rest : List ProviderId) :
    (Task.search owner (p :: rest)).errands q =
      (Task.scan owner p).errands q ++ (Task.search owner rest).errands q := by
  rw [Task.errands, Task.errands, Task.errands]
  split <;> rfl

end

theorem Query.SameFindings.course {a b : Query} (h : a.SameFindings b) : a.SameCourse b :=
  ⟨h.matcher, h.started, h.results, h.epoch⟩

namespace World

variable {w w' w'' : World} {q p : QueryId} {query query' : Query} {m : Move}

/-- The directory is the same, and the query has found the same in the same epoch. -/
structure SameCourse (q : QueryId) (w w' : World) : Prop where
  directory : w'.directory = w.directory
  query : ∀ {query}, w.query? q = some query →
    ∃ query', w'.query? q = some query' ∧ query.SameCourse query'

namespace SameCourse

/-- The query itself is the same. -/
theorem of_query?_eq (hdirectory : w'.directory = w.directory)
    (hquery : w'.query? q = w.query? q) : SameCourse q w w' :=
  ⟨hdirectory, fun hq => ⟨_, hquery.trans hq, .refl _⟩⟩

theorem refl (q : QueryId) (w : World) : SameCourse q w w := of_query?_eq rfl rfl

theorem trans (h : SameCourse q w w') (h' : SameCourse q w' w'') : SameCourse q w w'' where
  directory := h'.directory.trans h.directory
  query hq := by
    obtain ⟨query', hq', hsame⟩ := h.query hq
    obtain ⟨query'', hq'', hsame'⟩ := h'.query hq'
    exact ⟨query'', hq'', hsame.trans hsame'⟩

theorem of_queries_eq (hdirectory : w'.directory = w.directory)
    (hqueries : w'.queries = w.queries) : SameCourse q w w' :=
  of_query?_eq hdirectory (query?_of_queries_eq hqueries q)

theorem modifyQuery_of_ne (w : World) (hne : p ≠ q) (f : Query → Query) :
    SameCourse q w (w.modifyQuery p f) := of_query?_eq rfl (query?_modifyQuery_of_ne w f hne)

/-- A query changes in another respect. -/
theorem modifyQuery (w : World) (p : QueryId) {f : Query → Query}
    (hf : ∀ query : Query, query.SameCourse (f query)) : SameCourse q w (w.modifyQuery p f) := by
  by_cases hne : p = q
  · subst hne
    exact ⟨rfl, fun hq => ⟨_, query?_modifyQuery_self f hq, hf _⟩⟩
  · exact modifyQuery_of_ne w hne f

theorem of_amends (h : w.Amends w' p query') (hp : w.query? p = some query)
    (hsame : query.SameCourse query') : SameCourse q w w' where
  directory := h.rewires.directory
  query hq := by
    obtain ⟨a, hfound⟩ := h.found
    rcases eq_or_query?_of_others h.rewires.others hp hq with ⟨rfl, rfl⟩ | ⟨-, hold⟩
    · exact ⟨_, hfound, hsame.matcher, hsame.started, hsame.results, hsame.epoch⟩
    · exact ⟨_, hold, .refl _⟩

end SameCourse

/-- The move leaves the query in its course, with these errands. -/
structure Bystands (w : World) (q : QueryId) (errands : List Errand) (m : Move) : Prop where
  course : SameCourse q w m.world
  errands : m.tasks.flatMap (Task.errands q) = errands
  calm : ∀ t ∈ m.tasks, t.IsCalm q

/-- A single task remains to be done. -/
theorem bystands_task {callback : Option Callback} {notes : List Note} {errands : List Errand}
    (h : SameCourse q w w') (t : Task) (herrands : t.errands q = errands) (hcalm : t.IsCalm q) :
    w.Bystands q errands ⟨w', [t], callback, notes⟩ := by
  refine ⟨h, ?_, ?_⟩
  · rw [List.flatMap_singleton, herrands]
  · intro u hu
    rwa [List.mem_singleton.mp hu]

theorem bystands_still (h : SameCourse q w w') : w.Bystands q [] (.still w') :=
  ⟨h, rfl, List.forall_mem_nil _⟩

/-- One more task. -/
theorem Bystands.andThen {t : Task} (h : w.Bystands q [] m) (hcalm : t.IsCalm q) :
    w.Bystands q (t.errands q) (m.andThen [t]) where
  course := h.course
  errands := by
    rw [Move.andThen, List.flatMap_append, h.errands, List.nil_append, List.flatMap_singleton]
  calm u hu := by
    rcases List.mem_append.mp hu with hu | hu
    · exact h.calm u hu
    · rwa [List.mem_singleton.mp hu]

theorem bystands_commit (h : SameCourse q w w') (p : QueryId) (news : List News) :
    w.Bystands q [] (w'.commit p news) := by
  cases news with
  | nil => exact bystands_still h
  | cons n rest => exact bystands_task h _ rfl trivial

theorem bystands_change (h : SameCourse q w w') (hne : p ≠ q)
    (outcome : List News × ResultSet) : w.Bystands q [] (w'.change p outcome) :=
  bystands_commit (h.trans (.modifyQuery_of_ne w' hne _)) p outcome.1

theorem bystands_moveTo (h : SameCourse q w w') (p : QueryId) (status : Status) :
    w.Bystands q [] (w'.moveTo p status) :=
  bystands_commit (h.trans (.modifyQuery w' p (f := fun query => { query with status })
    fun _ => ⟨rfl, rfl, rfl, rfl⟩)) p _

/-- The tasks of a cancelation are those of a move of the status. -/
theorem bystands_cancel (h : w.Accounts) (p : QueryId) : w.Bystands q [] (w.cancel p) := by
  cases hp : w.query? p with
  | none =>
    rw [cancel, hp]
    exact bystands_still (.refl q w)
  | some query =>
    have hcourse : SameCourse q w (w.cancel p).world :=
      .of_amends (h.cancel hp) hp ⟨rfl, rfl, rfl, rfl⟩
    rw [cancel, hp] at hcourse ⊢
    dsimp only at hcourse ⊢
    split
    · next hcanceled =>
      rw [if_pos hcanceled] at hcourse
      exact bystands_still hcourse
    · next hcanceled =>
      rw [if_neg hcanceled, moveTo, world_commit] at hcourse
      exact bystands_commit hcourse p _

/-! ### Queries follow their sources -/

theorem bystands_followRegistry (h : w.Accounts) (hp : w.query? p = some query)
    (notice : RegistrationNotice ServiceId) :
    w.Bystands q [] (w.followRegistry p query notice) := by
  have hcourse : SameCourse q w (w.followRegistry p query notice).world :=
    .of_amends (h.followRegistry hp notice) hp (.refl query)
  rw [followRegistry_eq_still]
  exact bystands_still hcourse

theorem Follows.bystands {notice : Notice} (hfollows : w.Follows p query notice m)
    (h : w.Accounts) (hne : p ≠ q) (hp : w.query? p = some query) : w.Bystands q [] m := by
  cases hfollows with
  | still => exact bystands_still (.refl q w)
  | presence => exact bystands_change (.refl q w) hne _
  | joined => exact bystands_task (.refl q w) _ rfl hne
  | rooms | gone => exact bystands_change (.modifyQuery_of_ne w hne _) hne _
  | entered => exact bystands_task (.modifyQuery_of_ne w hne _) _ (if_neg hne) trivial
  | registration notice => exact bystands_followRegistry h hp notice

/-- What another query follows. -/
theorem bystands_follow (h : w.Accounts) (hne : p ≠ q) (notice : Notice) :
    w.Bystands q [] (w.follow p notice) := by
  rcases follow_spec w p notice with hstill | ⟨query, hp, hfollows⟩
  · rw [hstill]
    exact bystands_still (.refl q w)
  · exact hfollows.bystands h hne hp

/-- What any query follows of the registry. -/
theorem bystands_follow_registration (h : w.Accounts) (p : QueryId)
    (notice : RegistrationNotice ServiceId) :
    w.Bystands q [] (w.follow p (.registration notice)) := by
  have hspec := follow_spec w p (.registration notice)
  generalize w.follow p (.registration notice) = m at hspec
  rcases hspec with rfl | ⟨query, hp, hfollows⟩
  · exact bystands_still (.refl q w)
  · cases hfollows with
    | still => exact bystands_still (.refl q w)
    | registration notice => exact bystands_followRegistry h hp notice

/-! ### Tasks -/

/-- What a delivery to somebody else leaves in course. -/
theorem Bystands.deliver {notice : Notice} {v : Watcher} {rest : List Watcher}
    (h : w.Bystands q [] m) (hv : v ≠ .query q)
    (hcalm : (Task.deliver notice (v :: rest)).IsCalm q) :
    w.Bystands q ((Task.deliver notice (v :: rest)).errands q)
      (m.andThen [.deliver notice rest]) := by
  rw [Task.errands_deliver_cons hv]
  exact h.andThen hcalm.deliver_cons

/-- Nothing is going to be done by a task of which nothing is left. -/
theorem errands_of_isSpent {t : Task} (h : t.isSpent = true) : t.errands q = [] := by
  cases t with
  | deliver notice rest =>
    have hrest : rest = [] := List.isEmpty_iff.mp h
    rw [hrest, Task.errands_deliver_nil]
  | search owner rest =>
    have hrest : rest = [] := List.isEmpty_iff.mp h
    rw [hrest]
    exact ite_self []
  | notify | cancelEach => rfl
  | _ => cases h

/-- What finds results for another query does nothing for this one. -/
theorem errands_of_searcher? {t : Task} (ht : t.searcher? = some p) (hne : p ≠ q) :
    t.errands q = [] := by
  cases t with
  | mergeJoined => rfl
  | scan | merge | search =>
    cases ht
    exact if_neg hne
  | _ => cases ht

/-- An announcement reaches a query that it does not concern. -/
theorem bystands_tell {notice : Notice} {rest : List Watcher} (h : w.Accounts)
    (hcalm : (Task.deliver notice (.query p :: rest)).IsCalm q)
    (hown : ¬ (Task.deliver notice (.query p :: rest)).IsOwn q) :
    w.Bystands q ((Task.deliver notice (.query p :: rest)).errands q)
      ((w.follow p notice).andThen [.deliver notice rest]) := by
  by_cases hpq : p = q
  · subst hpq
    cases notice with
    | registration notice =>
      exact (bystands_follow_registration h p notice).andThen hcalm.deliver_cons
    | providers notice =>
      obtain ⟨provider, change⟩ := notice
      cases change with
      | added => exact absurd (.hear p provider rest) hown
      | removed => exact absurd List.mem_cons_self (hcalm rfl)
    | presence | rooms => exact absurd List.mem_cons_self (hcalm rfl)
  · refine (bystands_follow h hpq notice).deliver ?_ hcalm
    intro heq
    exact hpq (Watcher.query.inj heq)

/-- **A task that is not the query's own** leaves it in its course. -/
theorem Advances.bystands {t : Task} (hadvances : w.Advances t m) (h : w.Accounts)
    (hq : w.query? q = some query) (hactive : query.status ≠ .canceled) (hcalm : t.IsCalm q)
    (hown : ¬ t.IsOwn q) : w.Bystands q (t.errands q) m := by
  cases hadvances with
  | spent hspent =>
    rw [errands_of_isSpent hspent]
    exact bystands_still (.refl q w)
  | dropped hp hdropped =>
    -- the query itself has not been canceled
    rw [errands_of_searcher? hp]
    · exact bystands_still (.refl q w)
    · rintro rfl
      exact hactive (beq_iff_eq.mp (hdropped query hq))
  | tell notice p rest => exact bystands_tell h hcalm hown
  | tap notice t rest =>
    -- the query is still in the audience if it was
    have hne : Watcher.tap t ≠ .query q := Watcher.noConfusion
    rw [Task.errands_deliver_cons hne]
    exact bystands_task (.refl q w) _ rfl hcalm.deliver_cons
  | withdraw s => exact bystands_still (.of_queries_eq rfl rfl)
  | mergeJoined => exact bystands_change (.refl q w) hcalm _
  -- the scans are those of other queries
  | @scan p _ _ provider =>
    have hne : p ≠ q := by
      rintro rfl
      exact hown (.scan p provider)
    rw [errands_of_searcher? rfl hne]
    exact bystands_task (.refl q w) _ (if_neg hne) trivial
  | rescan p provider epoch rooms =>
    have hne : p ≠ q := by
      rintro rfl
      exact hown (.merge p provider epoch rooms)
    rw [errands_of_searcher? rfl hne]
    exact bystands_task (.refl q w) _ (if_neg hne) trivial
  | @merge p _ _ provider rooms =>
    have hne : p ≠ q := by
      rintro rfl
      exact hown (.merge p provider _ rooms)
    rw [errands_of_searcher? rfl hne]
    exact bystands_change (.refl q w) hne _
  | complete =>
    rw [errands_of_isSpent rfl]
    exact bystands_moveTo (.refl q w) _ _
  | search p provider rest =>
    -- a scan comes before the rest of the search, and both are of the query or neither is
    refine ⟨.refl q w, ?_, ?_⟩
    · rw [Task.errands_search_cons]
      show _ ++ (_ ++ []) = _
      rw [List.append_nil]
    · intro t ht
      rcases List.mem_cons.mp ht with rfl | ht
      · trivial
      · rw [List.mem_singleton.mp ht]
        trivial
  | publish p audience d rest b =>
    have hcourse : SameCourse q w (w.publish b ⟨.query p, d.news⟩) := .of_queries_eq rfl rfl
    exact bystands_task hcourse (.notify p audience rest) rfl trivial
  | hear p audience d rest =>
    exact bystands_task (.refl q w) (.notify p audience rest) rfl trivial
  | cancelEach p rest => exact (bystands_cancel h p).andThen (t := .cancelEach rest) trivial

/-! ### Calls from outside -/

theorem SameCourse.createQuery (hq : w.query? q = some query) (text : String) (isTracked : Bool) :
    SameCourse q w (w.createQuery text isTracked).1 := by
  refine .of_query?_eq rfl ?_
  rw [query?_createQuery_of_some text isTracked hq, hq]

theorem SameCourse.mention (w : World) (m : ServiceMention) : SameCourse q w (w.mention m) :=
  .of_query?_eq rfl (query?_ensureService ..)

theorem Runs.bystands (h : w.Runs p m) (hne : p ≠ q) : w.Bystands q [] m := by
  have hcourse := SameCourse.modifyQuery_of_ne w hne fun query => { query with started := true }
  cases h with
  | still => exact bystands_still (.refl q w)
  | late => exact bystands_still hcourse
  | search => exact bystands_task hcourse _ (Task.errands_search_of_ne hne _) trivial

theorem Sets.bystands (hsets : w.Sets p m) (h : w.Accounts) : w.Bystands q [] m := by
  cases hsets with
  | still => exact bystands_still (.refl q w)
  | canceled => exact bystands_cancel h p
  | completed => exact bystands_moveTo (.refl q w) p _

theorem bystands_subscribe (h : w.Accounts) (hp : w.query? p = some query)
    (halive : query.alive = true) (subscriber : Subscriber) :
    w.Bystands q [] (.still (w.subscribe p subscriber).1) :=
  bystands_still (.of_amends (h.subscribe hp halive subscriber) hp ⟨rfl, rfl, rfl, rfl⟩)

theorem bystands_unsubscribe (h : w.Accounts) (hp : w.query? p = some query)
    (id : SubscriptionId) : w.Bystands q [] (.still (w.unsubscribe p id).1) := by
  by_cases hany : (query.subscribers.any fun s => s.1 == id) = true
  · exact bystands_still (.of_amends (h.unsubscribe hp hany) hp ⟨rfl, rfl, rfl, rfl⟩)
  · rw [unsubscribe, hp]
    dsimp only
    rw [if_neg hany]
    exact bystands_still (.refl q w)

/-- The registry announces something. -/
theorem bystands_announceRegistration (h : SameCourse q w w') (s : ServiceId)
    (change : RegistrationChange) (ownerStopping : Bool) :
    w.Bystands q [] (w'.announceRegistration s change ownerStopping) :=
  bystands_task h _ rfl fun hurgent => by cases hurgent

/-- The actions that announce rooms, providers or presences, with the moves they lead to. -/
inductive Spreads (w : World) : Action → Move → Prop where
  | addRoom (p : ProviderId) (room : Room) : Spreads w (.addRoom p room) (w.addRoom p room)
  | removeRoom (p : ProviderId) (name : String) :
      Spreads w (.removeRoom p name) (w.removeRoom p name)
  | setAutoJoin (p : ProviderId) (name : String) (autoJoin : Bool) :
      Spreads w (.setAutoJoin p name autoJoin) (w.setAutoJoin p name autoJoin)
  | addProvider (p : ProviderId) (rooms : List Room) :
      Spreads w (.addProvider p rooms) (w.addProvider p rooms)
  | removeProvider (p : ProviderId) : Spreads w (.removeProvider p) (w.removeProvider p)
  | announceRoom (p : ProviderId) (room : Room) (change : RoomChange) :
      Spreads w (.announceRoom p room change) (w.announceRoom p room change)
  | announceProvider (p : ProviderId) (change : ProviderChange) :
      Spreads w (.announceProvider p change) (w.announceProvider p change)
  | presence (service : ServiceMention) (provider : Option ProviderId) (room identifier : String)
      (change : PresenceChange) (notice : PresenceNotice) :
      Spreads w (.presence service provider room identifier change)
        ((w.mention service).announce (.presence service.id) (.presence notice))

/-- **Any other action** leaves a query in its course, unless it asks the query to search. -/
theorem Acts.bystands {named : String → Option QueryId} {a : Action} (hacts : Acts w named a m)
    (h : w.Accounts) (hq : w.query? q = some query)
    (hnamed : ∀ {name p}, named name = some p →
      ∃ query, w.query? p = some query ∧ query.alive = true) :
    w.Bystands q [] m ∨ m = (w.run q).1 ∨ w.Spreads a m := by
  cases hacts with
  | idle hother =>
    obtain ⟨buses, closedBuses, rfl⟩ := hother
    exact .inl (bystands_still (.of_queries_eq rfl rfl))
  | read => exact .inl ⟨.refl q w, rfl, List.forall_mem_nil _⟩
  | create name text isTracked => exact .inl (bystands_still (.createQuery hq text isTracked))
  | run p =>
    -- the query itself may be asked to search
    by_cases hpq : p = q
    · exact .inr (.inl (by rw [hpq]))
    · exact .inl ((runs_run w p).bystands hpq)
  | setStatus p status => exact .inl ((sets_setStatus w p status).bystands h)
  | cancel p => exact .inl (bystands_cancel h p)
  | cancelAll =>
    have hcourse : SameCourse q w { w with tracked := [] } := .of_queries_eq rfl rfl
    exact .inl (bystands_task hcourse (.cancelEach w.aliveQueries) rfl trivial)
  | listen hp subscriber =>
    obtain ⟨other, hother, halive⟩ := hnamed hp
    exact .inl (bystands_subscribe h hother halive subscriber)
  | unlisten hp id =>
    obtain ⟨other, hother, -⟩ := hnamed hp
    exact .inl (bystands_unsubscribe h hother id)
  -- these announce something
  | addRoom p room => exact .inr (.inr (.addRoom p room))
  | removeRoom p name => exact .inr (.inr (.removeRoom p name))
  | setAutoJoin p name autoJoin => exact .inr (.inr (.setAutoJoin p name autoJoin))
  | addProvider p rooms => exact .inr (.inr (.addProvider p rooms))
  | removeProvider p => exact .inr (.inr (.removeProvider p))
  | announceRoom p room change => exact .inr (.inr (.announceRoom p room change))
  | announceProvider p change => exact .inr (.inr (.announceProvider p change))
  | presence service provider room identifier change hpresence =>
    obtain ⟨notice, rfl⟩ := exists_of_announcePresence? hpresence
    exact .inr (.inr (.presence service provider room identifier change notice))
  | register service =>
    have hcourse : SameCourse q w { w.mention service with
        registry := (w.mention service).registry ++ [service.id] } :=
      (SameCourse.mention w service).trans (.of_queries_eq rfl rfl)
    exact .inl (bystands_announceRegistration hcourse ..)
  | unregister service ownerStopping =>
    exact .inl ((bystands_announceRegistration (.mention w service) ..).andThen
      (t := .withdraw service.id) trivial)
  | announceRegistration service change ownerStopping =>
    exact .inl (bystands_announceRegistration (.mention w service) ..)
  | mention service => exact .inl (bystands_still (.mention w service))
  | @tap target name uses steps w' hw x hfeed t =>
    have hcourse : SameCourse q w w' := by
      rcases hw with hw | ⟨service, hw⟩
      · rw [hw]
        exact .refl q w
      · rw [hw]
        exact .mention w service
    have hwatch : SameCourse q w' (w'.watch x (.tap t)).1 :=
      .of_query?_eq (Rewires.watch q w' x (.tap t)).directory (query?_watch ..)
    exact .inl (bystands_still (hcourse.trans hwatch))

end World

end RoomSearch
