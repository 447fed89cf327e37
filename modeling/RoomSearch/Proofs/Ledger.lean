import RoomSearch.Proofs.Picture
import RoomSearch.Proofs.Session.History

/-!
# The ledger of news

A change of a query sends a letter to each of its subscriptions, for each piece of news; a delivery
is the receipt of one letter; and the letters that are owed are those of the notifications in
progress.  Listeners may call back and change queries meanwhile, so letters are received in any
order; but whatever a move of the world does, it turns letters that were owed or are sent into
letters that are received or are owed.

## Main definitions

* `Letter` — a piece of news of a query for one of its subscriptions.
* `Note.sent`, `Note.received`, `Task.owed` — letters of notes and of tasks.
* `World.subscriptions` — the subscriptions of a query.
* `World.Tidy` — results are in order.
* `World.Tells` — a move accounts for its letters, and tells all that it changes.

## Main results

* `World.Advances.tells`, `World.tells_acts` — **all moves of tasks and actions** do so.
-/

namespace RoomSearch

/-- A piece of news of a query for one of its subscriptions. -/
structure Letter where
  /-- The query. -/
  query : QueryId
  /-- The subscription. -/
  subscription : SubscriptionId
  /-- The news. -/
  news : News
deriving DecidableEq, Repr

/-- The letter that a delivery of a query hands over. -/
def Delivery.letter (q : QueryId) (d : Delivery) : Letter := ⟨q, d.subscription, d.news⟩

/-- The letters that are sent: each piece of news to each subscription. -/
def Note.sent : Note → List Letter
  | .committed q news subscriptions => news.flatMap fun n => subscriptions.map fun id => ⟨q, id, n⟩
  | _ => []

/-- The letters that are received. -/
def Note.received : Note → List Letter
  | .delivered q d => [d.letter q]
  | _ => []

/-- The news of a query. -/
def Note.newsOf (q : QueryId) : Note → List News
  | .committed p news _ => if p = q then news else []
  | _ => []

/-- The letters that are owed by a task. -/
def Task.owed : Task → List Letter
  | .notify q _ rest => rest.map (Delivery.letter q)
  | _ => []

/-- The letters that are owed by a call. -/
def Call.owed (c : Call) : List Letter := c.task?.elim [] Task.owed

/-- Notes that have nothing to do with news. -/
def Note.IsQuiet : Note → Prop
  | .committed .. => False
  | .delivered .. => False
  | _ => True

/-- What becomes of results when a list of rooms has changed is told. -/
theorem ResultSet.told_revise {s : ResultSet} (h : s.Sorted) (notice : RoomNotice) :
    s.Told (s.revise notice) := by
  unfold revise
  split
  · exact told_mergeRoom h ..
  · exact told_dropRoom h _
  · exact told_setAutoJoin h ..

namespace World

/-- The subscriptions of a query. -/
def subscriptions (w : World) (q : QueryId) : List SubscriptionId :=
  (w.query? q).elim [] fun query => query.subscribers.map Prod.fst

/-- The results of all queries are in order. -/
def Tidy (w : World) : Prop := ∀ {q query}, w.query? q = some query → query.results.Sorted

/-- A move accounts for its letters, `owed` being those that were owed by the task, and tells all
that it changes. -/
structure Tells (w : World) (owed : List Letter) (m : Move) : Prop where
  /-- Letters that were owed or are sent are received or still owed. -/
  letters : m.notes.flatMap Note.received ++ m.tasks.flatMap Task.owed =
    owed ++ m.notes.flatMap Note.sent
  /-- News are sent to the subscriptions there are. -/
  committed : ∀ {q news ids}, .committed q news ids ∈ m.notes → ids = w.subscriptions q
  /-- News lead from what there was to be known of a query to what there is now. -/
  pictures : ∀ {q query}, w.query? q = some query → ∃ query', m.world.query? q = some query' ∧
    query.picture.replay (m.notes.flatMap (Note.newsOf q)) = some query'.picture
  tidy : m.world.Tidy

variable {w w' : World} {m : Move} {q : QueryId} {query query' : Query}

/-! ### Moves without news -/

/-- Nothing that subscribers can know is different. -/
def KeepsPictures (w w' : World) : Prop :=
  (∀ {q query}, w.query? q = some query → ∃ query', w'.query? q = some query' ∧
    query'.picture = query.picture) ∧ (w.Tidy → w'.Tidy)

theorem KeepsPictures.of_queries_eq (h : w'.queries = w.queries) : w.KeepsPictures w' := by
  refine ⟨fun hq => ⟨_, (query?_of_queries_eq h _).trans hq, rfl⟩, ?_⟩
  intro htidy q query hq
  rw [query?_of_queries_eq h] at hq
  exact htidy hq

theorem KeepsPictures.refl (w : World) : w.KeepsPictures w := .of_queries_eq rfl

/-- One query is different, and it looks the same. -/
theorem KeepsPictures.of_others (hothers : ∀ {p}, p ≠ q → w'.query? p = w.query? p)
    (hq : w.query? q = some query) (hq' : w'.query? q = some query')
    (hpicture : query'.picture = query.picture) : w.KeepsPictures w' := by
  refine ⟨?_, ?_⟩
  · intro p old hp
    rcases eq_or_query?_of_others hothers hq hp with ⟨rfl, rfl⟩ | ⟨-, hold⟩
    · exact ⟨query', hq', hpicture⟩
    · exact ⟨old, hold, rfl⟩
  · intro htidy p new hp
    rcases eq_or_query?_of_others (fun hne => (hothers hne).symm) hq' hp with ⟨rfl, rfl⟩ | ⟨-, hold⟩
    · have hresults : new.results = query.results := congrArg Picture.results hpicture
      rw [hresults]
      exact htidy hq
    · exact htidy hold

theorem KeepsPictures.of_amends (h : w.Amends w' q query') (hq : w.query? q = some query)
    (hpicture : query'.picture = query.picture) : w.KeepsPictures w' := by
  obtain ⟨a, hq'⟩ := h.found
  exact .of_others h.rewires.others hq hq' hpicture

theorem KeepsPictures.modifyQuery (w : World) (q : QueryId) {f : Query → Query}
    (hf : ∀ query, (f query).picture = query.picture) : w.KeepsPictures (w.modifyQuery q f) := by
  cases hq : w.query? q with
  | none =>
    rw [modifyQuery_of_none hq]
    exact .refl w
  | some query =>
    exact .of_others (fun hp => query?_modifyQuery_of_ne _ _ hp.symm) hq
      (query?_modifyQuery_self f hq) (hf query)

/-- A move without news. -/
theorem tells_quiet (htidy : w.Tidy) (hnotes : ∀ note ∈ m.notes, note.IsQuiet)
    (htasks : m.tasks.flatMap Task.owed = []) (hkeeps : w.KeepsPictures m.world) :
    w.Tells [] m := by
  have hnone : ∀ {α : Type} {f : Note → List α}, (∀ note, note.IsQuiet → f note = []) →
      m.notes.flatMap f = [] := fun hf =>
    List.flatMap_eq_nil_iff.mpr fun note hnote => hf note (hnotes note hnote)
  have hreceived : m.notes.flatMap Note.received = [] := hnone fun note hnote => by
    cases note <;> first | rfl | cases hnote
  have hsent : m.notes.flatMap Note.sent = [] := hnone fun note hnote => by
    cases note <;> first | rfl | cases hnote
  refine ⟨by rw [hreceived, hsent, htasks], fun hmem => absurd (hnotes _ hmem) id,
    ?_, hkeeps.2 htidy⟩
  intro q query hq
  have hnews : m.notes.flatMap (Note.newsOf q) = [] := hnone fun note hnote => by
    cases note <;> first | rfl | cases hnote
  obtain ⟨query', hq', hpicture⟩ := hkeeps.1 hq
  refine ⟨query', hq', ?_⟩
  rw [hnews, Picture.replay_nil, hpicture]

/-- A move that does nothing worth noting. -/
theorem tells_silent (htidy : w.Tidy) (hnotes : m.notes = [])
    (htasks : m.tasks.flatMap Task.owed = []) (hkeeps : w.KeepsPictures m.world) :
    w.Tells [] m := by
  refine tells_quiet htidy ?_ htasks hkeeps
  rw [hnotes]
  exact List.forall_mem_nil _

theorem tells_still (htidy : w.Tidy) (hkeeps : w.KeepsPictures w') : w.Tells [] (.still w') :=
  tells_silent htidy rfl rfl hkeeps

/-- A move that notes one thing, which has nothing to do with news. -/
theorem tells_note (htidy : w.Tidy) {note : Note} (hnotes : m.notes = [note])
    (hquiet : note.IsQuiet) (htasks : m.tasks.flatMap Task.owed = [])
    (hkeeps : w.KeepsPictures m.world) : w.Tells [] m := by
  refine tells_quiet htidy ?_ htasks hkeeps
  intro other hother
  rw [hnotes] at hother
  rwa [List.mem_singleton.mp hother]

/-- More to be done at the end, none of it a notification. -/
theorem Tells.andThen {owed : List Letter} {tasks : List Task} (h : w.Tells owed m)
    (htasks : tasks.flatMap Task.owed = []) : w.Tells owed (m.andThen tasks) where
  letters := by
    show _ ++ (m.tasks ++ tasks).flatMap Task.owed = _
    rw [List.flatMap_append, htasks, List.append_nil]
    exact h.letters
  committed := h.committed
  pictures := h.pictures
  tidy := h.tidy

/-! ### Moves with news -/

/-- What is on its way to the subscribers is what is sent to their subscriptions. -/
theorem map_letter_deliveries (q : QueryId) (news : List News)
    (subscribers : List (SubscriptionId × Subscriber)) :
    (deliveries news subscribers).map (Delivery.letter q) =
      news.flatMap fun n => (subscribers.map (·.1)).map fun id => ⟨q, id, n⟩ := by
  simp only [deliveries, List.map_flatMap, List.map_map]
  rfl

/-- **A change of one query** that is made known: the news lead from what it was to what it is. -/
theorem tells_commit (htidy : w.Tidy) {news : List News}
    (hothers : ∀ {p}, p ≠ q → w'.query? p = w.query? p) (hq : w.query? q = some query)
    (hq' : w'.query? q = some query') (hsub : query'.subscribers = query.subscribers)
    (hreplay : query.picture.replay news = some query'.picture)
    (hsorted : query'.results.Sorted) : w.Tells [] (w'.commit q news) := by
  have htidy' : w'.Tidy := by
    intro p new hp
    rcases eq_or_query?_of_others (fun hne => (hothers hne).symm) hq' hp with ⟨rfl, rfl⟩ | ⟨-, hold⟩
    · exact hsorted
    · exact htidy hold
  -- only the picture of the query changes
  have hpicture : ∀ {p old}, w.query? p = some old → ∃ new, w'.query? p = some new ∧
      old.picture.replay (if q = p then news else []) = some new.picture := by
    intro p old hp
    rcases eq_or_query?_of_others hothers hq hp with ⟨rfl, rfl⟩ | ⟨hpq, hold⟩
    · exact ⟨query', hq', by rw [if_pos rfl, hreplay]⟩
    · exact ⟨old, hold, by rw [if_neg (Ne.symm hpq), Picture.replay_nil]⟩
  cases news with
  | nil =>
    -- there is nothing to tell
    refine tells_still htidy ⟨?_, fun _ => htidy'⟩
    intro p old hp
    obtain ⟨new, hnew, heq⟩ := hpicture hp
    rw [ite_self, Picture.replay_nil] at heq
    exact ⟨new, hnew, (Option.some.inj heq).symm⟩
  | cons n rest =>
    have hfound : (w'.query? q).elim [] Query.subscribers = query.subscribers := by
      rw [hq', Option.elim_some, hsub]
    -- all news goes to everyone who is subscribed now
    refine ⟨?_, ?_, ?_, htidy'⟩
    · simp only [commit, List.flatMap_cons, List.flatMap_nil, List.append_nil, Task.owed,
        Note.received, Note.sent, map_letter_deliveries, List.nil_append]
    · intro p news' ids hmem
      rw [commit, List.mem_singleton] at hmem
      cases hmem
      rw [hfound, subscriptions, hq, Option.elim_some]
    · intro p old hp
      obtain ⟨new, hnew, heq⟩ := hpicture hp
      refine ⟨new, hnew, ?_⟩
      rw [← heq]
      simp only [commit, List.flatMap_cons, List.flatMap_nil, List.append_nil, Note.newsOf]

/-- A change of results, perhaps after the beginning of a new epoch. -/
theorem tells_change (htidy : w.Tidy) (hothers : ∀ {p}, p ≠ q → w'.query? p = w.query? p)
    (hq : w.query? q = some query) (hq' : w'.query? q = some query')
    (hsub : query'.subscribers = query.subscribers) (hpicture : query'.picture = query.picture)
    {outcome : List News × ResultSet} (htold : query.results.Told outcome) :
    w.Tells [] (w'.change q outcome) := by
  have hstatus : query'.status = query.status := congrArg Picture.status hpicture
  rw [change]
  refine tells_commit htidy ?_ hq (query?_modifyQuery_self _ hq') hsub ?_ htold.sorted
  · intro p hp
    rw [query?_modifyQuery_of_ne _ _ hp.symm, hothers hp]
  · rw [Query.picture, Query.picture, hstatus]
    exact htold.replay query.status

theorem tells_change_self (htidy : w.Tidy) (hq : w.query? q = some query)
    {outcome : List News × ResultSet} (htold : query.results.Told outcome) :
    w.Tells [] (w.change q outcome) := tells_change htidy (fun _ => rfl) hq hq rfl rfl htold

theorem tells_change_advanceEpoch (htidy : w.Tidy) (hq : w.query? q = some query)
    {outcome : List News × ResultSet} (htold : query.results.Told outcome) :
    w.Tells [] ((w.modifyQuery q Query.advanceEpoch).change q outcome) :=
  tells_change htidy (fun hp => query?_modifyQuery_of_ne _ _ hp.symm) hq
    (query?_modifyQuery_self _ hq) rfl rfl htold

/-- A move of the status to another one. -/
theorem replay_moved {status : Status} (hne : query.status ≠ status) :
    query.picture.replay [.moved status] =
      some ({ query with status := status } : Query).picture := by
  rw [Picture.replay_singleton]
  exact if_neg hne

theorem tells_complete (htidy : w.Tidy) (hq : w.query? q = some query)
    (hrunning : query.status = .running) : w.Tells [] (w.moveTo q .completed) := by
  have hsorted := htidy hq
  refine tells_commit htidy (fun hp => query?_modifyQuery_of_ne _ _ hp.symm) hq
    (query?_modifyQuery_self _ hq) rfl (replay_moved ?_) hsorted
  rw [hrunning]
  exact nofun

theorem tells_cancel (h : w.Accounts) (htidy : w.Tidy) (q : QueryId) :
    w.Tells [] (w.cancel q) := by
  cases hq : w.query? q with
  | none =>
    rw [cancel, hq]
    exact tells_still htidy (.refl w)
  | some query =>
    have hamends := h.cancel hq
    obtain ⟨a, hfound⟩ := hamends.found
    have hothers : ∀ {p}, p ≠ q → (w.cancel q).world.query? p = w.query? p :=
      fun hp => hamends.rewires.others hp
    have hsorted := htidy hq
    revert hfound hothers
    rw [cancel, hq]
    dsimp only
    split
    · next hcanceled =>
      intro hfound hothers
      refine tells_still htidy (.of_others hothers hq hfound ?_)
      have hstatus : query.status = .canceled := by simpa [Query.isCanceled] using hcanceled
      rw [Query.picture, Query.picture, hstatus]
    · next hlive =>
      rw [moveTo, world_commit]
      intro hfound hothers
      refine tells_commit htidy hothers hq hfound rfl (replay_moved fun heq => hlive ?_) hsorted
      rw [Query.isCanceled, heq]
      rfl

/-! ### Tasks -/

/-- **A query answers an announcement** and tells all that it changes. -/
theorem Follows.tells {notice : Notice} (hfollows : w.Follows q query notice m) (h : w.Accounts)
    (htidy : w.Tidy) (hq : w.query? q = some query) : w.Tells [] m := by
  have hsorted := htidy hq
  cases hfollows with
  | still => exact tells_still htidy (.refl w)
  | presence houtcome =>
    exact tells_change_self htidy hq (ResultSet.told_setPresence? hsorted houtcome)
  | joined notice autoJoin => exact tells_note htidy rfl trivial rfl (.refl w)
  | rooms notice => exact tells_change_advanceEpoch htidy hq (ResultSet.told_revise hsorted notice)
  | entered p => exact tells_silent htidy rfl rfl (.modifyQuery w q fun _ => rfl)
  | gone p => exact tells_change_advanceEpoch htidy hq (ResultSet.told_dropProvider hsorted p)
  | registration notice =>
    rw [followRegistry_eq_still]
    exact tells_still htidy (.of_amends (h.followRegistry hq notice) hq rfl)

theorem tells_follow (h : w.Accounts) (htidy : w.Tidy) (q : QueryId) (notice : Notice) :
    w.Tells [] (w.follow q notice) := by
  rcases follow_spec w q notice with hstill | ⟨query, hq, hfollows⟩
  · rw [hstill]
    exact tells_still htidy (.refl w)
  · exact hfollows.tells h htidy hq

/-- One letter is handed over, and nothing is different about the queries. -/
theorem tells_deliver (htidy : w.Tidy) (hqueries : w'.queries = w.queries)
    (audience : List Subscriber) (d : Delivery) (rest : List Delivery)
    (callback : Option Callback) : w.Tells ((d :: rest).map (Delivery.letter q))
      ⟨w', [.notify q audience rest], callback, [.delivered q d]⟩ := by
  have hkeeps := KeepsPictures.of_queries_eq hqueries
  refine ⟨?_, ?_, ?_, hkeeps.2 htidy⟩
  · simp only [List.flatMap_cons, List.flatMap_nil, List.append_nil, Note.received, Note.sent,
      Task.owed, List.map_cons, List.singleton_append]
  · intro p news ids hmem
    cases List.mem_singleton.mp hmem
  · intro p old hp
    obtain ⟨new, hnew, heq⟩ := hkeeps.1 hp
    exact ⟨new, hnew, by rw [heq]; rfl⟩

/-- Nothing is owed by a task of which nothing is left. -/
theorem owed_of_isSpent {t : Task} (h : t.isSpent = true) : t.owed = [] := by
  cases t with
  | notify q audience rest =>
    have hrest : rest = [] := List.isEmpty_iff.mp h
    rw [hrest]
    rfl
  | _ => rfl

/-- Nothing is owed by a task that finds results. -/
theorem owed_of_searcher? {t : Task} (h : t.searcher? = some q) : t.owed = [] := by
  cases t with
  | notify => cases h
  | _ => rfl

/-- **A task goes on**: what it owed is received or owed still. -/
theorem Advances.tells {t : Task} (hadvances : w.Advances t m) (h : w.Accounts)
    (htidy : w.Tidy) : w.Tells t.owed m := by
  cases hadvances with
  | spent hspent =>
    rw [owed_of_isSpent hspent]
    exact tells_still htidy (.refl w)
  | dropped hq =>
    rw [owed_of_searcher? hq]
    exact tells_still htidy (.refl w)
  | tell notice q rest => exact (tells_follow h htidy q notice).andThen rfl
  | tap notice t rest => exact tells_note htidy rfl trivial rfl (.refl w)
  | withdraw s => exact tells_still htidy (.of_queries_eq rfl)
  | mergeJoined hq notice autoJoin =>
    exact tells_change_self htidy hq (ResultSet.told_mergeJoined (htidy hq) ..)
  | scan hq p => exact tells_note htidy rfl trivial rfl (.refl w)
  | rescan q p epoch rooms => exact tells_silent htidy rfl rfl (.refl w)
  | merge hq p rooms matching =>
    exact tells_change_self htidy hq (ResultSet.told_mergeRooms (htidy hq) ..)
  | complete hq hrunning => exact tells_complete htidy hq hrunning
  | search q p rest => exact tells_silent htidy rfl rfl (.refl w)
  | publish q audience d rest b =>
    have hqueries : (w.publish b ⟨.query q, d.news⟩).queries = w.queries := rfl
    exact tells_deliver htidy hqueries audience d rest _
  | hear q audience d rest name => exact tells_deliver htidy rfl audience d rest _
  | cancelEach q rest => exact (tells_cancel h htidy q).andThen rfl

/-! ### Actions -/

theorem KeepsPictures.createQuery (w : World) (text : String) (isTracked : Bool) :
    w.KeepsPictures (w.createQuery text isTracked).1 := by
  refine ⟨?_, ?_⟩
  · intro q query hq
    exact ⟨query, query?_createQuery_of_some text isTracked hq, rfl⟩
  · intro htidy q query hq
    rw [query?_createQuery] at hq
    split at hq
    · cases hq
      exact Keyed.sorted_nil
    · exact htidy hq

theorem Runs.tells (hruns : w.Runs q m) (htidy : w.Tidy) : w.Tells [] m := by
  have hstart : w.KeepsPictures (w.modifyQuery q fun query => { query with started := true }) :=
    .modifyQuery w q fun _ => rfl
  cases hruns with
  | still => exact tells_still htidy (.refl w)
  | late => exact tells_still htidy hstart
  | search => exact tells_note htidy rfl trivial rfl hstart

theorem Sets.tells (hsets : w.Sets q m) (h : w.Accounts) (htidy : w.Tidy) : w.Tells [] m := by
  cases hsets with
  | still => exact tells_still htidy (.refl w)
  | canceled => exact tells_cancel h htidy q
  | completed hq hrunning => exact tells_complete htidy hq hrunning

/-- **An action** owes nothing before it begins. -/
theorem tells_acts {named : String → Option QueryId} {a : Action} (h : w.Accounts)
    (htidy : w.Tidy) (hacts : Acts w named a m)
    (hnamed : ∀ {name q}, named name = some q →
      ∃ query, w.query? q = some query ∧ query.alive = true) : w.Tells [] m := by
  -- an announcement is a task that owes nothing
  have announced : ∀ {w' : World} {tasks : List Task}, w'.queries = w.queries →
      tasks.flatMap Task.owed = [] → w.Tells [] (.doing w' tasks) :=
    fun hqueries htasks => tells_silent htidy rfl htasks (.of_queries_eq hqueries)
  cases hacts with
  | idle haside =>
    obtain ⟨buses, closedBuses, rfl⟩ := haside
    exact tells_still htidy (.of_queries_eq rfl)
  | read => exact tells_silent htidy rfl rfl (.refl w)
  | create text isTracked => exact tells_still htidy (.createQuery ..)
  | run q => exact (runs_run w q).tells htidy
  | setStatus q status => exact (sets_setStatus w q status).tells h htidy
  | cancel q => exact tells_cancel h htidy q
  | cancelAll => exact announced rfl rfl
  | listen hq subscriber =>
    obtain ⟨query, hquery, halive⟩ := hnamed hq
    exact tells_still htidy (.of_amends (h.subscribe hquery halive subscriber) hquery rfl)
  | unlisten hq id =>
    obtain ⟨query, hquery, -⟩ := hnamed hq
    by_cases hany : (query.subscribers.any fun s => s.1 == id) = true
    · exact tells_still htidy (.of_amends (h.unsubscribe hquery hany) hquery rfl)
    · rw [unsubscribe, hquery]
      dsimp only
      rw [if_neg hany]
      exact tells_still htidy (.refl w)
  | addRoom | removeRoom | setAutoJoin | addProvider | removeProvider => exact announced rfl rfl
  | announceRoom | announceProvider => exact announced rfl rfl
  | register | unregister | announceRegistration => exact announced rfl rfl
  | presence m provider room identifier change hpresence =>
    obtain ⟨notice, rfl⟩ := exists_of_announcePresence? hpresence
    exact announced rfl rfl
  | mention m => exact tells_still htidy (.of_queries_eq rfl)
  | tap target name uses steps hw hfeed t =>
    refine tells_still htidy (.of_queries_eq ((queries_modifyFeed ..).trans ?_))
    rcases hw with rfl | ⟨m, rfl⟩ <;> rfl

end World

end RoomSearch
