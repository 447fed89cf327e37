import RoomSearch.Proofs.FirstSearch.Listings
import RoomSearch.Proofs.Rereading.Turns
import RoomSearch.Proofs.Session.Requests
import RoomSearch.Proofs.Session.LeftAlone

/-!
# The first search

A query that is asked to search reads the rooms of one provider after the other, merges those that
match, and tells its subscribers what is new before it reads on.  If nobody interferes, its results
and its news in the end can be read off the directory: they are what the listed rooms that match
come to, in the order of the directory, and last of all it is told that the search is complete.

## Main definitions

* `Session.Arrives` — where a query is after some steps, and what has been received by then.
* `Session.Finds` — what has come of a first search.

## Main results

* `Session.LeftAlone.notify`, `Session.LeftAlone.scan`, `Session.LeftAlone.search` — the parts of a
  search come to their ends one after the other.
* `Session.first_search` — **what a first search finds and tells**.
-/

namespace RoomSearch

/-- A listener of this name is subscribed to the query. -/
def Query.Tells (query : Query) (name : String) : Prop :=
  .listener name ∈ query.subscribers.map Prod.snd

/-- A listener that has news on the way is subscribed. -/
theorem Query.tells_of_mem_deliveries {query : Query} {news : List News} {d : Delivery}
    {name : String} (hd : d ∈ World.deliveries news query.subscribers)
    (hname : d.subscriber = .listener name) : query.Tells name := by
  obtain ⟨n, -, hd⟩ := List.mem_flatMap.mp hd
  obtain ⟨subscription, hsubscription, rfl⟩ := List.mem_map.mp hd
  exact List.mem_map.mpr ⟨subscription, hsubscription, hname⟩

namespace Session

variable {s t : Session} {q : QueryId} {query query' query'' : Query} {task : Task}
  {calls base base' : List Call} {letters letters' : List Letter} {m n : Nat}

/-- The letters by which news reach all these subscriptions. -/
def lettersOfNews (q : QueryId) (news : List News) (ids : List SubscriptionId) : List Letter :=
  Note.sent (.committed q news ids)

/-- After some steps the query is `query`, nobody has interfered, these calls are in progress, and
these letters have been received meanwhile.  The directory is the same. -/
structure Arrives (s : Session) (q : QueryId) (query : Query) (calls : List Call)
    (letters : List Letter) (n : Nat) : Prop where
  leftAlone : (s.steps n).LeftAlone q query.Tells
  directory : (s.steps n).world.directory = s.world.directory
  query : (s.steps n).world.query? q = some query
  calls : (s.steps n).calls = calls
  received : (s.steps n).received = s.received ++ letters

/-- It goes on from there. -/
theorem Arrives.trans (h : s.Arrives q query base letters m)
    (h' : (s.steps m).Arrives q query' base' letters' n) :
    s.Arrives q query' base' (letters ++ letters') (m + n) where
  leftAlone := by
    rw [steps_add]
    exact h'.leftAlone
  directory := by
    rw [steps_add]
    exact h'.directory.trans h.directory
  query := by
    rw [steps_add]
    exact h'.query
  calls := by
    rw [steps_add]
    exact h'.calls
  received := by
    rw [steps_add, h'.received, h.received, List.append_assoc]

/-- A task goes on by one move. -/
theorem LeftAlone.arrives_task (h : s.LeftAlone q query.Tells)
    (hcalls : s.calls = .task task :: calls)
    (hidle : ∀ c, (s.world.advance task).callback = some c → c.IsIdle query.Tells)
    (hq : (s.world.advance task).world.query? q = some query)
    (hdirectory : (s.world.advance task).world.directory = s.world.directory) :
    s.Arrives q query ((s.world.advance task).tasks.map Call.task ++ calls)
      ((s.world.advance task).notes.flatMap Note.received) 1 := by
  obtain ⟨hleftAlone, hcalls', hquery⟩ := h.step_task hcalls hidle
  obtain ⟨move, first, later, hgoes⟩ := goes_step hcalls
  have hreleases := hgoes.releases h.sound
  rw [hgoes.move_task] at hreleases
  refine ⟨hleftAlone, hreleases.directory.trans hdirectory, hquery.trans hq, hcalls', ?_⟩
  show s.step.received = _
  rw [received, hgoes.notes, hgoes.move_task, List.flatMap_append, received]

/-! ### News go out -/

/-- **News go out** to one subscriber after the other. -/
theorem LeftAlone.notify {audience : List Subscriber} {rest : List Delivery}
    (h : s.LeftAlone q query.Tells)
    (hcalls : s.calls = .task (.notify q audience rest) :: base)
    (hq : s.world.query? q = some query)
    (hrest : ∀ d ∈ rest, ∀ name, d.subscriber = .listener name → query.Tells name) :
    ∃ n, s.Arrives q query base (rest.map (Delivery.letter q)) n := by
  induction rest generalizing s with
  | nil => exact ⟨1, h.arrives_task hcalls nofun hq rfl⟩
  | cons d rest ih =>
    have hfirst : s.Arrives q query (.task (.notify q audience rest) :: base) [d.letter q] 1 := by
      obtain ⟨id, subscriber, news⟩ := d
      cases subscriber with
      | listener name =>
        refine h.arrives_task hcalls ?_ hq rfl
        rintro _ ⟨⟩
        exact hrest _ List.mem_cons_self name rfl
      | bus b => exact h.arrives_task hcalls nofun hq rfl
    obtain ⟨n, hlater⟩ := ih hfirst.leftAlone hfirst.calls hfirst.query
      fun d hd => hrest d (List.mem_cons_of_mem _ hd)
    exact ⟨1 + n, hfirst.trans hlater⟩

/-- **A change is made known**: its news have been received by all subscribers when the task that
makes it is over. -/
theorem LeftAlone.commit {w : World} {news : List News} (h : s.LeftAlone q query.Tells)
    (hcalls : s.calls = .task task :: base) (hmove : s.world.advance task = w.commit q news)
    (hq : w.query? q = some query) (hdirectory : w.directory = s.world.directory) :
    ∃ n, s.Arrives q query base (lettersOfNews q news (query.subscribers.map Prod.fst)) n := by
  have hfirst := h.arrives_task hcalls
    (by rw [hmove, World.callback_commit]; nofun) (by rw [hmove, World.world_commit, hq])
    (by rw [hmove, World.world_commit, hdirectory])
  rw [hmove] at hfirst
  cases news with
  | nil => exact ⟨1, hfirst⟩
  | cons n rest =>
    have htold : ∀ d ∈ World.deliveries (n :: rest) ((w.query? q).elim [] Query.subscribers),
        ∀ name, d.subscriber = .listener name → query.Tells name := by
      intro d hd name hname
      rw [hq] at hd
      exact Query.tells_of_mem_deliveries hd hname
    obtain ⟨k, hlater⟩ := hfirst.leftAlone.notify hfirst.calls hfirst.query htold
    refine ⟨1 + k, ?_⟩
    have harrives := hfirst.trans hlater
    rw [hq, Option.elim_some, World.map_letter_deliveries] at harrives
    exact harrives

/-! ### A provider is read -/

/-- **The rooms of a provider** are read and merged, and what is new is told. -/
theorem LeftAlone.scan {p : ProviderId} (h : s.LeftAlone q query.Tells)
    (hcalls : s.calls = .task (.scan q p) :: base) (hq : s.world.query? q = some query)
    (hlive : query.isCanceled = false) {outcome : List News × ResultSet}
    (houtcome : query.results.mergeRooms p ((s.world.directory.rooms p).filter fun room =>
      query.accepts room.name room.identifier) = outcome) :
    ∃ n, s.Arrives q { query with results := outcome.2 } base
      (lettersOfNews q outcome.1 (query.subscribers.map Prod.fst)) n := by
  have hscan : s.world.advance (.scan q p) = _ := World.advanceScan_of_active hq hlive p
  have hread := h.arrives_task hcalls (by rw [hscan]; rintro _ ⟨⟩; trivial)
    (by rw [hscan]; exact hq) (by rw [hscan])
  rw [hscan] at hread
  -- the query is in the epoch in which the rooms were read
  have hepoch : s.world.epoch q = (s.steps 1).world.epoch q := by
    rw [World.epoch_of_query? hq, World.epoch_of_query? hread.query]
  have hmerge : (s.steps 1).calls =
      .task (.merge q p ((s.steps 1).world.epoch q) (s.world.directory.rooms p)) :: base := by
    rw [hread.calls, hepoch]
    rfl
  have hchange := World.advanceMerge_of_fresh hread.query hlive p (s.world.directory.rooms p)
  rw [houtcome] at hchange
  have hleft : (s.steps 1).LeftAlone q { query with results := outcome.2 }.Tells := hread.leftAlone
  obtain ⟨n, hlater⟩ :=
    hleft.commit hmerge hchange (World.query?_modifyQuery_self _ hread.query) rfl
  exact ⟨1 + n, hread.trans hlater⟩

/-! ### The search -/

/-- News of several changes are received one after the other. -/
theorem lettersOfNews_append (q : QueryId) (news later : List News) (ids : List SubscriptionId) :
    lettersOfNews q (news ++ later) ids = lettersOfNews q news ids ++ lettersOfNews q later ids :=
  List.flatMap_append ..

/-- **A search** reads one provider after the other, and is complete then. -/
theorem LeftAlone.search {providers : List ProviderId} {before : List Listed}
    (h : s.LeftAlone q query.Tells)
    (hcalls : s.calls = .task (.search q providers) :: base) (hq : s.world.query? q = some query)
    (hrunning : query.status = .running) (hreflects : query.results.Reflects before) :
    ∃ n results, s.Arrives q { query with results := results, status := .completed } base
        (lettersOfNews q
          (Listed.told before (s.world.directory.matchingOf query.matcher providers) ++
            [.moved .completed]) (query.subscribers.map Prod.fst)) n ∧
      results.Reflects (before ++ s.world.directory.matchingOf query.matcher providers) := by
  have hlive : query.isCanceled = false := by
    rw [Query.isCanceled, hrunning]
    rfl
  induction providers generalizing s query before with
  | nil =>
    -- all providers have been read, so the query is completed
    have hmove : s.world.advance (.search q []) = s.world.moveTo q .completed := by
      show s.world.advanceSearch q [] = _
      rw [World.advanceSearch, hq]
      exact if_pos hrunning
    have hleft : s.LeftAlone q { query with status := .completed }.Tells := h
    obtain ⟨n, harrives⟩ := hleft.commit hcalls hmove (World.query?_modifyQuery_self _ hq) rfl
    refine ⟨n, query.results, harrives, ?_⟩
    rwa [Directory.matchingOf, List.flatMap_nil, List.append_nil]
  | cons p rest ih =>
    -- the next provider is scanned before the search goes on
    have hmove : s.world.advance (.search q (p :: rest)) =
        .doing s.world [.scan q p, .search q rest] := by
      show s.world.advanceSearch q (p :: rest) = _
      rw [World.advanceSearch, hq]
      dsimp only
      rw [hlive, if_neg Bool.false_ne_true]
    have hfirst := h.arrives_task hcalls (by rw [hmove]; rintro _ ⟨⟩)
      (by rw [hmove]; exact hq) (by rw [hmove]; rfl)
    rw [hmove] at hfirst
    obtain ⟨hnews, hreflects'⟩ := hreflects.mergeRooms p
      ((s.world.directory.rooms p).filter fun room => query.accepts room.name room.identifier)
    obtain ⟨k, hscan⟩ := hfirst.leftAlone.scan hfirst.calls hfirst.query hlive rfl
    rw [hfirst.directory] at hscan
    have harrives := hfirst.trans hscan
    obtain ⟨n, results, hlater, hlast⟩ :=
      ih harrives.leftAlone harrives.calls harrives.query hrunning hreflects' hlive
    rw [harrives.directory] at hlater hlast
    refine ⟨1 + k + n, results, ?_, ?_⟩
    · have htold := harrives.trans hlater
      rw [hnews, List.append_assoc] at htold
      rw [Directory.matchingOf_cons, Listed.told_append, List.append_assoc, lettersOfNews_append]
      exact htold
    · rw [Directory.matchingOf_cons, ← List.append_assoc]
      exact hlast

/-! ### The first search -/

/-- What has come of a first search that the action `a` has asked for, when it is over. -/
structure Finds (s : Session) (q : QueryId) (query : Query) (t : Session) : Prop where
  /-- The search is complete, and the results are in order. -/
  results : ∃ query', t.world.query? q = some query' ∧ query'.status = .completed ∧
    query'.results.Sorted ∧
    -- each name that is listed has one result, which is the last one listed
    ∀ e, e ∈ query'.results.entries ↔
      ∃ x, Listed.last? x.room.name (s.world.directory.matching query.matcher) = some x ∧
        e = x.entry
  directory : t.world.directory = s.world.directory
  /-- The subscribers are told of one listed room after the other, and then that this was all. -/
  received : t.received = s.received ++ lettersOfNews q
    (Listed.told [] (s.world.directory.matching query.matcher) ++ [.moved .completed])
    (s.world.subscriptions q)
  /-- So is each subscription by itself. -/
  news : ∀ id ∈ s.world.subscriptions q, newsTo id t.received = newsTo id s.received ++
    Listed.told [] (s.world.directory.matching query.matcher) ++ [.moved .completed]

/-- A query that is asked to search for the first time. -/
theorem LeftAlone.asked {a : Action} {name : String} {rest : List Action}
    (h : s.LeftAlone q query.Tells)
    (hcalls : s.calls = .script (a :: rest) :: base) (ha : a.searched? = some name)
    (hheld : s.query? name = some q) (hq : s.world.query? q = some query)
    (hstarted : query.started = false) (hrunning : query.status = .running) :
    s.Arrives q { query with started := true }
      (.task (.search q s.world.directory.providers) :: .answer a.verb .done :: .script rest ::
        base) [] 1 := by
  -- the query begins with the providers that are listed now
  have hrun : s.world.run q = (⟨s.world.modifyQuery q fun query => { query with started := true },
      [.search q s.world.directory.providers], none, [.consulted q]⟩, .ok ()) := by
    rw [World.run, hq]
    dsimp only
    rw [hstarted, if_neg Bool.false_ne_true, Query.isCanceled, hrunning]
    rfl
  have hstep : s.step = sweep { s with
      world := s.world.modifyQuery q fun query => { query with started := true }
      journal := .noted (.consulted q) :: s.journal
      calls := .task (.search q s.world.directory.providers) :: .answer a.verb .done ::
        .script rest :: base } := by
    rw [step_of_action hcalls, perform_searched (s := { s with calls := .script rest :: base })
      ha hheld]
    dsimp only
    rw [hrun]
    rfl
  have haccounts := h.sound.accounts.of_chain (World.runs_run s.world q).chain
  rw [hrun] at haccounts
  obtain ⟨m, first, later, hgoes⟩ := goes_step hcalls
  have hsound := hgoes.sound h.sound
  -- the query is held, so it is not let go
  obtain ⟨held, hmem, hheld'⟩ := h.held
  have hused : s.step.usesQuery q = true := by
    rw [usesQuery, Bool.or_eq_true, hstep]
    exact .inl (List.any_eq_true.mpr ⟨held, hmem, beq_iff_eq.mpr hheld'⟩)
  have hreleases : World.Releases s.step.usesQuery
      (s.world.modifyQuery q fun query => { query with started := true }) s.step.world := by
    rw [hstep]
    exact World.releases_release haccounts ..
  refine ⟨?_, hreleases.directory, ?_, ?_, ?_⟩
  · show s.step.LeftAlone q query.Tells
    rw [hstep] at hsound ⊢
    exact ⟨hsound, h.deaf, h.unhooked, held, hmem, hheld'⟩
  · exact (hreleases.same q hused).trans (World.query?_modifyQuery_self _ hq)
  · show s.step.calls = _
    rw [hstep]
    rfl
  · show s.step.received = _
    rw [hstep, List.append_nil, received, received, notes, notes]
    show ((Line.noted (.consulted q) :: s.journal).filterMap Line.note?).reverse.flatMap _ = _
    simp [Line.note?, Note.received]

/-- **What a first search finds and tells.**  A query that has found nothing yet is asked to search,
for the first time, wherever this is done; its listeners do not call back, and nothing is in store
for when the directory is read.  Then the search comes to its end.  The results are one for each
name that is listed and matches, the last one in the order of the directory, and the subscribers
have been told of the listed rooms in this order: the first one of a name is found, a later one is a
change if it is different from the one before it, and last of all the search is complete. -/
theorem first_search {a : Action} {name : String} {rest : List Action}
    (h : Reachable Unrestricted s)
    (hpassive : ∀ l ∈ s.listeners, query.Tells l.name → l.reactions = []) (hhook : s.hook = none)
    (hcalls : s.calls = .script (a :: rest) :: base) (ha : a.searched? = some name)
    (hheld : s.query? name = some q) (hq : s.world.query? q = some query)
    (hrunning : query.status = .running) (hstarted : query.started = false)
    (hempty : query.results = .empty) :
    ∃ n, (s.steps n).calls = .answer a.verb .done :: .script rest :: base ∧
      s.Finds q query (s.steps n) := by
  have horderly := orderly_of_reachable h
  obtain ⟨held, hmem, hq'⟩ := Option.map_eq_some_iff.mp hheld
  have hleftAlone : s.LeftAlone q query.Tells :=
    ⟨horderly.sound, hpassive, hhook, held, Keyed.mem_of_find? hmem, hq'⟩
  have hasked := hleftAlone.asked hcalls ha hheld hq hstarted hrunning
  have hreflects : query.results.Reflects [] := hempty ▸ ResultSet.reflects_empty
  obtain ⟨n, results, hsearched, hlast⟩ :=
    LeftAlone.search hasked.leftAlone hasked.calls hasked.query hrunning hreflects
  have harrives := hasked.trans hsearched
  rw [hasked.directory] at harrives hlast
  have hsubscriptions : query.subscribers.map Prod.fst = s.world.subscriptions q := by
    rw [World.subscriptions, hq]
    rfl
  have hreceived := harrives.received
  rw [List.nil_append] at hreceived
  have hleads : Leads Unrestricted s (s.steps (1 + n)) := leads_steps _ fun _ _ _ _ => trivial
  have hsorted : results.Sorted := (horderly.leads hleads).tidy harrives.query
  rw [hsubscriptions] at hreceived
  refine ⟨1 + n, harrives.calls, ⟨_, harrives.query, rfl, hsorted, ?_⟩, harrives.directory,
    hreceived, ?_⟩
  · exact fun e => hlast.mem_entries_iff hsorted
  · intro id hid
    -- every subscription is told all of it, and once
    have hnodup := nodup_subscriptions horderly.sound q
    rw [hreceived, newsTo_append, lettersOfNews, newsTo_sent id q _ hnodup, if_pos hid,
      ← List.append_assoc]
    rfl

/-! ### Names that are listed more than once -/

/-- Two providers list one name twice each, and another name once each. -/
def crowded : Directory :=
  (Directory.empty.setRooms ⟨"p"⟩ [⟨"a", "a", false⟩, ⟨"a", "a", true⟩, ⟨"b", "b", false⟩]).setRooms
    ⟨"r"⟩ [⟨"b", "b", false⟩, ⟨"a", "c", true⟩, ⟨"a", "c", true⟩]

/-- A query for every room, which has a listener, is asked to search. -/
def searching : Session :=
  (((((ofSources .default crowded []).ask (.create "q" "" false)).steps 3).ask
    (.listen "q" "l" "s" [] none)).steps 3).ask (.run "q")

theorem reachable_searching : Reachable Unrestricted searching := by
  refine ⟨.default, crowded, [], Bus.maxCapacity, ?_⟩
  have hcreated : Leads Unrestricted (ofSources .default crowded [])
      (((ofSources .default crowded []).ask (.create "q" "" false)).steps 3) :=
    leads_ask _ 3 rfl fun _ _ _ _ => trivial
  exact (hcreated.trans (leads_ask (.listen "q" "l" "s" [] none) 3 rfl fun _ _ _ _ => trivial)).tail
    (.ask _ rfl)

/-- The first room of the name is found, the second one has other settings, the third one is of
another provider and has another identifier, and the fourth one is no news. -/
theorem first_search_crowded : Reachable Unrestricted searching ∧
    ∃ query n, searching.world.query? ⟨0⟩ = some query ∧
      (∀ l ∈ searching.listeners, query.Tells l.name → l.reactions = []) ∧
      searching.Finds ⟨0⟩ query (searching.steps n) ∧
      newsTo ⟨1⟩ (searching.steps n).received =
        [.found ⟨"a", "a", ⟨"p"⟩, .offline, false⟩, .changed ⟨"a", "a", ⟨"p"⟩, .offline, true⟩,
          .found ⟨"b", "b", ⟨"p"⟩, .offline, false⟩, .changed ⟨"b", "b", ⟨"r"⟩, .offline, false⟩,
          .changed ⟨"a", "c", ⟨"r"⟩, .offline, true⟩, .moved .completed] := by
  have hpassive : searching.Passive := passive_of_listeners rfl
  obtain ⟨query, hq, hrunning, hstarted, hempty, hmatcher⟩ : ∃ query,
      searching.world.query? ⟨0⟩ = some query ∧ query.status = .running ∧ query.started = false ∧
      query.results = .empty ∧ query.matcher = ⟨"", .exact⟩ := ⟨_, rfl, rfl, rfl, rfl, rfl⟩
  have hpassive' : ∀ l ∈ searching.listeners, query.Tells l.name → l.reactions = [] :=
    fun l hl _ => hpassive l hl
  obtain ⟨n, -, hfinds⟩ := first_search reachable_searching hpassive' rfl rfl rfl rfl hq hrunning
    hstarted hempty
  have hnews := hfinds.news ⟨1⟩ (by decide +kernel)
  refine ⟨reachable_searching, query, n, hq, hpassive', hfinds, ?_⟩
  rw [hnews, hmatcher]
  decide +kernel

end Session

end RoomSearch
