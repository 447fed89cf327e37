import RoomSearch.Proofs.Convergence.Phases
import RoomSearch.Proofs.Interleaving.Outcome
import RoomSearch.Proofs.JoinedRooms.OneAddress
import RoomSearch.Proofs.Session.Log
import RoomSearch.Proofs.Session.Triggers

/-!
# Rooms that are joined while the directory changes

A room that has been joined, matches, and is no result yet is looked up in the directory, for its
flag is not announced with the presence.  The world outside may act before the lookup is over.
Rooms that are read are read again if the query has taken notice of something meanwhile; a joined
room is not looked up again, the query checks only whether it has become a result.

If it has, the result is up to date and keeps its flag.  If it has not, the room gets the flag that
it was listed with at first, whether or not it has been set since then; a query that hears of
settings of a room that is no result makes nothing of them.

## Main definitions

* `Session.HearsOfJoin` — a query is going to hear of a joined room that is no result.
* `Session.LooksUp` — the lookup, from its beginning to its end.
* `Session.AttendedFor` — what is done meanwhile is done truthfully.
* `Session.Stores` — what is stored in the end, and when its flag is the one that is listed.

## Main results

* `Session.joined_flag_listed_iff` — **when the flag of a joined room is the one that is listed**.
* `Session.joined_flag_outdated` — it may be another one.
-/

namespace RoomSearch

/-- **A joined room** keeps the flag that it has as a result, or gets the one that was looked up. -/
theorem ResultSet.exists_mergeJoined (s : ResultSet) (notice : PresenceNotice) (autoJoin : Bool) :
    ∃ e, (s.mergeJoined notice autoJoin).2.find? notice.room = some e ∧
      e.autoJoin = (s.find? notice.room).elim autoJoin Entry.autoJoin := by
  cases hfound : s.find? notice.room with
  | none =>
    refine ⟨⟨notice.room, notice.identifier, notice.provider, .online, autoJoin⟩, ?_, rfl⟩
    rw [find?_mergeJoined_of_none hfound, if_pos rfl]
  | some old =>
    obtain ⟨outcome, hset, hfind⟩ := exists_setPresence? hfound .online
    refine ⟨{ old with presence := .online }, ?_, rfl⟩
    rw [mergeJoined, hset]
    dsimp only
    rw [hfind, if_pos rfl]

namespace World

variable {w : World} {q : QueryId} {query : Query} {notice : PresenceNotice}

/-- A joined room that matches and is no result is looked up. -/
theorem follow_of_unknown (hq : w.query? q = some query) (halive : query.alive = true)
    (hlive : query.isCanceled = false) (hjoin : notice.change.isJoin = true)
    (haccepts : query.accepts notice.room notice.identifier = true)
    (hunknown : query.results.find? notice.room = none) :
    w.follow q (.presence notice) =
      ⟨w, [.mergeJoined q notice ((RoomEvent.presence notice).lookUp w.directory)], some .read,
        [.consulted q]⟩ := by
  rw [follow, hq]
  dsimp only
  rw [halive, Bool.not_true, if_neg Bool.false_ne_true, followPresence, hlive,
    if_neg Bool.false_ne_true, ResultSet.setPresence?_of_none hunknown]
  dsimp only
  rw [hjoin, haccepts, Bool.true_and, if_pos rfl]
  rfl

theorem advanceJoined_of_active (hq : w.query? q = some query) (hlive : query.isCanceled = false)
    (notice : PresenceNotice) (autoJoin : Bool) : w.advanceJoined q notice autoJoin =
      w.change q (query.results.mergeJoined notice autoJoin) := by
  rw [advanceJoined, hq]
  dsimp only
  rw [hlive, if_neg Bool.false_ne_true]

end World

namespace Session

variable {s u : Session} {q : QueryId} {query : Query} {notice : PresenceNotice}
  {rest : List Watcher} {calls : List Call} {n : Nat}

/-- A query is going to hear of a room that has been joined, which matches and is no result. -/
structure HearsOfJoin (s : Session) (q : QueryId) (query : Query) (notice : PresenceNotice)
    (rest : List Watcher) (calls : List Call) : Prop where
  heard : s.calls = .task (.deliver (.presence notice) (.query q :: rest)) :: calls
  found : s.world.query? q = some query
  join : notice.change.isJoin = true
  accepts : query.accepts notice.room notice.identifier = true
  unknown : query.results.find? notice.room = none

/-- What remains to be done once the room has been looked up: it is stored with the flag that it is
listed with now, and others are told of the presence. -/
def afterLookup (s : Session) (q : QueryId) (notice : PresenceNotice) (rest : List Watcher)
    (calls : List Call) : List Call :=
  .task (.mergeJoined q notice ((RoomEvent.presence notice).lookUp s.world.directory)) ::
    .task (.deliver (.presence notice) rest) :: calls

/-- The room is looked up, and after so many steps, but not before, all that the world outside has
to say to this has been done. -/
structure LooksUp (s : Session) (q : QueryId) (notice : PresenceNotice) (rest : List Watcher)
    (calls : List Call) (n : Nat) : Prop where
  pos : 0 < n
  ends : (s.steps n).calls = s.afterLookup q notice rest calls
  waits : ∀ k < n, 0 < k →
    (s.afterLookup q notice rest calls).length < (s.steps k).calls.length

/-- Until then everything is done truthfully, and the query keeps a subscriber. -/
def AttendedFor (s : Session) (q : QueryId) (n : Nat) : Prop :=
  ∀ k < n, (∀ a ∈ (s.steps k).action?, Truthfully (s.steps k) a) ∧
    (s.steps (k + 1)).world.Attends q

instance (s : Session) (q : QueryId) (n : Nat) : Decidable (s.AttendedFor q n) :=
  inferInstanceAs (Decidable (∀ k < n, (∀ a ∈ (s.steps k).action?, Truthfully (s.steps k) a) ∧
    (s.steps (k + 1)).world.Attends q))

/-- By the next step the room is stored.  If it is listed, then with the flag that it is listed with
if and only if it is a result already, or the flag is the same as when it was looked up. -/
structure Stores (s : Session) (q : QueryId) (notice : PresenceNotice) (autoJoin : Bool) :
    Prop where
  directory : s.step.world.directory = s.world.directory
  stored : ∃ before after e, s.world.query? q = some before ∧ s.step.world.query? q = some after ∧
    after.results.find? notice.room = some e ∧
    ∀ room ∈ s.world.directory.rooms notice.provider, room.name = notice.room →
      (e.autoJoin = room.autoJoin ↔
        before.results.contains notice.room = true ∨ room.autoJoin = autoJoin)

/-! ### The lookup -/

/-- The query hears of the presence, and what the outside says to this comes first. -/
theorem HearsOfJoin.exists_goes (h : s.HearsOfJoin q query notice rest calls) (hs : s.Sound)
    (hattends : s.world.Attends q) :
    ∃ m first, s.Goes (.task (.deliver (.presence notice) (.query q :: rest))) calls m first []
      s.step ∧ m.world = s.world ∧ s.step.calls = first ++ s.afterLookup q notice rest calls := by
  obtain ⟨query', hq', hsubscribed, hactive⟩ := hattends
  cases Option.some.inj (h.found.symm.trans hq')
  have hfollow := World.follow_of_unknown h.found (hs.accounts.alive h.found hsubscribed)
    (World.isCanceled_eq_false hactive) h.join h.accepts h.unknown
  have hmove : s.world.advance (.deliver (.presence notice) (.query q :: rest)) =
      (s.world.follow q (.presence notice)).andThen [.deliver (.presence notice) rest] := rfl
  rw [hfollow] at hmove
  obtain ⟨m, first, later, hgoes⟩ := goes_step h.heard
  have hlater := hgoes.taskless (Option.some_ne_none _)
  subst hlater
  have hm := hgoes.move_task.trans hmove
  refine ⟨m, first, hgoes, by rw [hm]; rfl, ?_⟩
  rw [hgoes.calls, hm, List.append_nil, List.append_assoc]
  rfl

/-- **The lookup comes to its end**, and until then what remains to be done afterwards waits. -/
theorem HearsOfJoin.exists_looksUp (h : s.HearsOfJoin q query notice rest calls) (hs : s.Sound)
    (hattends : s.world.Attends q) : ∃ n, s.LooksUp q notice rest calls n ∧
      ∀ k < n, 0 < k → ∃ c above,
        (s.steps k).calls = c :: above ++ s.afterLookup q notice rest calls := by
  obtain ⟨m, first, hgoes, -, hcalls⟩ := h.exists_goes hs hattends
  obtain ⟨n, hover, hwaits⟩ := exists_steps_calls hcalls
  have hwaits' : ∀ k < n + 1, 0 < k → ∃ c above,
      (s.steps k).calls = c :: above ++ s.afterLookup q notice rest calls := by
    intro k hk hpos
    obtain ⟨k, rfl⟩ := Nat.exists_eq_succ_of_ne_zero (Nat.ne_of_gt hpos)
    exact hwaits k (Nat.lt_of_succ_lt_succ hk)
  refine ⟨n + 1, ⟨Nat.succ_pos n, hover, fun k hk hpos => ?_⟩, hwaits'⟩
  obtain ⟨c, above, hbusy⟩ := hwaits' k hk hpos
  rw [hbusy, List.length_append, List.length_cons]
  omega

/-- It has only one end. -/
theorem LooksUp.eq {n' : Nat} (h : s.LooksUp q notice rest calls n)
    (h' : s.LooksUp q notice rest calls n') : n = n' := by
  rcases Nat.lt_trichotomy n n' with hlt | heq | hlt
  · have hwaits := h'.waits n hlt h.pos
    rw [h.ends] at hwaits
    exact absurd hwaits (Nat.lt_irrefl _)
  · exact heq
  · have hwaits := h.waits n' hlt h'.pos
    rw [h'.ends] at hwaits
    exact absurd hwaits (Nat.lt_irrefl _)

/-- **While the room is looked up**, the query keeps up with the directory as far as this room is
concerned. -/
theorem HearsOfJoin.keepsUp (h : s.HearsOfJoin q query notice rest calls) (hs : s.Orderly)
    (hpassive : s.Passive) (hdiscreet : s.Discreet) (hdistinct : s.world.directory.Distinct)
    (hattends : s.world.Attends q) (hpos : 0 < n)
    (hwaits : ∀ k < n, 0 < k → ∃ c above,
      (s.steps k).calls = c :: above ++ s.afterLookup q notice rest calls)
    (hdone : s.AttendedFor q n) :
    (s.steps n).KeepsUp (CurrentAt notice.room) (s.afterLookup q notice rest calls) q := by
  obtain ⟨m, first, hgoes, hm, hcalls⟩ := h.exists_goes hs.sound hattends
  have hnext : Next Unrestricted s s.step := .step h.heard fun _ _ => trivial
  have hcourse := hgoes.course hs.sound q
  rw [hm] at hcourse
  have hfirst : ∀ c ∈ first, c.task? = none := fun c hc =>
    hgoes.bare c (List.mem_append_left _ hc)
  have hkeeps : s.world.KeepsUp (CurrentAt notice.room) q [] :=
    ⟨hdistinct, query, h.found, currentAt_of_none _ h.unknown⟩
  have hbegun : s.step.KeepsUp (CurrentAt notice.room) (s.afterLookup q notice rest calls) q := by
    refine ⟨(hs.next hnext).1, hgoes.passive hpassive nofun, hgoes.discreet hdiscreet nofun,
      (hdone 0 hpos).2, .upToDate first hcalls ?_ ?_⟩
    · have hnothing : first.flatMap (Call.errands q) = [] :=
        Call.flatMap_of_bare hfirst (Task.errands q)
      rw [hnothing]
      exact hkeeps.of_sameCourse (CurrentAt.upheld _) hcourse
    · exact fun c hc => Call.isCalm_of_bare (hfirst c hc)
  obtain ⟨k, rfl⟩ := Nat.exists_eq_succ_of_ne_zero (Nat.ne_of_gt hpos)
  exact KeepsUp.steps (CurrentAt.upheld _) hbegun k
    (fun j hj => hwaits (j + 1) (Nat.succ_lt_succ hj) (Nat.succ_pos j))
    fun j hj => hdone (j + 1) (Nat.succ_lt_succ hj)

/-! ### What is stored -/

/-- A query that keeps up as far as the room is concerned stores it with the flag that is listed, if
and only if the room is a result already, or has the flag that was looked up. -/
theorem KeepsUp.stores {autoJoin : Bool} {base : List Call}
    (hs : s.KeepsUp (CurrentAt notice.room) base q)
    (hbase : base = .task (.mergeJoined q notice autoJoin) :: calls) (hcalls : s.calls = base) :
    s.Stores q notice autoJoin := by
  have hkeeps := hs.at_base hcalls
  obtain ⟨before, hbefore, -, hactive⟩ := hs.attends
  have hcurrent := hkeeps.stands_of hbefore
  have htask := hcalls.trans hbase
  have hmove : s.world.advance (.mergeJoined q notice autoJoin) =
      s.world.change q (before.results.mergeJoined notice autoJoin) :=
    World.advanceJoined_of_active hbefore (World.isCanceled_eq_false hactive) notice autoJoin
  have hchanged := World.query?_change hbefore (before.results.mergeJoined notice autoJoin)
  rw [← hmove] at hchanged
  obtain ⟨after, hafter, hfindings⟩ := hs.orderly.sound.exists_query?_step htask hchanged
  obtain ⟨m, first, later, hgoes⟩ := goes_step htask
  have hdirectory := (hgoes.releases hs.orderly.sound).directory
  rw [hgoes.move_task, hmove, World.directory_change] at hdirectory
  obtain ⟨e, he, hflag⟩ := before.results.exists_mergeJoined notice autoJoin
  refine ⟨hdirectory, before, after, e, hbefore, hafter, ?_, fun room hroom hname => ?_⟩
  · rw [hfindings.results]
    exact he
  · rw [hflag]
    cases hfound : before.results.find? notice.room with
    | none =>
      rw [ResultSet.contains, hfound, Option.elim_none, Option.isSome_none]
      exact ⟨fun heq => .inr heq.symm, fun heq => (heq.resolve_left Bool.false_ne_true).symm⟩
    | some old =>
      -- the result is that of the room that is listed, since its name is listed only once
      obtain ⟨p, room', hroom', -, rfl⟩ := hcurrent.listed hfound
      have haddress : room'.name = notice.room := ResultSet.address_of_find? hfound
      obtain ⟨-, rfl⟩ := hkeeps.distinct.eq_of_name_eq hroom hroom' (hname.trans haddress.symm)
      rw [ResultSet.contains, hfound]
      exact ⟨fun _ => .inl rfl, fun _ => rfl⟩

/-- **When the flag of a joined room is the one that is listed.**  A query that has a subscriber
hears of a room that has been joined, which matches and is no result; listeners do not call back,
observers do not act, and no name is listed twice.  The room is looked up, and the lookup comes to
its end, whatever is done meanwhile.  If all this is done truthfully, the room is a result by the
next step, and its flag is the one that its provider lists it with at that time if and only if it
has become a result meanwhile, or is listed with the same flag as when it was looked up. -/
theorem joined_flag_listed_iff (hu : Reachable Unrestricted u) (hpassive : u.Passive)
    (hdiscreet : u.Discreet) (hdistinct : u.world.directory.Distinct)
    (hattends : u.world.Attends q) (hjoin : u.HearsOfJoin q query notice rest calls) :
    ∃ n, u.LooksUp q notice rest calls n ∧ (u.AttendedFor q n →
      (u.steps n).Stores q notice ((RoomEvent.presence notice).lookUp u.world.directory)) := by
  have hs := orderly_of_reachable hu
  obtain ⟨n, hlooks, hwaits⟩ := hjoin.exists_looksUp hs.sound hattends
  refine ⟨n, hlooks, fun hdone => ?_⟩
  have hkeeps :=
    hjoin.keepsUp hs hpassive hdiscreet hdistinct hattends hlooks.pos hwaits hdone
  exact hkeeps.stores rfl hlooks.ends

/-! ### A flag that is set while the room is looked up -/

/-- A query for every room has a listener, and hears of presences. -/
def enrolled : Session :=
  ((((ofSources .default twoRooms [⟨⟨"x"⟩, ⟨"p"⟩, true⟩]).ask (.create "q" "" false)).steps 3).ask
    (.listen "q" "l" "s" [] none)).steps 3

/-- The query is going to hear that the room `a` has been joined, and these actions are in store for
when it is looked up. -/
def rejoined (meanwhile : List Action) : Session :=
  (((enrolled.ask (.afterRead meanwhile)).steps 3).ask
    (.presence ⟨⟨"x"⟩, ⟨"p"⟩, true⟩ none "a" "a" .joined)).step

theorem reachable_enrolled : Reachable Unrestricted enrolled := by
  refine ⟨.default, twoRooms, [⟨⟨"x"⟩, ⟨"p"⟩, true⟩], Bus.maxCapacity, ?_⟩
  have hcreated : Leads Unrestricted (ofSources .default twoRooms [⟨⟨"x"⟩, ⟨"p"⟩, true⟩])
      (((ofSources .default twoRooms [⟨⟨"x"⟩, ⟨"p"⟩, true⟩]).ask (.create "q" "" false)).steps 3) :=
    leads_ask _ 3 rfl fun _ _ _ _ => trivial
  exact hcreated.trans (leads_ask _ 3 rfl fun _ _ _ _ => trivial)

theorem reachable_rejoined (meanwhile : List Action) :
    Reachable Unrestricted (rejoined meanwhile) := by
  have hstored : Leads Unrestricted enrolled ((enrolled.ask (.afterRead meanwhile)).steps 3) :=
    leads_ask _ 3 rfl fun _ _ _ _ => trivial
  exact reachable_enrolled.leads
    (hstored.trans (leads_ask _ 1 rfl fun _ _ _ _ => trivial))

/-- The presence that is announced. -/
def joinedNotice : PresenceNotice := ⟨⟨"p"⟩, "a", "a", .joined⟩

/-- The flag of the room is set while it is looked up, and then the query searches. -/
def searchedMeanwhile : Session := rejoined [.setAutoJoin ⟨"p"⟩ "a" true, .run "q"]

/-- The search has found the room with its new flag, which it keeps when it is stored. -/
theorem joined_flag_listed_iff_searched : Reachable Unrestricted searchedMeanwhile ∧
    searchedMeanwhile.Passive ∧ searchedMeanwhile.Discreet ∧
    searchedMeanwhile.world.directory.Distinct ∧ searchedMeanwhile.world.Attends ⟨0⟩ ∧
    ∃ query calls n, searchedMeanwhile.HearsOfJoin ⟨0⟩ query joinedNotice [] calls ∧
      searchedMeanwhile.LooksUp ⟨0⟩ joinedNotice [] calls n ∧
      searchedMeanwhile.AttendedFor ⟨0⟩ n ∧
      (RoomEvent.presence joinedNotice).lookUp searchedMeanwhile.world.directory = false ∧
      ∃ after e, (searchedMeanwhile.steps n).step.world.query? ⟨0⟩ = some after ∧
        after.results.find? "a" = some e ∧ e.autoJoin = true := by
  have hreachable : Reachable Unrestricted searchedMeanwhile := reachable_rejoined _
  have hdistinct : searchedMeanwhile.world.directory.Distinct :=
    Directory.distinct_empty.addProvider (by decide) (by decide)
  have hattends : searchedMeanwhile.world.Attends ⟨0⟩ := by decide +kernel
  obtain ⟨query, hjoin⟩ : ∃ query, searchedMeanwhile.HearsOfJoin ⟨0⟩ query joinedNotice []
      [.answer "presence" .done, .script []] := ⟨_, rfl, rfl, rfl, rfl, rfl⟩
  have hpassive : searchedMeanwhile.Passive := passive_of_listeners rfl
  obtain ⟨n, hlooks, hstores⟩ := joined_flag_listed_iff hreachable hpassive
    (List.forall_mem_nil _) hdistinct hattends hjoin
  have hseventeen : searchedMeanwhile.LooksUp ⟨0⟩ joinedNotice []
      [.answer "presence" .done, .script []] 17 := ⟨by decide, rfl, by decide +kernel⟩
  cases hlooks.eq hseventeen
  have hdone : searchedMeanwhile.AttendedFor ⟨0⟩ 17 := by decide +kernel
  obtain ⟨before, after, e, hbefore, hafter, he, hiff⟩ := (hstores hdone).stored
  refine ⟨hreachable, hpassive, List.forall_mem_nil _, hdistinct, hattends, query, _, 17, hjoin,
    hlooks, hdone, rfl, after, e, hafter, he, ?_⟩
  have hcontains : ((searchedMeanwhile.steps 17).world.query? ⟨0⟩).any
      (fun query => query.results.contains "a") = true := by decide +kernel
  rw [hbefore] at hcontains
  exact (hiff ⟨"a", "a", true⟩ (by decide +kernel) rfl).mpr (.inl hcontains)

/-- The flag of the room is set while it is looked up, and nothing else happens. -/
def setMeanwhile : Session := rejoined [.setAutoJoin ⟨"p"⟩ "a" true]

/-- **A flag may be outdated when it is stored**: the query hears that it is set, but the room is no
result yet, and is stored afterwards with the flag that was looked up before. -/
theorem joined_flag_outdated : Reachable Unrestricted setMeanwhile ∧ setMeanwhile.Passive ∧
    setMeanwhile.Discreet ∧ setMeanwhile.world.directory.Distinct ∧
    setMeanwhile.world.Attends ⟨0⟩ ∧
    ∃ query calls, setMeanwhile.HearsOfJoin ⟨0⟩ query joinedNotice [] calls ∧
      setMeanwhile.LooksUp ⟨0⟩ joinedNotice [] calls 6 ∧ setMeanwhile.AttendedFor ⟨0⟩ 6 ∧
      ∃ after e, (setMeanwhile.steps 6).step.world.query? ⟨0⟩ = some after ∧
        after.results.find? "a" = some e ∧ e.autoJoin = false ∧
        ⟨"a", "a", true⟩ ∈ (setMeanwhile.steps 6).step.world.directory.rooms ⟨"p"⟩ := by
  have hdistinct : setMeanwhile.world.directory.Distinct :=
    Directory.distinct_empty.addProvider (by decide) (by decide)
  have hlooks : setMeanwhile.LooksUp ⟨0⟩ joinedNotice [] [.answer "presence" .done, .script []] 6 :=
    ⟨by decide, rfl, by decide +kernel⟩
  exact ⟨reachable_rejoined _, passive_of_listeners rfl, List.forall_mem_nil _, hdistinct,
    by decide +kernel, _, _, ⟨rfl, rfl, rfl, rfl, rfl⟩, hlooks, by decide +kernel, _, _, rfl, rfl,
    rfl, by decide +kernel⟩

end Session

end RoomSearch
