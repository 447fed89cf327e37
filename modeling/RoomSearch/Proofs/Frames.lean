import RoomSearch.Proofs.Cancellation
import RoomSearch.Proofs.Session.Triggers
import RoomSearch.Proofs.Survival

/-!
# What a trigger leaves alone

A result is replaced as a whole whenever something about it is different, and rooms come in batches.
Still each trigger has its own small part of the results: a presence is about one address and
changes no other field, new settings are about one flag, what is gone takes its own entries with it,
and rooms that are listed or read neither touch the addresses of others nor the presence of what was
there.  All other entries are what they were, in all their fields.

## Main definitions

* `ResultSet.SameBut` — two sets have the same entries but at some addresses.
* `ResultSet.Grows` — moreover nothing is lost, and no presence is different.
* `Trigger.Allows` — what may become of results by a trigger.
* `Session.Framed` — what becomes of the results of a query by the next step.

## Main results

* `World.frames_advance` — tasks do no more than their trigger allows.
* `Session.results_framed` — **every step** leaves alone what it is not about.
-/

namespace RoomSearch

/-- An address is the name of one of the rooms, which matches. -/
def Matcher.Names (m : Matcher) (rooms : List Room) (address : String) : Prop :=
  ∃ room ∈ rooms, m.accepts room.name room.identifier = true ∧ room.name = address

namespace ResultSet

/-- The sets have the same entries but at the addresses that are touched. -/
def SameBut (touched : String → Prop) (s s' : ResultSet) : Prop :=
  ∀ address, ¬ touched address → s'.find? address = s.find? address

/-- Moreover every entry of the first set is still there, with its presence. -/
structure Grows (touched : String → Prop) (s s' : ResultSet) : Prop where
  frame : SameBut touched s s'
  kept : ∀ {address e}, s.find? address = some e →
    ∃ e', s'.find? address = some e' ∧ e'.presence = e.presence

variable {s s' s'' : ResultSet} {touched touched' : String → Prop}

theorem sameBut_refl (touched : String → Prop) (s : ResultSet) : SameBut touched s s :=
  fun _ _ => rfl

theorem grows_refl (touched : String → Prop) (s : ResultSet) : Grows touched s s :=
  ⟨sameBut_refl touched s, fun {_ e} he => ⟨e, he, rfl⟩⟩

theorem Grows.trans (h : Grows touched s s') (h' : Grows touched s' s'') : Grows touched s s'' where
  frame address haddress := (h'.frame address haddress).trans (h.frame address haddress)
  kept he := by
    obtain ⟨e', he', hpresence⟩ := h.kept he
    obtain ⟨e'', he'', hpresence'⟩ := h'.kept he'
    exact ⟨e'', he'', hpresence'.trans hpresence⟩

/-- More may be touched. -/
theorem Grows.mono (h : Grows touched s s')
    (himp : ∀ address, touched address → touched' address) :
    Grows touched' s s' :=
  ⟨fun address hno => h.frame address fun htouched => hno (himp address htouched), h.kept⟩

/-! ### The rules of change -/

/-- **A listed room** touches its own address only. -/
theorem grows_mergeRoom (s : ResultSet) (p : ProviderId) (room : Room) :
    Grows (room.name = ·) s (s.mergeRoom p room).2 where
  frame address hno := by rw [find?_mergeRoom_eq, if_neg hno]
  kept {address e} he := by
    rw [find?_mergeRoom_eq]
    split
    · exact ⟨_, rfl, by rw [he]; rfl⟩
    · exact ⟨e, he, rfl⟩

/-- **Listed rooms** touch their own addresses only. -/
theorem grows_mergeRooms (s : ResultSet) (p : ProviderId) (rooms : List Room) :
    Grows (fun address => ∃ room ∈ rooms, room.name = address) s (s.mergeRooms p rooms).2 := by
  induction rooms generalizing s with
  | nil => exact grows_refl _ s
  | cons room rest ih =>
    have hfirst : Grows (fun address => ∃ r ∈ room :: rest, r.name = address) s _ :=
      (grows_mergeRoom s p room).mono fun _ hname => ⟨room, List.mem_cons_self, hname⟩
    refine hfirst.trans ((ih _).mono ?_)
    rintro address ⟨r, hr, hname⟩
    exact ⟨r, List.mem_cons_of_mem _ hr, hname⟩

/-- One entry may have another presence, or come if it is not there. -/
def ShiftsAt (name : String) (s s' : ResultSet) : Prop :=
  SameBut (name = ·) s s' ∧
    ∀ {e}, s.find? name = some e → ∃ presence, s'.find? name = some { e with presence }

theorem shiftsAt_refl (name : String) (s : ResultSet) : ShiftsAt name s s :=
  ⟨sameBut_refl _ s, fun {e} he => ⟨e.presence, he⟩⟩

/-- **A presence** shifts one entry. -/
theorem shiftsAt_setPresence? {name : String} {presence : Presence}
    {outcome : List News × ResultSet} (h : s.setPresence? name presence = some outcome) :
    ShiftsAt name s outcome.2 := by
  cases hfound : s.find? name with
  | none =>
    rw [setPresence?_of_none hfound] at h
    cases h
  | some old =>
    obtain ⟨outcome', houtcome, hfind⟩ := exists_setPresence? hfound presence
    cases Option.some.inj (houtcome.symm.trans h)
    refine ⟨fun address hno => by rw [hfind, if_neg hno], ?_⟩
    intro e he
    cases Option.some.inj (hfound.symm.trans he)
    exact ⟨presence, by rw [hfind, if_pos rfl]⟩

/-- **A joined room** shifts its own entry, or comes. -/
theorem shiftsAt_mergeJoined (s : ResultSet) (notice : PresenceNotice) (autoJoin : Bool) :
    ShiftsAt notice.room s (s.mergeJoined notice autoJoin).2 := by
  cases hfound : s.find? notice.room with
  | none =>
    refine ⟨fun address hno => by rw [find?_mergeJoined_of_none hfound, if_neg hno], ?_⟩
    intro e he
    rw [hfound] at he
    cases he
  | some old =>
    obtain ⟨outcome, houtcome, -⟩ := exists_setPresence? hfound .online
    rw [mergeJoined, houtcome]
    exact shiftsAt_setPresence? houtcome

end ResultSet

/-! ### Triggers -/

/-- What may become of the results of a query by a trigger: `s` is what it has found before, `s'`
what it has found afterwards, and `m` is what it searches for. -/
def Trigger.Allows (m : Matcher) (s s' : ResultSet) : Trigger → Prop
  -- at most one entry is touched: it comes, or only its presence is different
  | .heard (.presence notice) => s.ShiftsAt notice.room s'
  -- a room that matches comes, or takes over its entry but for the presence
  | .heard (.rooms ⟨_, room, .added⟩) => s.Grows (m.Names [room]) s'
  | .heard (.rooms ⟨_, room, .removed⟩) =>
    s.SameBut (room.name = ·) s' ∧
      (s'.find? room.name = none ∨ s'.find? room.name = s.find? room.name)
  -- at most the flag of one entry is different
  | .heard (.rooms ⟨_, room, .changed⟩) =>
    s.SameBut (room.name = ·) s' ∧
      ∃ autoJoin, s'.find? room.name = (s.find? room.name).map fun e => { e with autoJoin }
  | .heard (.providers ⟨_, .added⟩) => s' = s
  | .heard (.providers ⟨p, .removed⟩) =>
    s' = s ∨ ∀ address, s'.find? address = (s.find? address).filter fun e => e.provider != p
  | .heard (.registration _) => s' = s
  -- rooms that match come, or take over their entries but for the presence
  | .scanned _ rooms => s.Grows (m.Names rooms) s'

/-- A trigger may come to nothing. -/
theorem Trigger.allows_refl (o : Trigger) (m : Matcher) (s : ResultSet) : o.Allows m s s := by
  cases o with
  | scanned p rooms => exact ResultSet.grows_refl _ s
  | heard notice =>
    cases notice with
    | presence notice => exact ResultSet.shiftsAt_refl _ s
    | registration notice => rfl
    | providers notice =>
      obtain ⟨p, change⟩ := notice
      cases change with
      | added => rfl
      | removed => exact .inl rfl
    | rooms notice =>
      obtain ⟨p, room, change⟩ := notice
      cases change with
      | added => exact ResultSet.grows_refl _ s
      | removed => exact ⟨ResultSet.sameBut_refl _ s, .inr rfl⟩
      | changed =>
        refine ⟨ResultSet.sameBut_refl _ s, ?_⟩
        cases hfound : s.find? room.name with
        | none => exact ⟨false, rfl⟩
        | some e => exact ⟨e.autoJoin, rfl⟩

/-- A list of rooms changes; a room that is new matches. -/
theorem Trigger.allows_revise {m : Matcher} {notice : RoomNotice}
    (h : notice.change = .added → m.accepts notice.room.name notice.room.identifier = true)
    (s : ResultSet) : (Trigger.heard (.rooms notice)).Allows m s (s.revise notice).2 := by
  obtain ⟨p, room, change⟩ := notice
  cases change with
  | added =>
    refine (ResultSet.grows_mergeRoom s p room).mono ?_
    intro address hname
    exact ⟨room, List.mem_singleton_self room, h rfl, hname⟩
  | removed =>
    refine ⟨fun address hno => ?_, .inl ?_⟩
    · exact (ResultSet.find?_dropRoom s room.name address).trans (if_neg (Ne.symm hno))
    · exact (ResultSet.find?_dropRoom s room.name room.name).trans (if_pos rfl)
  | changed =>
    refine ⟨fun address hno => ?_, room.autoJoin, ?_⟩
    · exact (ResultSet.find?_setAutoJoin s room.name room.autoJoin address).trans (if_neg hno)
    · exact (ResultSet.find?_setAutoJoin s room.name room.autoJoin room.name).trans (if_pos rfl)

namespace World

variable {w w' : World} {q : QueryId} {query : Query} {m : Move} {o : Trigger}

/-- A query has found what the trigger allows. -/
structure Frames (q : QueryId) (o : Trigger) (w w' : World) : Prop where
  query : ∀ {query}, w.query? q = some query →
    ∃ query', w'.query? q = some query' ∧ o.Allows query.matcher query.results query'.results

theorem Steady.frames (h : Steady q w w') (o : Trigger) : Frames q o w w' where
  query {query} hq := by
    obtain ⟨query', hq', hsame⟩ := h.query hq
    refine ⟨query', hq', ?_⟩
    rw [hsame.results]
    exact o.allows_refl query.matcher query.results

theorem frames_still (q : QueryId) (o : Trigger) (w : World) : Frames q o w (Move.still w).world :=
  Steady.frames (.of_queries_eq rfl) o

theorem frames_change (hq : w.query? q = some query) {outcome : List News × ResultSet}
    (h : o.Allows query.matcher query.results outcome.2) :
    Frames q o w (w.change q outcome).world where
  query hquery := by
    cases Option.some.inj (hq.symm.trans hquery)
    exact ⟨_, query?_change hq outcome, h⟩

theorem frames_change_advanceEpoch (hq : w.query? q = some query)
    {outcome : List News × ResultSet} (h : o.Allows query.matcher query.results outcome.2) :
    Frames q o w ((w.modifyQuery q Query.advanceEpoch).change q outcome).world where
  query hquery := by
    cases Option.some.inj (hq.symm.trans hquery)
    exact ⟨_, query?_change (query?_modifyQuery_self _ hq) outcome, h⟩

/-! ### Answers to announcements -/

theorem frames_followPresence (hq : w.query? q = some query) (notice : PresenceNotice) :
    Frames q (.heard (.presence notice)) w (w.followPresence q query notice).world := by
  unfold followPresence
  split
  · exact frames_still ..
  · split
    · next outcome houtcome => exact frames_change hq (ResultSet.shiftsAt_setPresence? houtcome)
    · split
      · exact frames_still ..
      · exact frames_still ..

/-- A new room that does not match is passed over. -/
theorem frames_followRooms (hq : w.query? q = some query) (notice : RoomNotice) :
    Frames q (.heard (.rooms notice)) w (w.followRooms q query notice).world := by
  by_cases hadded : notice.change = .added ∧
      !query.accepts notice.room.name notice.room.identifier
  · rw [followRooms]
    dsimp only
    rw [if_pos hadded]
    exact frames_still ..
  · have haccepts : notice.change = .added →
        query.accepts notice.room.name notice.room.identifier = true := by
      intro hchange
      by_contra hno
      exact hadded ⟨hchange, by simpa using hno⟩
    have hfollows := follows_followRooms w q query notice
    generalize w.followRooms q query notice = m at hfollows
    cases hfollows with
    | still => exact frames_still ..
    | rooms => exact frames_change_advanceEpoch hq (Trigger.allows_revise haccepts query.results)

theorem frames_followProviders (hq : w.query? q = some query) (hsorted : query.results.Sorted)
    (notice : ProviderNotice) :
    Frames q (.heard (.providers notice)) w (w.followProviders q query notice).world := by
  have hfollows := follows_followProviders w q query notice
  generalize w.followProviders q query notice = m at hfollows
  cases hfollows with
  | still => exact frames_still ..
  | entered p =>
    refine ⟨fun hquery => ⟨_, query?_modifyQuery_self Query.advanceEpoch hquery, rfl⟩⟩
  | gone p =>
    exact frames_change_advanceEpoch hq (.inr (ResultSet.find?_dropProvider hsorted p))

/-- **A query that hears of something** does no more than that allows. -/
theorem frames_follow (h : w.Accounts) (htidy : w.Tidy) (q : QueryId) (notice : Notice) :
    Frames q (.heard notice) w (w.follow q notice).world := by
  cases notice with
  | registration notice => exact (bystands_follow_registration h q notice).course.steady.frames _
  | presence | rooms | providers =>
    unfold follow
    split
    · exact frames_still ..
    · next query hq =>
      split
      · exact frames_still ..
      · first
        | exact frames_followPresence hq _
        | exact frames_followRooms hq _
        | exact frames_followProviders hq (htidy hq) _

/-! ### Tasks -/

theorem frames_advanceJoined (w : World) (q : QueryId) (notice : PresenceNotice)
    (autoJoin : Bool) :
    Frames q (.heard (.presence notice)) w (w.advanceJoined q notice autoJoin).world := by
  unfold advanceJoined
  split
  · exact frames_still ..
  · next query hq =>
    split
    · exact frames_still ..
    · exact frames_change hq (ResultSet.shiftsAt_mergeJoined query.results notice autoJoin)

/-- Of the rooms that have been read only those that match are merged. -/
theorem frames_advanceMerge (w : World) (q : QueryId) (p : ProviderId) (epoch : Nat)
    (rooms : List Room) : Frames q (.scanned p rooms) w (w.advanceMerge q p epoch rooms).world := by
  unfold advanceMerge
  split
  · exact frames_still ..
  · next query hq =>
    split
    · exact frames_still ..
    · split
      · exact frames_still ..
      · refine frames_change hq ((ResultSet.grows_mergeRooms query.results p _).mono ?_)
        rintro address ⟨room, hroom, hname⟩
        obtain ⟨hroom, haccepts⟩ := List.mem_filter.mp hroom
        exact ⟨room, hroom, haccepts, hname⟩

/-- **A task** does no more than its trigger allows. -/
theorem frames_advance {t : Task} (h : w.Accounts) (htidy : w.Tidy)
    (ht : t.trigger? q = some o) : Frames q o w (w.advance t).world := by
  rcases Task.exists_of_trigger? ht with ⟨notice, rest, rfl, rfl⟩ |
    ⟨notice, autoJoin, rfl, rfl⟩ | ⟨p, epoch, rooms, rfl, rfl⟩
  · exact frames_follow h htidy q notice
  · exact frames_advanceJoined w q notice autoJoin
  · exact frames_advanceMerge w q p epoch rooms

end World

namespace Session

variable {permitted : Session → Action → Prop} {s t : Session} {q : QueryId}
  {query query' : Query} {o : Trigger}

/-- What becomes of the results of a query by a step that is a trigger of this kind, or none. -/
structure Framed (trigger : Option Trigger) (query query' : Query) : Prop where
  /-- What is no trigger leaves the results alone. -/
  still : trigger = none → query'.results = query.results
  /-- By a trigger nothing happens but what it allows. -/
  allowed : ∀ o, trigger = some o → o.Allows query.matcher query.results query'.results
  /-- The entries of a provider that is gone are removed, all of them, unless the query takes no
  notice any more. -/
  gone : ∀ p, trigger = some (.heard (.providers ⟨p, .removed⟩)) → query.alive = true →
    query.isCanceled = false → ∀ address,
      query'.results.find? address = (query.results.find? address).filter fun e => e.provider != p
  /-- A query that has been canceled keeps its results. -/
  canceled : query.isCanceled = true → query'.results = query.results

/-- A step is what becomes of the task that it goes on with. -/
theorem Orderly.exists_allows (hs : s.Orderly) (ho : s.trigger? q = some o)
    (hq : s.world.query? q = some query) : ∃ query', s.step.world.query? q = some query' ∧
      o.Allows query.matcher query.results query'.results := by
  obtain ⟨task, calls, hcalls, htask⟩ := exists_calls_of_trigger? ho
  obtain ⟨middle, hmiddle, hallows⟩ :=
    (World.frames_advance hs.sound.accounts hs.tidy htask).query hq
  obtain ⟨query', hq', hfound⟩ := hs.sound.exists_query?_step hcalls hmiddle
  refine ⟨query', hq', ?_⟩
  rwa [hfound.results]

/-- A query that takes notice drops all results of a provider that is gone. -/
theorem Orderly.exists_filter (hs : s.Orderly) {p : ProviderId}
    (ho : s.trigger? q = some (.heard (.providers ⟨p, .removed⟩)))
    (hq : s.world.query? q = some query) (halive : query.alive = true)
    (hactive : query.isCanceled = false) : ∃ query', s.step.world.query? q = some query' ∧
      ∀ address, query'.results.find? address =
        (query.results.find? address).filter fun e => e.provider != p := by
  obtain ⟨task, calls, hcalls, htask⟩ := exists_calls_of_trigger? ho
  have hstatus : query.status ≠ .canceled := by simpa [Query.isCanceled] using hactive
  rcases Task.exists_of_trigger? htask with ⟨notice, rest, rfl, heq⟩ | ⟨_, _, -, heq⟩ |
    ⟨_, _, _, -, heq⟩
  · cases heq
    have hremoval : (Notice.providers ⟨p, .removed⟩).isRemoval = true := rfl
    obtain ⟨middle, hmiddle, hfind⟩ :=
      World.find?_follow_of_isRemoval hremoval hq halive hstatus (hs.tidy hq)
    obtain ⟨query', hq', hfound⟩ := hs.sound.exists_query?_step hcalls hmiddle
    refine ⟨query', hq', fun address => ?_⟩
    rw [hfound.results]
    exact hfind address
  · cases heq
  · cases heq

/-- **Every step leaves alone what it is not about**, whatever has been going on.  A presence
touches at most the entry of its room, and nothing but the presence of one that is there; new
settings touch at most the flag of one entry; a room that is gone takes at most its own entry with
it, and a provider that is gone exactly those that name it.  A room that is new, and the rooms that
have been read of a provider, touch only the addresses that they name and that match, where nothing
is lost and what was there keeps its presence.  All other entries stay the same in all their fields,
the registry never changes the results, and neither does anything else. -/
theorem results_framed (h : Reachable Unrestricted s) (hnext : Next Unrestricted s t)
    (hq : s.world.query? q = some query) :
    ∃ query', t.world.query? q = some query' ∧ Framed (s.trigger? q) query query' := by
  have hs := orderly_of_reachable h
  cases ho : s.trigger? q with
  | none =>
    -- without a trigger the results stay as they are
    obtain ⟨query', hq', hsteady⟩ := (hs.sound.steady ho hnext).query hq
    refine ⟨query', hq', fun _ => hsteady.results, ?_, ?_, fun _ => hsteady.results⟩
    · rintro o ⟨⟩
    · rintro p ⟨⟩
  | some o =>
    -- with one, the entries change as it allows
    obtain ⟨query', hq', hallows⟩ := hs.exists_allows ho hq
    cases hnext with
    | ask a hrest =>
      rw [trigger?, hrest] at ho
      cases ho
    | step hcalls hpermitted =>
      refine ⟨query', hq', ?_, ?_, ?_, ?_⟩
      · rintro ⟨⟩
      · rintro o ⟨⟩
        exact hallows
      · rintro p ⟨⟩ halive hactive
        obtain ⟨query'', hq'', hfilter⟩ := hs.exists_filter ho hq halive hactive
        cases Option.some.inj (hq'.symm.trans hq'')
        exact hfilter
      · intro hcanceled
        have hnext : Next Unrestricted s s.step := .step hcalls hpermitted
        obtain ⟨new, hrests⟩ := hs.rests_next hq (beq_iff_eq.mp hcanceled) hnext
        obtain ⟨query'', hq'', hpicture⟩ := hrests.same
        cases Option.some.inj (hq'.symm.trans hq'')
        exact congrArg Picture.results hpicture

/-! ### A provider that is gone -/

/-- One of two providers is gone, and the query is about to hear of it. -/
def departing : Session := (shared.ask (.removeProvider ⟨"r"⟩)).steps 1

theorem reachable_departing : Reachable Unrestricted departing :=
  reachable_shared.unrestricted.leads (leads_ask _ 1 rfl fun _ _ _ _ => trivial)

/-- The query loses the entry that names the provider, and keeps the other one as it is. -/
theorem results_framed_departing : Reachable Unrestricted departing ∧
    Next Unrestricted departing departing.step ∧
    departing.trigger? ⟨0⟩ = some (.heard (.providers ⟨⟨"r"⟩, .removed⟩)) ∧
    ∃ query query', departing.world.query? ⟨0⟩ = some query ∧
      departing.step.world.query? ⟨0⟩ = some query' ∧
      query.results.contains "a" = true ∧ query.results.contains "b" = true ∧
      query'.results.find? "a" = none ∧
      query'.results.find? "b" = query.results.find? "b" := by
  have hnext : Next Unrestricted departing departing.step := .step rfl fun _ _ => trivial
  obtain ⟨query, hq, halive, hactive, ha, hb, hproviders⟩ : ∃ query,
      departing.world.query? ⟨0⟩ = some query ∧ query.alive = true ∧ query.isCanceled = false ∧
      query.results.contains "a" = true ∧ query.results.contains "b" = true ∧
      (query.results.find? "a").map Entry.provider = some ⟨"r"⟩ ∧
      (query.results.find? "b").map Entry.provider = some ⟨"p"⟩ :=
    ⟨_, rfl, rfl, rfl, by decide +kernel, by decide +kernel, by decide +kernel, by decide +kernel⟩
  obtain ⟨query', hq', hframed⟩ := results_framed reachable_departing hnext hq
  have hgone := hframed.gone ⟨"r"⟩ rfl halive hactive
  obtain ⟨⟨a, hfounda, hr⟩, b, hfoundb, hp⟩ := hproviders.imp
    Option.map_eq_some_iff.mp Option.map_eq_some_iff.mp
  refine ⟨reachable_departing, hnext, rfl, query, query', hq, hq', ha, hb, ?_, ?_⟩
  · rw [hgone, hfounda, Option.filter_some, hr]
    rfl
  · rw [hgone, hfoundb, Option.filter_some, hp]
    rfl

end Session

end RoomSearch
