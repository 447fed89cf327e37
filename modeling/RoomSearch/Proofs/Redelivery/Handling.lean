import RoomSearch.Proofs.Coverage.Seats
import RoomSearch.Proofs.Redelivery.Uptake
import RoomSearch.Proofs.Session.OnTop

/-!
# A query handles an announcement

An announcement may reach a query at any moment.  If nobody interferes, the query handles it in a
few moves and is then left with what it makes of it; the calls that were in progress go on where
they were.

## Main definitions

* `World.Takes` — how a query sets about making an outcome of what it is told.
* `World.Settled` — nothing comes of an announcement.
* `Session.tell` — an announcement is about to reach a query, and nobody else.
* `Session.Handles` — the query has handled it.

## Main results

* `World.takes_follow` — a query takes what it is told as it makes of it.
* `Session.Calm.handles_silently` — **where nothing comes of an announcement**, nothing is different
  afterwards but the epoch of the query.
* `Session.Calm.handles` — **what comes of an announcement** is what the query makes of it.
-/

namespace RoomSearch

/-- With nothing more to be done a move is as before. -/
theorem Move.andThen_nil (m : Move) : m.andThen [] = m := by
  rw [Move.andThen, List.append_nil]

namespace World

variable {w w' : World} {q : QueryId} {query : Query} {notice : Notice}

/-- A change that changes nothing but the epoch. -/
theorem change_inEpoch (h : w.query? q = some query) (e : Nat) :
    (w.inEpoch q e).change q ([], query.results) = .still (w.inEpoch q e) := by
  have hsame : ((w.inEpoch q e).modifyQuery q fun old => { old with results := query.results }) =
      w.inEpoch q e := by
    refine modifyQuery_eq_self fun old hold => ?_
    cases Option.some.inj (hold.symm.trans (query?_inEpoch h))
    rfl
  exact congrArg Move.still hsame

theorem modifyQuery_advanceEpoch (w : World) (q : QueryId) :
    w.modifyQuery q Query.advanceEpoch = w.inEpoch q (w.epoch q + 1) := by
  conv_lhs => rw [← inEpoch_epoch w q]
  exact advanceEpoch_inEpoch ..

/-- How a query sets about making an outcome of what it is told. -/
inductive Takes (w : World) (q : QueryId) (query : Query) (outcome : List News × ResultSet) :
    Move → Prop where
  /-- It is not concerned. -/
  | still (h : outcome = ([], query.results)) : Takes w q query outcome (.still w)
  /-- The results change at once, unless the query has been canceled. -/
  | change (e : Nat) (hlive : query.isCanceled = false) :
    Takes w q query outcome ((w.inEpoch q e).change q outcome)
  /-- A room that has been joined is looked up first. -/
  | joined (notice : PresenceNotice) (autoJoin : Bool) (hlive : query.isCanceled = false)
    (hnone : query.results.find? notice.room = none)
    (h : outcome = query.results.mergeJoined notice autoJoin) :
    Takes w q query outcome ⟨w, [.mergeJoined q notice autoJoin], some .read, [.consulted q]⟩
  /-- The rooms of a provider are read first, unless the query has been canceled. -/
  | scan (e : Nat) (p : ProviderId)
    (h : outcome = if query.isCanceled then ([], query.results) else query.results.mergeRooms p
      ((w.directory.rooms p).filter fun room => query.accepts room.name room.identifier)) :
    Takes w q query outcome (.doing (w.inEpoch q e) [.scan q p])

/-- A change in the present epoch. -/
theorem Takes.change_now (w : World) (q : QueryId) (hlive : query.isCanceled = false)
    (outcome : List News × ResultSet) : w.Takes q query outcome (w.change q outcome) := by
  have h : w.Takes q query outcome ((w.inEpoch q (w.epoch q)).change q outcome) :=
    .change _ hlive
  rwa [inEpoch_epoch] at h

theorem Takes.change_next (w : World) (q : QueryId) (hlive : query.isCanceled = false)
    (outcome : List News × ResultSet) :
    w.Takes q query outcome ((w.modifyQuery q Query.advanceEpoch).change q outcome) := by
  rw [modifyQuery_advanceEpoch]
  exact .change _ hlive

theorem takes_followPresence (hlive : query.isCanceled = false) (notice : PresenceNotice) :
    w.Takes q query (query.uptakeOfPresence w.directory notice)
      (w.followPresence q query notice) := by
  rw [followPresence, hlive, if_neg Bool.false_ne_true, Query.uptakeOfPresence]
  cases hset : query.results.setPresence? notice.room notice.change.presence with
  | some outcome => exact .change_now w q hlive outcome
  | none =>
    dsimp only
    split
    · exact .joined notice _ hlive (ResultSet.find?_of_setPresence? hset) rfl
    · exact .still rfl

theorem takes_followRooms (hlive : query.isCanceled = false) (notice : RoomNotice) :
    w.Takes q query
      (if notice.change = .added ∧ !query.accepts notice.room.name notice.room.identifier then
        ([], query.results) else query.results.revise notice)
      (w.followRooms q query notice) := by
  rw [followRooms]
  dsimp only
  split
  · exact .still rfl
  · rw [hlive, if_neg Bool.false_ne_true]
    obtain ⟨provider, room, change⟩ := notice
    cases change <;> exact .change_next w q hlive _

/-- **A query takes** what it is told as it makes of it, unless its subscriptions change with the
registry. -/
theorem takes_follow (hq : w.query? q = some query)
    (hregistry : ∀ n, notice = .registration n → w.followRegistry q query n = .still w) :
    w.Takes q query (query.uptake w.directory notice) (w.follow q notice) := by
  simp only [follow, hq]
  unfold Query.uptake
  cases halive : query.alive with
  | false => exact .still rfl
  | true =>
    cases hcanceled : query.isCanceled with
    | false =>
      simp only [Bool.not_true, Bool.or_self, Bool.false_eq_true, if_false]
      cases notice with
      | presence notice => exact takes_followPresence hcanceled notice
      | rooms notice => exact takes_followRooms hcanceled notice
      | providers notice =>
        obtain ⟨p, change⟩ := notice
        cases change with
        | added =>
          dsimp only [followProviders]
          rw [modifyQuery_advanceEpoch]
          exact .scan _ p (by rw [hcanceled]; rfl)
        | removed =>
          dsimp only [followProviders]
          rw [hcanceled, if_neg Bool.false_ne_true]
          exact .change_next w q hcanceled _
      | registration notice =>
        dsimp only
        rw [hregistry notice rfl]
        exact .still rfl
    | true =>
      -- a canceled query takes up nothing, and the scan of a new provider stops at once
      simp only [Bool.not_true, Bool.or_true, Bool.false_eq_true, if_true, if_false]
      cases notice with
      | presence notice =>
        dsimp only [followPresence]
        rw [hcanceled]
        exact .still rfl
      | rooms notice =>
        dsimp only [followRooms]
        rw [hcanceled]
        split <;> exact .still rfl
      | providers notice =>
        obtain ⟨p, change⟩ := notice
        cases change with
        | added =>
          dsimp only [followProviders]
          rw [modifyQuery_advanceEpoch]
          exact .scan _ p (by rw [hcanceled]; rfl)
        | removed =>
          dsimp only [followProviders]
          rw [hcanceled]
          exact .still rfl
      | registration notice =>
        dsimp only
        rw [hregistry notice rfl]
        exact .still rfl

/-! ### Announcements of the registry -/

/-- What becomes of seats comes of them once and for all. -/
theorem reseat_reseat (hposts : w'.post? = w.post?)
    (notice : RegistrationNotice ServiceId) (seat? : ProviderId → Option ServiceId) :
    w'.reseat notice (w.reseat notice seat?) = w.reseat notice seat? := by
  funext p
  unfold reseat
  simp only [providerOf?_eq_map_post?, hposts]
  split
  · rfl
  · cases notice.change with
    | registered =>
      dsimp only
      rw [Option.or_assoc, Option.or_self]
    | unregistering =>
      dsimp only
      split <;> rfl

/-- A service that does not take the seat of its provider is not followed. -/
theorem linkPresence_eq_self {a : Attachment} {s : ServiceId} {service : Service}
    (hservice : w.service? s = some service)
    (hseat : (a.seat? service.provider).or
      (if w.post? s = some (service.provider, true) then some s else none) =
        a.seat? service.provider) :
    w.linkPresence q a s = (w, a) := by
  rw [linkPresence, hservice]
  dsimp only
  split
  · rfl
  · next hfree =>
    split
    · rfl
    · next hchannel =>
      -- with a channel it would have taken the seat, which is free
      have hnone : a.seat? service.provider = none := by
        rw [Attachment.seat?, Option.map_eq_none_iff, List.find?_eq_none]
        exact fun link hlink hprovider => hfree (List.any_eq_true.mpr ⟨link, hlink, hprovider⟩)
      have hpost : w.post? s = some (service.provider, true) := by
        rw [post?, hservice, Option.map_some]
        cases hc : service.channel with
        | none => exact absurd (by rw [hc]; rfl) hchannel
        | some feed => rfl
      rw [hnone, hpost, if_pos rfl] at hseat
      cases hseat

/-- A provider whose seat is not taken gives up none. -/
theorem unlinkPresence_eq_self {a : Attachment} {provider : ProviderId}
    (hseat : a.seat? provider = none) : w.unlinkPresence a provider = (w, a) := by
  rw [unlinkPresence, Option.map_eq_none_iff.mp hseat]

/-- Where seats stay as they are, nothing comes of an announcement of the registry. -/
theorem followRegistry_of_reseat (hq : w.query? q = some query)
    {notice : RegistrationNotice ServiceId}
    (hseats : query.isAttached = true → w.reseat notice query.seat? = query.seat?) :
    w.followRegistry q query notice = .still w := by
  unfold followRegistry
  split
  · next a service ha hservice =>
    split
    · rfl
    · next hstopping =>
      have hattached : query.isAttached = true := by rw [Query.isAttached, ha]; rfl
      have hseat := congrFun (hseats hattached) service.provider
      have hquery : query.seat? service.provider = a.seat? service.provider := by
        rw [Query.seat?, ha]
        rfl
      rw [reseat, if_neg hstopping, hquery] at hseat
      -- what is attached is written back as it was
      have hsame : w.modifyQuery q (fun old => { old with attachment := some a }) = w := by
        refine modifyQuery_eq_self fun old hold => ?_
        cases Option.some.inj (hold.symm.trans hq)
        rw [← ha]
      cases hchange : notice.change with
      | registered =>
        rw [hchange] at hseat
        dsimp only
        rw [linkPresence_eq_self hservice hseat, hsame]
      | unregistering =>
        rw [hchange, providerOf?, hservice, Option.map_some, if_pos rfl] at hseat
        dsimp only
        rw [unlinkPresence_eq_self hseat.symm, hsame]
  · rfl

/-- Nothing comes of an announcement. -/
structure Settled (w : World) (q : QueryId) (notice : Notice) : Prop where
  /-- The query has no news, and its results stay as they are. -/
  uptake : ∀ {query}, w.query? q = some query →
    query.uptake w.directory notice = ([], query.results)
  /-- Seats stay as they are. -/
  seats : ∀ {query n}, w.query? q = some query → notice = .registration n →
    query.isAttached = true → w.reseat n query.seat? = query.seat?

theorem Settled.of_none (h : w.query? q = none) (notice : Notice) : w.Settled q notice where
  uptake hq := by
    rw [h] at hq
    cases hq
  seats hq := by
    rw [h] at hq
    cases hq

theorem Settled.followRegistry (h : w.Settled q notice) (hq : w.query? q = some query)
    {n : RegistrationNotice ServiceId} (hnotice : notice = .registration n) :
    w.followRegistry q query n = .still w :=
  followRegistry_of_reseat hq (h.seats hq hnotice)

/-- Buses do not show in what comes of an announcement. -/
theorem Settled.releaseBuses (h : w.Settled q notice) (inUse : BusId → Bool) :
    (w.releaseBuses inUse).Settled q notice := ⟨h.uptake, h.seats⟩

end World

namespace Session

variable {s t : Session} {q : QueryId} {query : Query} {w : World} {m : Move} {notice : Notice}
  {task : Task} {tasks more : List Task} {rest : List Watcher} {notes added : List Note}
  {e e' : Nat} {outcome : List News × ResultSet} {audience : String → Prop}

/-- An announcement is about to reach a query, and nobody else. -/
def tell (s : Session) (q : QueryId) (notice : Notice) : Session :=
  { s with calls := .task (.deliver notice [.query q]) :: s.calls }

/-- The query has handled the announcement, and the calls in progress are where they were. -/
def Handles (s : Session) (q : QueryId) (notice : Notice) (t : Session) : Prop :=
  Amid s.calls (s.tell q notice) t ∧ t.calls = s.calls

theorem tell_eq_during (s : Session) (q : QueryId) (notice : Notice) :
    s.tell q notice = s.during s.world [.deliver notice [.query q]] [] := rfl

/-- There is one way to handle an announcement. -/
theorem Handles.unique {t' : Session} (h : s.Handles q notice t) (h' : s.Handles q notice t') :
    t = t' := h.1.eq_of_calls h'.1 h.2 h'.2

/-! ### Where nothing comes of it -/

/-- An announcement that has reached everybody is over. -/
theorem Calm.amid_delivered (h : s.Calm audience) (hswept : s.sweep = s) :
    Amid s.calls (s.during (s.world.inEpoch q e) [.deliver notice []] notes)
      (s.during (s.world.inEpoch q e) [] notes) := by
  have hover : (s.world.inEpoch q e).advance (.deliver notice []) = .still (s.world.inEpoch q e) :=
    rfl
  have hamid := h.amid_silent hswept [] notes hover rfl nofun (List.forall_mem_nil _)
  simpa [Move.still] using hamid

/-- The query is told, and its epoch alone is different. -/
theorem Calm.amid_told (h : s.Calm audience) (hswept : s.sweep = s)
    (hfollow : s.world.follow q notice = .doing (s.world.inEpoch q e) tasks)
    (htasks : ∀ t ∈ tasks, t.subscribers = []) :
    Amid s.calls (s.tell q notice)
      (s.during (s.world.inEpoch q e) (tasks ++ [.deliver notice []]) []) := by
  have hworld : s.world.inEpoch q (s.world.epoch q) = s.world := World.inEpoch_epoch ..
  have hadvance : (s.world.inEpoch q (s.world.epoch q)).advance (.deliver notice [.query q]) =
      (Move.doing (s.world.inEpoch q e) tasks).andThen [.deliver notice []] := by
    rw [hworld, ← hfollow]
    rfl
  have htasks' : ∀ t ∈ tasks ++ [.deliver notice []] ++ [], t.subscribers = [] := by
    intro t ht
    rw [List.append_nil, List.mem_append, List.mem_singleton] at ht
    rcases ht with ht | rfl
    · exact htasks t ht
    · rfl
  have hmove := h.amid_silent hswept [] [] hadvance rfl nofun htasks'
  rw [hworld, ← tell_eq_during] at hmove
  simpa [Move.andThen, Move.doing] using hmove

/-- Rooms that are read are no news. -/
theorem Calm.amid_scanned (h : s.Calm audience) (hswept : s.sweep = s) (notice : Notice) (e : Nat)
    (hq : s.world.query? q = some query) {p : ProviderId}
    (hsame : query.isCanceled = false → query.results.mergeRooms p
      ((s.world.directory.rooms p).filter fun room => query.accepts room.name room.identifier) =
        ([], query.results)) :
    ∃ added, Amid s.calls (s.during (s.world.inEpoch q e) [.scan q p, .deliver notice []] [])
      (s.during (s.world.inEpoch q e) [.deliver notice []] added) ∧
        ∀ note ∈ added, note = .consulted q := by
  have hq' : (s.world.inEpoch q e).query? q = some { query with epoch := e } :=
    World.query?_inEpoch hq
  cases hcanceled : query.isCanceled with
  | true =>
    -- the scan stops at once
    have hadvance : (s.world.inEpoch q e).advance (.scan q p) = .still (s.world.inEpoch q e) := by
      refine World.advanceScan_of_canceled ?_ p
      rintro ⟨other, hother, hlive⟩
      cases Option.some.inj (hq'.symm.trans hother)
      exact Bool.false_ne_true (hlive.symm.trans hcanceled)
    exact ⟨[], h.amid_silent hswept _ _ hadvance rfl nofun (by simp [Move.still, Task.subscribers]),
      List.forall_mem_nil _⟩
  | false =>
    -- the rooms are read again, and merging them changes nothing
    have hread : (s.world.inEpoch q e).advance (.scan q p) = ⟨s.world.inEpoch q e,
        [.merge q p ((s.world.inEpoch q e).epoch q) (s.world.directory.rooms p)], some .read,
        [.consulted q]⟩ := World.advanceScan_of_active hq' hcanceled p
    have hmerge : (s.world.inEpoch q e).advance (.merge q p ((s.world.inEpoch q e).epoch q)
        (s.world.directory.rooms p)) = .still (s.world.inEpoch q e) := by
      refine (World.advanceMerge_of_fresh hq' hcanceled p _).trans ?_
      exact (congrArg _ (hsame hcanceled)).trans (World.change_inEpoch hq e)
    refine ⟨[.consulted q], .trans
      (h.amid_silent hswept _ _ hread rfl (by rintro _ ⟨⟩; rfl) (by simp [Task.subscribers]))
      (h.amid_silent hswept _ _ hmerge rfl nofun (by simp [Move.still, Task.subscribers])), ?_⟩
    exact fun note hnote => List.mem_singleton.mp hnote

/-- **Where nothing comes of an announcement**, nothing is different afterwards but the epoch of the
query. -/
theorem Calm.handles_silently (h : s.Calm audience) (hswept : s.sweep = s)
    (hsettled : s.world.Settled q notice) :
    ∃ e added, s.Handles q notice (s.during (s.world.inEpoch q e) [] added) ∧
      ∀ note ∈ added, note = .consulted q := by
  -- once nothing is left of the announcement, it is over
  suffices htaken : ∃ e added, Amid s.calls (s.tell q notice)
      (s.during (s.world.inEpoch q e) [.deliver notice []] added) ∧
        ∀ note ∈ added, note = .consulted q by
    obtain ⟨e, added, hamid, hadded⟩ := htaken
    exact ⟨e, added, ⟨hamid.trans (h.amid_delivered hswept), rfl⟩, hadded⟩
  have hquiet : ∀ {e}, s.world.follow q notice = .still (s.world.inEpoch q e) →
      ∃ e added, Amid s.calls (s.tell q notice)
        (s.during (s.world.inEpoch q e) [.deliver notice []] added) ∧
          ∀ note ∈ added, note = .consulted q := fun hfollow =>
    ⟨_, [], h.amid_told hswept hfollow (List.forall_mem_nil _), List.forall_mem_nil _⟩
  cases hq : s.world.query? q with
  | none =>
    refine hquiet (e := s.world.epoch q) ?_
    rw [World.inEpoch_epoch, World.follow, hq]
  | some query =>
    have htakes := World.takes_follow hq fun n hn => hsettled.followRegistry hq hn
    rw [hsettled.uptake hq] at htakes
    generalize hfollow : s.world.follow q notice = m at htakes
    cases htakes with
    | still =>
      refine hquiet (e := s.world.epoch q) ?_
      rw [World.inEpoch_epoch, hfollow]
    | change e _ =>
      exact hquiet (hfollow.trans (World.change_inEpoch hq e))
    | joined joinedNotice autoJoin hlive hnone hsame =>
      -- the room would have become a result
      have hfind := ResultSet.find?_mergeJoined_of_none hnone autoJoin joinedNotice.room
      rw [← hsame, if_pos rfl] at hfind
      cases hnone.symm.trans hfind
    | scan e p hsame =>
      have hscan := h.amid_told hswept hfollow fun t ht => by
        rw [List.mem_singleton.mp ht]
        rfl
      obtain ⟨added, hscanned, hadded⟩ := h.amid_scanned hswept notice e hq (p := p) fun hlive => by
        rw [hlive, if_neg Bool.false_ne_true] at hsame
        exact hsame.symm
      exact ⟨e, added, hscan.trans hscanned, hadded⟩

/-! ### What comes of it -/

/-- A move is made, and then perhaps some buses are closed. -/
theorem Calm.exists_amid (h : s.Calm audience) (tasks : List Task) (notes : List Note)
    (hmove : w.advance task = m)
    (hidle : ∀ c, m.callback = some c → c.IsIdle audience)
    (honly : World.OnlyFor q s.world m.world) :
    ∃ inUse, Amid s.calls (s.during w (task :: tasks) notes)
        (s.during (m.world.releaseBuses inUse) (m.tasks ++ tasks) (notes ++ m.notes)) := by
  subst hmove
  have hamid := amid_step s w task tasks notes
  rw [h.step_during hidle honly] at hamid
  exact ⟨_, hamid⟩

/-- **News go out** to one subscriber after the other. -/
theorem Calm.exists_notified (h : s.Calm audience) (tasks : List Task) (notes : List Note)
    {subscribers : List Subscriber} {deliveries : List Delivery}
    (hheard : ∀ d ∈ deliveries, ∀ name, d.subscriber = .listener name → audience name)
    (honly : World.OnlyFor q s.world w) :
    ∃ w' added, Amid s.calls (s.during w (.notify q subscribers deliveries :: tasks) notes)
        (s.during w' tasks (notes ++ added)) ∧
      World.OnlyFor q s.world w' ∧ w'.query? q = w.query? q ∧
        added.flatMap (Note.newsOf q) = [] := by
  -- one delivery after the other, and none of them changes a query
  induction deliveries generalizing w notes with
  | nil =>
    have hmove : w.advance (.notify q subscribers []) = .still w := rfl
    obtain ⟨inUse, hamid⟩ := h.exists_amid tasks notes hmove nofun honly
    exact ⟨_, [], hamid, honly.releaseBuses inUse, rfl, rfl⟩
  | cons d rest ih =>
    have hfirst : ∃ w', Amid s.calls (s.during w (.notify q subscribers (d :: rest) :: tasks) notes)
        (s.during w' (.notify q subscribers rest :: tasks) (notes ++ [.delivered q d])) ∧
          World.OnlyFor q s.world w' ∧ w'.query? q = w.query? q := by
      obtain ⟨id, subscriber, news⟩ := d
      cases subscriber with
      | listener name =>
        have hmove : w.advance (.notify q subscribers (⟨id, .listener name, news⟩ :: rest)) =
            ⟨w, [.notify q subscribers rest], some (.listener name ⟨.query q, news⟩), [_]⟩ := rfl
        obtain ⟨inUse, hamid⟩ := h.exists_amid tasks notes hmove
          (by rintro _ ⟨⟩; exact hheard _ List.mem_cons_self name rfl) honly
        exact ⟨_, hamid, honly.releaseBuses inUse, rfl⟩
      | bus b =>
        have hmove : w.advance (.notify q subscribers (⟨id, .bus b, news⟩ :: rest)) =
            ⟨w.publish b ⟨.query q, news⟩, [.notify q subscribers rest], none, [_]⟩ := rfl
        have honly' : World.OnlyFor q s.world (w.publish b ⟨.query q, news⟩) :=
          honly.trans (.of_eq rfl rfl)
        obtain ⟨inUse, hamid⟩ := h.exists_amid tasks notes hmove nofun honly'
        exact ⟨_, hamid, honly'.releaseBuses inUse, rfl⟩
    obtain ⟨w', hamid, honly', hq'⟩ := hfirst
    obtain ⟨w'', added, hamid', honly'', hq'', hadded⟩ :=
      ih (notes ++ [.delivered q d]) (fun d hd => hheard d (List.mem_cons_of_mem _ hd)) honly'
    refine ⟨w'', .delivered q d :: added, hamid.trans ?_, honly'', hq''.trans hq', hadded⟩
    rwa [List.append_assoc] at hamid'

/-- **A change is made known**, and then the query has its new results. -/
theorem Calm.exists_changed (h : s.Calm audience) (tasks : List Task) (notes : List Note)
    {w' : World} (honly : World.OnlyFor q s.world w') (hq : w'.query? q = some query)
    (hheard : ∀ name, query.Tells name → audience name)
    (hmove : w.advance task = (w'.change q outcome).andThen more) :
    ∃ w'' added, Amid s.calls (s.during w (task :: tasks) notes)
        (s.during w'' (more ++ tasks) (notes ++ added)) ∧
      World.OnlyFor q s.world w'' ∧ w''.query? q = some { query with results := outcome.2 } ∧
        added.flatMap (Note.newsOf q) = outcome.1 := by
  obtain ⟨news, results⟩ := outcome
  have honly' : World.OnlyFor q s.world
      (w'.modifyQuery q fun query => { query with results }) :=
    honly.trans (.modifyQuery w' q (fun _ => rfl) fun _ => rfl)
  have hq' : (w'.modifyQuery q fun query => { query with results }).query? q =
      some { query with results } := World.query?_modifyQuery_self _ hq
  cases news with
  | nil =>
    obtain ⟨inUse, hamid⟩ := h.exists_amid tasks notes hmove nofun honly'
    exact ⟨_, [], hamid, honly'.releaseBuses inUse, hq', rfl⟩
  | cons first later =>
    obtain ⟨inUse, hamid⟩ := h.exists_amid tasks notes hmove nofun honly'
    -- the news is committed, and delivered to everyone who is subscribed now
    have hnotify : (w'.change q (first :: later, results)).andThen more =
        ⟨w'.modifyQuery q fun query => { query with results },
          .notify q (query.subscribers.map (·.2))
            (World.deliveries (first :: later) query.subscribers) :: more, none,
          [.committed q (first :: later) (query.subscribers.map (·.1))]⟩ := by
      rw [World.change, World.commit]
      dsimp only
      rw [hq']
      rfl
    rw [hnotify] at hamid
    obtain ⟨w₂, added, hamid₂, honly₂, hq₂, hadded⟩ := h.exists_notified _ _
      (fun d hd name hname => hheard name (Query.tells_of_mem_deliveries hd hname))
      (honly'.releaseBuses inUse)
    refine ⟨w₂, .committed q (first :: later) (query.subscribers.map (·.1)) :: added,
      hamid.trans ?_, honly₂, hq₂.trans hq', ?_⟩
    · rw [List.append_assoc] at hamid₂
      exact hamid₂
    · rw [List.flatMap_cons, hadded, List.append_nil]
      exact if_pos rfl

/-- A joined room that has been looked up is a result afterwards. -/
theorem Calm.exists_joined (h : s.Calm audience) (tasks : List Task) (notes : List Note)
    (honly : World.OnlyFor q s.world w) (hq : w.query? q = some query)
    (hlive : query.isCanceled = false) (hheard : ∀ name, query.Tells name → audience name)
    {joined : PresenceNotice}
    {autoJoin : Bool} (houtcome : outcome = query.results.mergeJoined joined autoJoin) :
    ∃ w' added, Amid s.calls (s.during w (.mergeJoined q joined autoJoin :: tasks) notes)
        (s.during w' tasks (notes ++ added)) ∧
      World.OnlyFor q s.world w' ∧ w'.query? q = some { query with results := outcome.2 } ∧
        added.flatMap (Note.newsOf q) = outcome.1 := by
  have hmove : w.advance (.mergeJoined q joined autoJoin) = (w.change q outcome).andThen [] := by
    rw [houtcome, Move.andThen_nil]
    show w.advanceJoined q joined autoJoin = _
    rw [World.advanceJoined, hq]
    dsimp only
    rw [hlive, if_neg Bool.false_ne_true]
  exact h.exists_changed tasks notes honly hq hheard hmove

/-- The rooms of a provider that are accepted are results afterwards. -/
theorem Calm.exists_scanned (h : s.Calm audience) (tasks : List Task) (notes : List Note)
    (honly : World.OnlyFor q s.world w) (hq : w.query? q = some query)
    (hheard : query.isCanceled = false → ∀ name, query.Tells name → audience name) {p : ProviderId}
    (houtcome : outcome = if query.isCanceled then ([], query.results) else
      query.results.mergeRooms p ((s.world.directory.rooms p).filter fun room =>
        query.accepts room.name room.identifier)) :
    ∃ w' added, Amid s.calls (s.during w (.scan q p :: tasks) notes)
        (s.during w' tasks (notes ++ added)) ∧
      World.OnlyFor q s.world w' ∧ w'.query? q = some { query with results := outcome.2 } ∧
        added.flatMap (Note.newsOf q) = outcome.1 := by
  cases hlive : query.isCanceled with
  | true =>
    rw [hlive, if_pos rfl] at houtcome
    -- the scan stops at once
    have hadvance : w.advance (.scan q p) = .still w := by
      refine World.advanceScan_of_canceled ?_ p
      rintro ⟨other, hother, hactive⟩
      cases Option.some.inj (hq.symm.trans hother)
      exact Bool.false_ne_true (hactive.symm.trans hlive)
    obtain ⟨inUse, hamid⟩ := h.exists_amid tasks notes hadvance nofun honly
    subst houtcome
    exact ⟨_, [], hamid, honly.releaseBuses inUse, hq, rfl⟩
  | false =>
    rw [hlive, if_neg Bool.false_ne_true] at houtcome
    -- the rooms are read in one step, and merged in the next one
    have hread : w.advance (.scan q p) = ⟨w, [.merge q p (w.epoch q) (w.directory.rooms p)],
        some .read, [.consulted q]⟩ := World.advanceScan_of_active hq hlive p
    obtain ⟨inUse, hamid₁⟩ := h.exists_amid tasks notes hread
      (by rintro _ ⟨⟩; trivial) honly
    -- no epoch has begun since the rooms were read
    have hmerge : (w.releaseBuses inUse).advance (.merge q p (w.epoch q) (w.directory.rooms p)) =
        ((w.releaseBuses inUse).change q outcome).andThen [] := by
      rw [Move.andThen_nil, houtcome, ← honly.directory]
      exact World.advanceMerge_of_fresh (w := w.releaseBuses inUse) hq hlive p _
    obtain ⟨w₂, added, hamid₂, honly₂, hq₂, hadded⟩ := h.exists_changed tasks
      (notes ++ [.consulted q]) (honly.releaseBuses inUse) hq (hheard hlive) hmerge
    refine ⟨w₂, .consulted q :: added, hamid₁.trans ?_, honly₂, hq₂, hadded⟩
    rw [List.append_assoc] at hamid₂
    exact hamid₂

/-- **What comes of an announcement**, if nobody interferes: the query has the results that it makes
of it, the news of that are out, and what was to be done before is next again. -/
theorem Calm.handles (h : s.Calm audience) (rest : List Watcher) (tasks : List Task)
    (notes : List Note) (hq : s.world.query? q = some query)
    (hheard : query.isCanceled = false → ∀ name, query.Tells name → audience name)
    (hregistry : ∀ n, notice = .registration n →
      s.world.followRegistry q query n = .still s.world) :
    ∃ w e added, Amid s.calls
        (s.during s.world (.deliver notice (.query q :: rest) :: tasks) notes)
        (s.during w (.deliver notice rest :: tasks) (notes ++ added)) ∧
      World.OnlyFor q s.world w ∧
      w.query? q = some { query with
        results := (query.uptake s.world.directory notice).2, epoch := e } ∧
      added.flatMap (Note.newsOf q) = (query.uptake s.world.directory notice).1 := by
  have htakes := World.takes_follow hq hregistry
  have hadvance : s.world.advance (.deliver notice (.query q :: rest)) =
      (s.world.follow q notice).andThen [.deliver notice rest] := rfl
  generalize s.world.follow q notice = m at htakes hadvance
  generalize query.uptake s.world.directory notice = outcome at htakes
  cases htakes with
  | still hsame =>
    obtain ⟨inUse, hamid⟩ := h.exists_amid tasks notes hadvance nofun (.refl q s.world)
    subst hsame
    exact ⟨_, query.epoch, [], hamid, (World.OnlyFor.refl q s.world).releaseBuses inUse, hq, rfl⟩
  | change e hlive =>
    obtain ⟨w, added, hamid, honly, hq', hadded⟩ := h.exists_changed tasks notes
      (World.onlyFor_inEpoch s.world q e) (World.query?_inEpoch hq) (hheard hlive) hadvance
    exact ⟨w, e, added, hamid, honly, hq', hadded⟩
  | joined joined autoJoin hlive hnone hsame =>
    -- the room is looked up in one step, and merged in the next one
    obtain ⟨inUse, hamid₁⟩ := h.exists_amid tasks notes hadvance (by rintro _ ⟨⟩; trivial)
      (.refl q s.world)
    have honly := (World.OnlyFor.refl q s.world).releaseBuses inUse
    obtain ⟨w₂, added, hamid₂, honly₂, hq₂, hadded⟩ := h.exists_joined
      (.deliver notice rest :: tasks) (notes ++ [.consulted q]) honly hq hlive (hheard hlive) hsame
    refine ⟨w₂, query.epoch, .consulted q :: added, hamid₁.trans ?_, honly₂, hq₂, hadded⟩
    rw [List.append_assoc] at hamid₂
    exact hamid₂
  | scan e p hsame =>
    -- the new provider is scanned before the other watchers hear of it
    have honly := World.onlyFor_inEpoch s.world q e
    obtain ⟨inUse, hamid₁⟩ := h.exists_amid tasks notes hadvance nofun honly
    obtain ⟨w₂, added, hamid₂, honly₂, hq₂, hadded⟩ := h.exists_scanned
      (.deliver notice rest :: tasks) (notes ++ []) (honly.releaseBuses inUse)
      (World.query?_inEpoch hq) hheard hsame
    refine ⟨w₂, e, added, hamid₁.trans ?_, honly₂, hq₂, hadded⟩
    rw [List.append_assoc] at hamid₂
    exact hamid₂

end Session

end RoomSearch
