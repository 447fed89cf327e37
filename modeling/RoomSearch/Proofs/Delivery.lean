import RoomSearch.Proofs.Ledger
import RoomSearch.Proofs.Session.Handover

/-!
# Nothing is lost and nothing is told twice

Listeners may do anything from inside a notification, so deliveries nest and arrive in any order.
Still every letter that was ever sent has been received once or is owed once, at every moment; at
rest nothing is owed.  What a subscription was sent since it began is what the query has changed by,
so that results found and removed are balanced in the letters it has received.

## Main definitions

* `Session.sent`, `Session.received`, `Session.owed` — the letters of a session.
* `newsTo` — the news in the letters to a subscription.
* `Session.Reports` — what is noted between two sessions tells all that changes.
* `Session.Joins` — a subscription of a query begins.

## Main results

* `Session.orderly_of_reachable` — letters received and owed are the letters sent.
* `Session.deliveries_accounted` — **no notification is lost and none is duplicated**.
-/

namespace RoomSearch

open scoped List

/-- The news in the letters to a subscription. -/
def newsTo (id : SubscriptionId) (letters : List Letter) : List News :=
  (letters.filter fun l => l.subscription == id).map Letter.news

theorem newsTo_append (id : SubscriptionId) (letters later : List Letter) :
    newsTo id (letters ++ later) = newsTo id letters ++ newsTo id later := by
  rw [newsTo, List.filter_append, List.map_append, newsTo, newsTo]

theorem newsTo_perm {letters letters' : List Letter} (h : letters.Perm letters')
    (id : SubscriptionId) : (newsTo id letters).Perm (newsTo id letters') :=
  (h.filter _).map _

theorem newsTo_eq_nil {id : SubscriptionId} {letters : List Letter}
    (h : ∀ l ∈ letters, l.subscription ≠ id) : newsTo id letters = [] := by
  rw [newsTo, List.map_eq_nil_iff, List.filter_eq_nil_iff]
  intro l hl
  simpa using h l hl

/-- **A committed change sends its news** once to each subscription. -/
theorem newsTo_sent (id : SubscriptionId) (q : QueryId) (news : List News)
    {ids : List SubscriptionId} (hnodup : ids.Nodup) :
    newsTo id (Note.sent (.committed q news ids)) = if id ∈ ids then news else [] := by
  have hone : ∀ n : News,
      newsTo id (ids.map fun i => ⟨q, i, n⟩) = if id ∈ ids then [n] else [] := by
    intro n
    have hcount : (ids.filter fun i => i == id) = if id ∈ ids then [id] else [] := by
      rw [List.filter_beq]
      split
      · next hmem => rw [List.count_eq_one_of_mem hnodup hmem, List.replicate_one]
      · next hmem => rw [List.count_eq_zero_of_not_mem hmem, List.replicate_zero]
    rw [newsTo, List.filter_map, List.map_map]
    show ((ids.filter fun i => i == id).map fun _ => n) = _
    rw [hcount]
    split <;> rfl
  rw [Note.sent]
  induction news with
  | nil => split <;> rfl
  | cons n rest ih =>
    rw [List.flatMap_cons, newsTo_append, ih, hone]
    split <;> rfl

namespace Session

/-- The letters that have been sent. -/
def sent (s : Session) : List Letter := s.notes.flatMap Note.sent

/-- The letters that have been received. -/
def received (s : Session) : List Letter := s.notes.flatMap Note.received

/-- The letters that are owed. -/
def owed (s : Session) : List Letter := s.calls.flatMap Call.owed

/-- What is noted between `s` and `t` tells all that changes, to the subscriptions there are. -/
structure Reports (s t : Session) (new : List Note) : Prop where
  /-- What is noted comes on top. -/
  notes : t.notes = s.notes ++ new
  /-- News are sent once to each subscription that the query has at this moment, and to no other. -/
  committed : ∀ {q news ids}, .committed q news ids ∈ new →
    ids = s.world.subscriptions q ∧ ids.Nodup
  /-- The news are all that changes about results and status. -/
  pictures : ∀ {q query}, s.world.query? q = some query → ∃ query',
    t.world.query? q = some query' ∧
      query.picture.replay (new.flatMap (Note.newsOf q)) = some query'.picture

variable {permitted : Session → Action → Prop} {s t u : Session} {c : Call} {calls : List Call}
  {m : Move} {first later : List Call}

/-! ### One step -/

theorem Goes.owed (h : s.Goes c calls m first later t) :
    t.owed = m.tasks.flatMap Task.owed ++ calls.flatMap Call.owed := h.flatMap_calls Task.owed

/-- The move of a step accounts for its letters. -/
theorem Goes.tells (h : s.Goes c calls m first later t) (hs : s.Sound) (htidy : s.world.Tidy) :
    s.world.Tells c.owed m := by
  cases h.does with
  | task task => exact (World.advances_advance _ task).tells hs.accounts htidy
  | action hacts => exact World.tells_acts hs.accounts htidy hacts hs.named
  | idle hc ha =>
    rw [Call.owed, hc]
    exact World.tells_still htidy (.refl _)
  | read => exact World.tells_silent htidy rfl rfl (.refl _)

theorem nodup_subscriptions (hs : s.Sound) (q : QueryId) : (s.world.subscriptions q).Nodup := by
  rw [World.subscriptions]
  cases hq : s.world.query? q with
  | none => exact List.nodup_nil
  | some query => exact (hs.accounts.consistent hq).distinct

theorem Goes.reports (h : s.Goes c calls m first later t) (hs : s.Sound)
    (htidy : s.world.Tidy) : s.Reports t m.notes where
  notes := h.notes
  committed hmem := by
    have hids := (h.tells hs htidy).committed hmem
    exact ⟨hids, hids ▸ nodup_subscriptions hs _⟩
  pictures hq := by
    obtain ⟨query', hq', hreplay⟩ := (h.tells hs htidy).pictures hq
    obtain ⟨query'', hq'', hfound⟩ := (h.releases hs).findings.exists hq'
    refine ⟨query'', hq'', hreplay.trans (congrArg some ?_)⟩
    rw [Query.picture, Query.picture, hfound.status, hfound.results]

theorem Goes.tidy (h : s.Goes c calls m first later t) (hs : s.Sound) (htidy : s.world.Tidy) :
    t.world.Tidy := by
  intro q query hq
  obtain ⟨old, hold, hfound⟩ := (h.releases hs).findings.exists' hq
  rw [hfound.results]
  exact (h.tells hs htidy).tidy hold

/-- **A step turns letters** that were owed or are sent into letters that are received or owed. -/
theorem Goes.perm (h : s.Goes c calls m first later t) (hs : s.Sound) (htidy : s.world.Tidy)
    (hcalls : s.calls = c :: calls) (hperm : (s.received ++ s.owed).Perm s.sent) :
    (t.received ++ t.owed).Perm t.sent := by
  have hletters := (h.tells hs htidy).letters
  have hreceived : t.received = s.received ++ m.notes.flatMap Note.received := by
    rw [received, h.notes, List.flatMap_append, received]
  have hsent : t.sent = s.sent ++ m.notes.flatMap Note.sent := by
    rw [sent, h.notes, List.flatMap_append, sent]
  have howed : s.owed = c.owed ++ calls.flatMap Call.owed := by
    rw [Session.owed, hcalls, List.flatMap_cons]
  calc t.received ++ t.owed
      = s.received ++ (c.owed ++ m.notes.flatMap Note.sent) ++ calls.flatMap Call.owed := by
        rw [hreceived, h.owed, ← hletters]
        simp only [List.append_assoc]
    _ = (s.received ++ c.owed) ++ (m.notes.flatMap Note.sent ++ calls.flatMap Call.owed) := by
        simp only [List.append_assoc]
    _ ~ (s.received ++ c.owed) ++ (calls.flatMap Call.owed ++ m.notes.flatMap Note.sent) :=
        List.perm_append_comm.append_left _
    _ = (s.received ++ s.owed) ++ m.notes.flatMap Note.sent := by
        rw [howed]
        simp only [List.append_assoc]
    _ ~ s.sent ++ m.notes.flatMap Note.sent := hperm.append_right _
    _ = t.sent := hsent.symm

/-! ### Subscriptions -/

theorem mem_subscriptions {w : World} {q : QueryId} {id : SubscriptionId} :
    id ∈ w.subscriptions q ↔
      ∃ query, w.query? q = some query ∧ ∃ v ∈ query.subscribers, v.1 = id := by
  rw [World.subscriptions]
  cases w.query? q with
  | none => simp
  | some query => simp

/-- Identities of subscriptions have been given out. -/
theorem Sound.given (hs : s.Sound) {q : QueryId} {id : SubscriptionId}
    (hid : id ∈ s.world.subscriptions q) : id.number < s.world.nextSubscription.number := by
  obtain ⟨query, hq, v, hv, rfl⟩ := mem_subscriptions.mp hid
  exact hs.accounts.given hq hv

/-- A subscription belongs to one query. -/
theorem Sound.apart (hs : s.Sound) {q p : QueryId} {id : SubscriptionId}
    (hq : id ∈ s.world.subscriptions q) (hp : id ∈ s.world.subscriptions p) : p = q := by
  obtain ⟨query, hquery, v, hv, rfl⟩ := mem_subscriptions.mp hq
  obtain ⟨other, hother, v', hv', heq⟩ := mem_subscriptions.mp hp
  exact (hs.accounts.apart hquery hother hv hv' heq.symm).symm

/-- A subscription that is not new was there before. -/
theorem old_of_later {w w' : World} (h : World.Later w w') {q : QueryId} {id : SubscriptionId}
    (hid : id ∈ w'.subscriptions q) (hlt : id.number < w.nextSubscription.number) :
    id ∈ w.subscriptions q := by
  obtain ⟨query', hq', v, hv, rfl⟩ := mem_subscriptions.mp hid
  obtain ⟨query, hq, hv'⟩ := h.old hq' hv hlt
  exact mem_subscriptions.mpr ⟨query, hq, v, hv', rfl⟩

/-- A letter goes to a subscription that the query has when it is sent. -/
theorem Reports.mem_subscriptions {new : List Note} (h : s.Reports t new) {l : Letter}
    (hl : l ∈ new.flatMap Note.sent) : l.subscription ∈ s.world.subscriptions l.query := by
  obtain ⟨note, hnote, hsent⟩ := List.mem_flatMap.mp hl
  cases note with
  | committed q news ids =>
    obtain ⟨n, -, hmem⟩ := List.mem_flatMap.mp hsent
    obtain ⟨id, hid, rfl⟩ := List.mem_map.mp hmem
    exact (h.committed hnote).1 ▸ hid
  | _ => cases hsent

/-! ### Histories -/

/-- A session in which letters are accounted for. -/
structure Orderly (s : Session) : Prop where
  sound : s.Sound
  tidy : s.world.Tidy
  perm : (s.received ++ s.owed).Perm s.sent
  given : ∀ l ∈ s.sent, l.subscription.number < s.world.nextSubscription.number

theorem orderly_ofSources (config : Config) (directory : Directory)
    (registered : List ServiceMention) (limit : Nat) :
    (ofSources config directory registered limit).Orderly :=
  ⟨sound_ofSources .., nofun, .refl _, nofun⟩

theorem Reports.given {new : List Note} (h : s.Reports t new) (hs : s.Orderly)
    (hlater : World.Later s.world t.world) :
    ∀ l ∈ t.sent, l.subscription.number < t.world.nextSubscription.number := by
  intro l hl
  rw [sent, h.notes, List.flatMap_append] at hl
  refine Nat.lt_of_lt_of_le ?_ hlater.next
  rcases List.mem_append.mp hl with hl | hl
  · exact hs.given l hl
  · exact hs.sound.given (h.mem_subscriptions hl)

theorem Orderly.next (h : s.Orderly) (hnext : Next permitted s t) :
    t.Orderly ∧ ∃ new, s.Reports t new := by
  have hsound := h.sound.next hnext
  have hlater := h.sound.later_next hnext
  cases hnext with
  | ask a hrest =>
    have hreports : s.Reports (s.ask a) [] :=
      ⟨(List.append_nil _).symm, nofun, fun hq => ⟨_, hq, rfl⟩⟩
    refine ⟨⟨hsound, h.tidy, ?_, h.given⟩, [], hreports⟩
    have hperm := h.perm
    rw [owed, hrest] at hperm
    exact hperm
  | step hcalls hpermitted =>
    obtain ⟨m, first, later, hgoes⟩ := goes_step hcalls
    have hreports := hgoes.reports h.sound h.tidy
    exact ⟨⟨hsound, hgoes.tidy h.sound h.tidy, hgoes.perm h.sound h.tidy hcalls h.perm,
      hreports.given h hlater⟩, m.notes, hreports⟩

theorem Orderly.leads (h : s.Orderly) (hleads : Leads permitted s t) : t.Orderly := by
  induction hleads with
  | refl => exact h
  | tail _ hnext ih => exact (ih.next hnext).1

theorem orderly_of_reachable (h : Reachable permitted s) : s.Orderly := by
  obtain ⟨config, directory, registered, limit, hleads⟩ := h
  exact (orderly_ofSources ..).leads hleads

/-! ### One subscription -/

/-- What is sent to a subscription at a moment: the news of its query, if it is there. -/
theorem newsTo_notes {w : World} {new : List Note}
    (hcommitted : ∀ {q news ids}, .committed q news ids ∈ new →
      ids = w.subscriptions q ∧ ids.Nodup)
    {q : QueryId} {id : SubscriptionId} (hone : ∀ p, id ∈ w.subscriptions p → p = q) :
    newsTo id (new.flatMap Note.sent) =
      if id ∈ w.subscriptions q then new.flatMap (Note.newsOf q) else [] := by
  induction new with
  | nil => exact (ite_self _).symm
  | cons note rest ih =>
    rw [List.flatMap_cons, List.flatMap_cons, newsTo_append,
      ih fun hmem => hcommitted (List.mem_cons_of_mem _ hmem)]
    cases note with
    | committed p news ids =>
      obtain ⟨rfl, hnodup⟩ := hcommitted List.mem_cons_self
      rw [newsTo_sent id p news hnodup, Note.newsOf]
      by_cases hp : p = q
      · subst hp
        rw [if_pos rfl]
        split <;> rfl
      · rw [if_neg hp, if_neg fun hmem => hp (hone p hmem)]
        rfl
    | _ => rfl

/-- What has happened to a query and to one of its subscriptions between two moments: the news
that were sent to the subscription are the news of the query, up to its end. -/
structure Tracks (q : QueryId) (id : SubscriptionId) (t s : Session) (new : List Note) : Prop where
  notes : s.notes = t.notes ++ new
  pictures : ∀ {query}, t.world.query? q = some query → ∃ query',
    s.world.query? q = some query' ∧
      query.picture.replay (new.flatMap (Note.newsOf q)) = some query'.picture
  sentTo : newsTo id (new.flatMap Note.sent) <+: new.flatMap (Note.newsOf q)
  held : id ∈ s.world.subscriptions q →
    newsTo id (new.flatMap Note.sent) = new.flatMap (Note.newsOf q)

/-- **A subscription is sent the news of its query** for as long as it lasts. -/
theorem Orderly.tracks (ht : t.Orderly) {q : QueryId} {id : SubscriptionId}
    (hid : id ∈ t.world.subscriptions q) (hleads : Leads permitted t s) :
    ∃ new, Tracks q id t s new := by
  induction hleads with
  | refl =>
    exact ⟨[], (List.append_nil _).symm, fun hq => ⟨_, hq, rfl⟩, List.prefix_rfl, fun _ => rfl⟩
  | @tail v s hleads hnext ih =>
    obtain ⟨new, htracks⟩ := ih
    have hv := ht.leads hleads
    obtain ⟨-, here, hreports⟩ := hv.next hnext
    have hlater := ht.sound.later hleads
    have hlt := ht.sound.given hid
    -- no other query has this subscription now, since none had it when it began
    have hone : ∀ p, id ∈ v.world.subscriptions p → p = q := fun p hp =>
      ht.sound.apart hid (old_of_later hlater hp hlt)
    have hhere := newsTo_notes hreports.committed hone
    have hstays : id ∈ s.world.subscriptions q → id ∈ v.world.subscriptions q := fun hs =>
      old_of_later (hv.sound.later_next hnext) hs (Nat.lt_of_lt_of_le hlt hlater.next)
    refine ⟨new ++ here, ?_, ?_, ?_, ?_⟩
    · rw [hreports.notes, htracks.notes, List.append_assoc]
    · intro query hq
      obtain ⟨query', hq', hreplay⟩ := htracks.pictures hq
      obtain ⟨query'', hq'', hreplay'⟩ := hreports.pictures hq'
      refine ⟨query'', hq'', ?_⟩
      rw [List.flatMap_append]
      exact Picture.replay_append_of hreplay hreplay'
    · rw [List.flatMap_append, List.flatMap_append, newsTo_append, hhere]
      split
      · next hmem => exact ⟨[], by rw [List.append_nil, htracks.held hmem]⟩
      · rw [List.append_nil]
        exact htracks.sentTo.trans (List.prefix_append _ _)
    · intro hs
      have hmem := hstays hs
      rw [List.flatMap_append, List.flatMap_append, newsTo_append, hhere, if_pos hmem,
        htracks.held hmem]

/-- A subscription of a query begins. -/
def Joins (q : QueryId) (id : SubscriptionId) (u t : Session) : Prop :=
  id ∉ u.world.subscriptions q ∧ id ∈ t.world.subscriptions q

/-- Nothing is sent to a subscription before it has begun. -/
theorem Orderly.newsTo_eq_nil (hu : u.Orderly) (hnext : Next permitted u t) {q : QueryId}
    {id : SubscriptionId} (hjoins : Joins q id u t) : newsTo id t.sent = [] := by
  have hlater := hu.sound.later_next hnext
  -- its identity had not been given out
  have hnew : ¬ id.number < u.world.nextSubscription.number := fun hlt =>
    hjoins.1 (old_of_later hlater hjoins.2 hlt)
  obtain ⟨-, new, hreports⟩ := hu.next hnext
  refine RoomSearch.newsTo_eq_nil fun l hl heq => hnew ?_
  rw [← heq]
  rw [sent, hreports.notes, List.flatMap_append] at hl
  rcases List.mem_append.mp hl with hl | hl
  · exact hu.given l hl
  · exact hu.sound.given (hreports.mem_subscriptions hl)

/-- All that was ever sent to a subscription. -/
theorem Tracks.newsTo_sent {q : QueryId} {id : SubscriptionId} {new : List Note}
    (h : Tracks q id t s new) (hnone : newsTo id t.sent = []) :
    newsTo id s.sent = newsTo id (new.flatMap Note.sent) := by
  rw [sent, h.notes, List.flatMap_append, newsTo_append]
  show newsTo id t.sent ++ _ = _
  rw [hnone, List.nil_append]

end Session

/-! ### Nothing lost, nothing twice -/

/-- How many results with an address a query has: one or none. -/
def World.countAt (w : World) (q : QueryId) (address : String) : Nat :=
  (w.query? q).elim 0 fun query => query.picture.countAt address

namespace Session

variable {s t u : Session} {permitted : Session → Action → Prop}

/-- **Results found and removed are balanced** in what a subscription has received, in whatever
order it has received it: the difference is what has been added to the results since it began. -/
theorem Orderly.balance (hu : u.Orderly) (hnext : Next permitted u t) {q : QueryId}
    {id : SubscriptionId} (hjoins : Joins q id u t) (hleads : Leads permitted t s)
    (hrest : s.calls = []) (hheld : id ∈ s.world.subscriptions q) (address : String) :
    t.world.countAt q address + (newsTo id s.received).countP (News.isFoundAt address) =
      s.world.countAt q address + (newsTo id s.received).countP (News.isRemovedAt address) := by
  have ht := (hu.next hnext).1
  obtain ⟨new, htracks⟩ := ht.tracks hjoins.2 hleads
  obtain ⟨query, hq, -⟩ := mem_subscriptions.mp hjoins.2
  obtain ⟨query', hq', hreplay⟩ := htracks.pictures hq
  -- at rest all that was sent has been received
  have hperm := (ht.leads hleads).perm
  rw [owed, hrest, List.flatMap_nil, List.append_nil] at hperm
  have hnews : (newsTo id s.received).Perm (new.flatMap (Note.newsOf q)) := by
    rw [← htracks.held hheld, ← htracks.newsTo_sent (hu.newsTo_eq_nil hnext hjoins)]
    exact newsTo_perm hperm id
  rw [World.countAt, World.countAt, hq, hq', hnews.countP_eq, hnews.countP_eq]
  exact Picture.balance_of_replay hreplay address

/-- **No notification is lost and none is duplicated**, whatever listeners, observers and hooks do.
Every step tells all that it changes about results and status, to the subscriptions that exist at
this moment, and what it notes as delivered it hands over; the letters that are received or owed are
at all times the letters that were sent, and at rest none is owed.  So what a subscription has
received since it began balances the results. -/
theorem deliveries_accounted (h : Reachable Unrestricted s) :
    (∀ t, Next Unrestricted s t → ∃ new, s.Reports t new ∧
      ∀ q d, .delivered q d ∈ new → new = [.delivered q d] ∧ s.HandsOver t q d) ∧
      (s.received ++ s.owed).Perm s.sent ∧
      (s.calls = [] → s.received.Perm s.sent) ∧
      (s.calls = [] → ∀ u t q id, Reachable Unrestricted u → Next Unrestricted u t →
        Joins q id u t → Leads Unrestricted t s → id ∈ s.world.subscriptions q → ∀ address,
          ((newsTo id s.received).countP (News.isFoundAt address) : Int) -
              (newsTo id s.received).countP (News.isRemovedAt address) =
            s.world.countAt q address - t.world.countAt q address) := by
  have hs := orderly_of_reachable h
  refine ⟨fun t hnext => ?_, hs.perm, ?_, ?_⟩
  · obtain ⟨-, new, hreports⟩ := hs.next hnext
    exact ⟨new, hreports, fun q d hmem => handsOver_next hnext hreports.notes hmem⟩
  · intro hrest
    have hperm := hs.perm
    rwa [owed, hrest, List.flatMap_nil, List.append_nil] at hperm
  · intro hrest u t q id hu hnext hjoins hleads hheld address
    have hbalance := (orderly_of_reachable hu).balance hnext hjoins hleads hrest hheld address
    omega

/-- A query has a listener that calls back when it is told of a room: it lets another one subscribe,
takes the room away, and asks for a second search. -/
def reacting : Session :=
  ((((ofSources .default twoRooms []).ask (.create "q" "" false)).steps 3).ask
    (.listen "q" "l" "s" [⟨some "result_found", some "a", 1,
      [.listen "q" "m" "t" [] none, .removeRoom ⟨"p"⟩ "a", .run "q"]⟩] none)).steps 3

/-- The query searches, and has told the listener of the first of two rooms. -/
def halfway : Session := (reacting.ask (.run "q")).steps 5

/-- The listener has called back, and the search is over. -/
def resumed : Session := halfway.step.steps 19

theorem reachable_halfway : Reachable Unrestricted halfway := by
  refine ⟨.default, twoRooms, [], Bus.maxCapacity, ?_⟩
  have hcreated : Leads Unrestricted (ofSources .default twoRooms [])
      (((ofSources .default twoRooms []).ask (.create "q" "" false)).steps 3) :=
    leads_ask _ 3 rfl fun _ _ _ _ => trivial
  have hreacting : Leads Unrestricted (ofSources .default twoRooms []) reacting :=
    hcreated.trans (leads_ask _ 3 rfl fun _ _ _ _ => trivial)
  exact hreacting.trans (leads_ask (.run "q") 5 rfl fun _ _ _ _ => trivial)

theorem joins_halfway : Joins ⟨0⟩ ⟨5⟩ halfway halfway.step := by
  constructor
  · decide +kernel
  · decide +kernel

/-- The second subscription began between two deliveries of one change.  It was told of the removal,
and not of the finding. -/
theorem deliveries_accounted_resumed : Reachable Unrestricted resumed ∧ resumed.calls = [] ∧
    resumed.received.Perm resumed.sent ∧ resumed.received.length = 6 ∧
    Joins ⟨0⟩ ⟨5⟩ halfway halfway.step ∧
    ((newsTo ⟨5⟩ resumed.received).countP (News.isFoundAt "a") : Int) -
      (newsTo ⟨5⟩ resumed.received).countP (News.isRemovedAt "a") = -1 := by
  have hnext : Next Unrestricted halfway halfway.step := .step rfl fun _ _ => trivial
  have hleads : Leads Unrestricted halfway.step resumed :=
    leads_steps 19 fun _ _ _ _ => trivial
  have hreachable : Reachable Unrestricted resumed :=
    reachable_halfway.leads (.trans (.single hnext) hleads)
  have hrest : resumed.calls = [] := rfl
  have hheld : ⟨5⟩ ∈ resumed.world.subscriptions ⟨0⟩ := by decide +kernel
  obtain ⟨-, -, hperm, hbalance⟩ := deliveries_accounted hreachable
  have hcount := hbalance hrest halfway halfway.step ⟨0⟩ ⟨5⟩ reachable_halfway hnext joins_halfway
    hleads hheld "a"
  refine ⟨hreachable, hrest, hperm hrest, by decide +kernel, joins_halfway, ?_⟩
  rw [hcount]
  decide +kernel

end Session

end RoomSearch
