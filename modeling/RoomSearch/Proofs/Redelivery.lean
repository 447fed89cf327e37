import RoomSearch.Proofs.Redelivery.Handling

/-!
# Announcements that arrive twice

Sources may announce the same thing twice, and a query must not mind.  Whatever an announcement has
brought about the first time is there the second time: a room that has joined is a result, one that
is gone is none, the rooms of a provider have been taken over, and the subscriptions are as the
registry has it.  So the query handles the announcement again without telling anybody, and without
changing anything.  It may read from the directory once more, and it counts one more epoch.

The directory must not list two rooms of one provider under one name.  Each of them would be taken
over in turn, and told, each time the provider is scanned.

## Main definitions

* `World.HeardBy` — a listener is subscribed to a query.
* `Session.Unaltered` — nothing is different but the epoch of a query.

## Main results

* `Session.Calm.settles` — **the first time** what comes of an announcement comes once and for all.
* `Session.redelivery_silent` — **the second time** nothing comes of it.
-/

namespace RoomSearch

namespace World

variable {w w' : World} {q : QueryId} {query : Query} {notice : Notice}

/-- A listener of this name is subscribed to a query. -/
def HeardBy (w : World) (q : QueryId) (name : String) : Prop :=
  ∃ query, w.query? q = some query ∧ query.Tells name

/-- The listeners of a query are the same in both worlds. -/
theorem OnlyFor.heardBy (h : OnlyFor q w w') (hq : w'.query? q = some query) {name : String}
    (htells : query.Tells name) : w.HeardBy q name := by
  obtain ⟨old, hold, -, hsubscribers⟩ := h.own hq
  exact ⟨old, hold, by rwa [Query.Tells, ← hsubscribers]⟩

/-- An amended query has the subscribers that it had, and it alone is different. -/
theorem Amends.onlyFor (h : w.Amends w' q query) (hq : w.query? q = some query) :
    OnlyFor q w w' where
  others := h.rewires.others
  own hq' := by
    obtain ⟨a, ha⟩ := h.found
    cases Option.some.inj (ha.symm.trans hq')
    exact ⟨query, hq, rfl, rfl⟩
  directory := h.rewires.directory

theorem onlyFor_followRegistry (h : w.Accounts) (hq : w.query? q = some query)
    (n : RegistrationNotice ServiceId) :
    OnlyFor q w (w.followRegistry q query n).world := (h.followRegistry hq n).onlyFor hq

/-- An announcement of the registry is over at once, and it may concern subscriptions. -/
theorem follow_registration (h : w.Accounts) (q : QueryId) (n : RegistrationNotice ServiceId) :
    ∃ w', w.follow q (.registration n) = .still w' ∧ OnlyFor q w w' ∧
      w'.Settled q (.registration n) := by
  have hhears := hears_follow h q n
  have hposts := overlooks_post?.follow w q (.registration n)
  obtain ⟨w', hfollow, honly⟩ :
      ∃ w', w.follow q (.registration n) = .still w' ∧ OnlyFor q w w' := by
    cases hq : w.query? q with
    | none => exact ⟨w, by rw [follow, hq], .refl q w⟩
    | some query =>
      by_cases halive : query.alive = true
      · refine ⟨_, ?_, onlyFor_followRegistry h hq n⟩
        rw [← followRegistry_eq_still, follow, hq]
        dsimp only
        rw [halive, Bool.not_true, if_neg Bool.false_ne_true]
      · exact ⟨w, follow_of_not_alive hq halive _, .refl q w⟩
  rw [hfollow] at hhears hposts
  refine ⟨w', hfollow, honly, fun _ => Query.uptake_registration .., ?_⟩
  rintro query' _ hq' ⟨⟩ hattached
  obtain ⟨query, -, -, hseats⟩ := hhears.seats hq' hattached
  rw [funext hseats]
  exact reseat_reseat hposts n query.seat?

end World

namespace Session

variable {s t u : Session} {q : QueryId} {query : Query} {w : World} {notice : Notice}

/-- Nothing is different but the epoch of a query, which may have read from the directory. -/
structure Unaltered (q : QueryId) (t u : Session) : Prop where
  /-- All other queries are the same. -/
  others : ∀ {p}, p ≠ q → u.world.query? p = t.world.query? p
  /-- The query has the same results, the same status, the same subscriptions and subscribers. -/
  own : ∀ {query}, t.world.query? q = some query →
    ∃ epoch, u.world.query? q = some { query with epoch }
  /-- All sources have the same subscribers. -/
  feeds : ∀ source, u.world.feed? source = t.world.feed? source
  /-- Nothing has been made known, and nobody has been told anything. -/
  notes : ∃ added, u.notes = t.notes ++ added ∧ ∀ note ∈ added, note = .consulted q
  /-- Everything else is the same. -/
  rest : ∃ epoch, u = { t with world := t.world.inEpoch q epoch, journal := u.journal }

/-! ### Having handled an announcement -/

theorem Sound.tell (h : s.Sound) (q : QueryId) (notice : Notice) : (s.tell q notice).Sound where
  accounts := h.accounts
  alive := h.alive
  used hq halive := usesQuery_during (s := s) s.world [.deliver notice [.query q]] []
    (h.used hq halive)

/-- It takes a step at least to handle an announcement. -/
theorem Handles.exists_step (h : s.Handles q notice t) : ∃ n, t = ((s.tell q notice).steps n).step ∧
    ((s.tell q notice).steps n).calls ≠ [] := by
  rcases Relation.ReflTransGen.cases_tail h.1 with heq | ⟨x, hamid, hstep, hmore⟩
  · have hcalls : (s.tell q notice).calls = s.calls := heq ▸ h.2
    exact absurd (congrArg List.length hcalls) (Nat.succ_ne_self _)
  · obtain ⟨n, rfl⟩ := Amid.exists_steps hamid
    refine ⟨n, hstep, fun hnone => ?_⟩
    rw [hnone] at hmore
    cases hmore

theorem Handles.sound (h : s.Handles q notice t) (hs : s.Sound) : t.Sound := by
  obtain ⟨n, rfl⟩ := Amid.exists_steps h.1
  exact (hs.tell q notice).steps n

theorem Handles.swept (h : s.Handles q notice t) (hs : s.Sound) : t.sweep = t := by
  obtain ⟨n, rfl, hcalls⟩ := h.exists_step
  exact ((hs.tell q notice).steps n).sweep_step hcalls

/-- Nobody interferes afterwards either. -/
theorem Calm.during_handled (h : s.Calm (s.world.HeardBy q)) {added : List Note}
    (hhandles : s.Handles q notice (s.during w [] added)) (honly : World.OnlyFor q s.world w) :
    (s.during w [] added).Calm (w.HeardBy q) where
  sound := hhandles.sound h.sound
  unhooked := h.unhooked
  deaf l hl hheard := by
    obtain ⟨query, hq, htells⟩ := hheard
    exact h.deaf l hl (honly.heardBy hq htells)

/-! ### The first time and the second time -/

/-- When nothing is left of an announcement, what comes of it is settled. -/
theorem Calm.settles_of_amid (h : s.Calm (s.world.HeardBy q)) {added : List Note}
    (hamid : Amid s.calls (s.tell q notice) (s.during w [.deliver notice []] added))
    (honly : World.OnlyFor q s.world w) (hsettled : w.Settled q notice) :
    ∃ w' added, s.Handles q notice (s.during w' [] added) ∧ World.OnlyFor q s.world w' ∧
      w'.Settled q notice := by
  have hmove : w.advance (.deliver notice []) = .still w := rfl
  obtain ⟨inUse, hover⟩ := h.exists_amid [] added hmove nofun honly
  exact ⟨_, _, ⟨hamid.trans hover, rfl⟩, honly.releaseBuses inUse, hsettled.releaseBuses inUse⟩

/-- **The first time** what comes of an announcement comes once and for all. -/
theorem Calm.settles (h : s.Calm (s.world.HeardBy q)) (htidy : s.world.Tidy)
    (hdistinct : ∀ p, ((s.world.directory.rooms p).map Room.name).Nodup) (notice : Notice) :
    ∃ w added, s.Handles q notice (s.during w [] added) ∧ World.OnlyFor q s.world w ∧
      w.Settled q notice := by
  have htold : ∀ {w}, s.world.follow q notice = .still w → World.OnlyFor q s.world w →
      ∃ inUse, Amid s.calls (s.tell q notice)
        (s.during (w.releaseBuses inUse) [.deliver notice []] []) := by
    intro w hfollow honly
    have hmove : s.world.advance (.deliver notice [.query q]) =
        (Move.still w).andThen [.deliver notice []] := by
      rw [← hfollow]
      rfl
    exact h.exists_amid [] [] hmove nofun honly
  by_cases hregistration : ∃ n, notice = .registration n
  · obtain ⟨n, rfl⟩ := hregistration
    -- a change in the registry is followed without any news
    obtain ⟨w, hfollow, honly, hsettled⟩ := World.follow_registration h.sound.accounts q n
    obtain ⟨inUse, hamid⟩ := htold hfollow honly
    exact h.settles_of_amid hamid (honly.releaseBuses inUse) (hsettled.releaseBuses inUse)
  cases hq : s.world.query? q with
  | none =>
    -- nobody is there to hear it
    obtain ⟨inUse, hamid⟩ := htold (by rw [World.follow, hq]) (.refl q s.world)
    exact h.settles_of_amid hamid (.releaseBuses (.refl q s.world) inUse)
      ((World.Settled.of_none hq notice).releaseBuses inUse)
  | some query =>
    obtain ⟨w, e, added, hamid, honly, hq', -⟩ := h.handles [] [] [] hq
      (fun _ _ htells => ⟨query, hq, htells⟩) fun n hn => absurd ⟨n, hn⟩ hregistration
    refine h.settles_of_amid hamid honly ⟨fun hquery => ?_, fun _ hn => ?_⟩
    · -- taking the same notice up again changes nothing
      cases Option.some.inj (hq'.symm.trans hquery)
      rw [honly.directory]
      exact Query.uptake_again (htidy hq) hdistinct rfl rfl rfl rfl
    · exact absurd ⟨_, hn⟩ hregistration

/-- What is left of a session when nothing has come of an announcement. -/
theorem unaltered_during (t : Session) (q : QueryId) (e : Nat) {added : List Note}
    (hadded : ∀ note ∈ added, note = .consulted q) :
    t.Unaltered q (t.during (t.world.inEpoch q e) [] added) where
  others hp := World.query?_modifyQuery_of_ne _ _ (Ne.symm hp)
  own hq := ⟨e, World.query?_inEpoch hq⟩
  feeds _ := World.feed?_modifyQuery ..
  notes := ⟨added, notes_during .., hadded⟩
  rest := ⟨e, rfl⟩

/-- **An announcement that arrives twice** in a row changes nothing the second time, and nobody is
told anything.  It is handled both times. -/
theorem redelivery_silent (hs : Reachable Unrestricted s) (hunhooked : s.hook = none)
    (hpassive : ∀ l ∈ s.listeners, s.world.HeardBy q l.name → l.reactions = [])
    (hdistinct : ∀ p, ((s.world.directory.rooms p).map Room.name).Nodup) (notice : Notice) :
    (∃ t, s.Handles q notice t) ∧ ∀ t, s.Handles q notice t →
      (∃ u, t.Handles q notice u) ∧ ∀ u, t.Handles q notice u → t.Unaltered q u := by
  have hcalm : s.Calm (s.world.HeardBy q) := ⟨sound_of_reachable hs, hunhooked, hpassive⟩
  have horderly := orderly_of_reachable hs
  obtain ⟨w, added, hfirst, honly, hsettled⟩ := hcalm.settles horderly.tidy hdistinct notice
  have hcalm' := hcalm.during_handled hfirst honly
  obtain ⟨e, added', hsecond, hadded⟩ :=
    hcalm'.handles_silently (hfirst.swept hcalm.sound) hsettled
  -- both times there is one way to handle the announcement
  refine ⟨⟨_, hfirst⟩, fun t ht => ?_⟩
  cases hfirst.unique ht
  refine ⟨⟨_, hsecond⟩, fun u hu => ?_⟩
  cases hsecond.unique hu
  exact unaltered_during _ q e hadded

/-- A provider is announced twice to a query that has not searched yet: the first time both of its
rooms are news. -/
theorem redelivery_silent_listened : Reachable Unrestricted listened ∧ listened.hook = none ∧
    (∀ l ∈ listened.listeners, listened.world.HeardBy ⟨0⟩ l.name → l.reactions = []) ∧
    (∀ p, ((listened.world.directory.rooms p).map Room.name).Nodup) ∧
    (∃ query, listened.world.query? ⟨0⟩ = some query ∧
      (query.uptake listened.world.directory (.providers ⟨⟨"p"⟩, .added⟩)).1 =
        [.found ⟨"a", "a", ⟨"p"⟩, .offline, false⟩, .found ⟨"b", "b", ⟨"p"⟩, .offline, false⟩]) ∧
    (∃ t, listened.Handles ⟨0⟩ (.providers ⟨⟨"p"⟩, .added⟩) t) ∧
    ∀ t, listened.Handles ⟨0⟩ (.providers ⟨⟨"p"⟩, .added⟩) t →
      (∃ u, t.Handles ⟨0⟩ (.providers ⟨⟨"p"⟩, .added⟩) u) ∧
        ∀ u, t.Handles ⟨0⟩ (.providers ⟨⟨"p"⟩, .added⟩) u → t.Unaltered ⟨0⟩ u := by
  have hreachable : Reachable Unrestricted listened := reachable_listened.unrestricted
  have hpassive : ∀ l ∈ listened.listeners, listened.world.HeardBy ⟨0⟩ l.name → l.reactions = [] :=
    fun l hl _ => passive_of_listeners (s := listened) rfl l hl
  have hdistinct : listened.world.directory.Distinct :=
    Directory.distinct_empty.addProvider (by decide) (by decide)
  exact ⟨hreachable, rfl, hpassive, hdistinct.within, ⟨_, rfl, by decide +kernel⟩,
    redelivery_silent hreachable rfl hpassive hdistinct.within _⟩

end Session

end RoomSearch
