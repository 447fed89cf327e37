import RoomSearch.Proofs.Coverage.Agenda

/-!
# Registered services are listened to

While a query is attached, and nothing is in progress, it listens once to the presence channel of
every service that is registered, unless another service of the same provider has got in the way: a
query follows one channel for each provider, the seats of providers are what it goes by, and an
announcement that one service goes costs the provider its seat, whichever service has it.

Two invariants carry this.  A registered service is tended: its provider has a seat, or the query
is still going to hear of the service, or the service is going to be withdrawn, or the seat may have
been lost over another service.  And a service is placed: as long as nobody acts while it is being
announced, it has a seat only while it is registered.

## Main definitions

* `World.Expects` — a query is attached while a service is registered.
* `Session.Displaced` — a service may have lost the seat because another service went.
* `Session.Disturbed` — somebody has acted while a service was being announced.
* `Session.Tended`, `Session.Placed` — the two invariants.

## Main results

* `Session.Tended.turn`, `Session.Placed.turn` — every step of a faithful history keeps them.
* `Session.presence_covered` — **registered services are listened to**.
* `Session.replacement_unheard` — a service that replaces another one may not be.
-/

namespace RoomSearch

namespace World

variable {w w' : World} {q : QueryId} {query : Query} {service other : ServiceId}
  {p : ProviderId}

/-- The service is registered, and the query is attached. -/
def Expects (q : QueryId) (service : ServiceId) (w : World) : Prop :=
  service ∈ w.registry ∧ ∃ query, w.query? q = some query ∧ query.isAttached = true

/-- Some seat of the query is taken by the service. -/
def Seats (q : QueryId) (service : ServiceId) (w : World) : Prop :=
  ∃ query p, w.query? q = some query ∧ query.seat? p = some service

/-- A provider has a seat at the query. -/
def HasSeat (q : QueryId) (p : ProviderId) (w : World) : Prop :=
  ∃ query, w.query? q = some query ∧ (query.seat? p).isSome = true

/-- Only an attached query has seats. -/
theorem isAttached_of_seat? (h : query.seat? p = some service) : query.isAttached = true := by
  obtain ⟨a, ha, -⟩ := Option.bind_eq_some_iff.mp h
  rw [Query.isAttached, ha]
  rfl

/-- The query was attached before, and its seats are the same. -/
theorem Expects.of_holds (h : w'.Expects q service) (hseats : Holds q w w')
    (hregistry : service ∈ w'.registry → service ∈ w.registry) : w.Expects q service := by
  obtain ⟨hmem, query', hq', hattached⟩ := h
  obtain ⟨query, hq, heq⟩ := hseats.seats hq' hattached
  rw [Query.isAttached, ← heq] at hattached
  exact ⟨hregistry hmem, query, hq, hattached⟩

theorem Expects.of_hears {notice : RegistrationNotice ServiceId} (h : w'.Expects q service)
    (hseats : Hears q notice w w') : w.Expects q service := by
  obtain ⟨hmem, query', hq', hattached⟩ := h
  obtain ⟨query, hq, hattached, -⟩ := hseats.seats hq' hattached
  exact ⟨hseats.registry ▸ hmem, query, hq, hattached⟩

theorem HasSeat.of_holds (h : w.HasSeat q p) (hseats : Holds q w w')
    (hexpects : w'.Expects q service) : w'.HasSeat q p := by
  obtain ⟨-, query', hq', hattached⟩ := hexpects
  obtain ⟨old, hold, heq⟩ := hseats.seats hq' hattached
  obtain ⟨query, hq, hseat⟩ := h
  cases Option.some.inj (hq.symm.trans hold)
  exact ⟨query', hq', Query.seat?_congr heq p ▸ hseat⟩

/-- **A provider keeps its seat** when the query hears of the registry, unless a service of this
provider goes. -/
theorem HasSeat.of_hears {notice : RegistrationNotice ServiceId} (h : w.HasSeat q p)
    (hseats : Hears q notice w w') (hexpects : w'.Expects q service) :
    w'.HasSeat q p ∨ notice = ⟨notice.service, .unregistering, false⟩ ∧
      w.providerOf? notice.service = some p := by
  obtain ⟨-, query', hq', hattached⟩ := hexpects
  obtain ⟨old, hold, -, hreseat⟩ := hseats.seats hq' hattached
  obtain ⟨query, hq, hseat⟩ := h
  cases Option.some.inj (hq.symm.trans hold)
  obtain ⟨other, change, ownerStopping⟩ := notice
  have hkeeps : (w.reseat ⟨other, change, ownerStopping⟩ old.seat? p).isSome = true →
      w'.HasSeat q p := fun hsome => ⟨query', hq', (hreseat p).symm ▸ hsome⟩
  cases ownerStopping with
  | true =>
    refine .inl (hkeeps ?_)
    rw [reseat_of_stopping rfl]
    exact hseat
  | false =>
    cases change with
    | registered => exact .inl (hkeeps (Option.isSome_or.trans (by rw [hseat, Bool.true_or])))
    | unregistering =>
      by_cases hprovider : w.providerOf? other = some p
      · exact .inr ⟨rfl, hprovider⟩
      · exact .inl (hkeeps (by rwa [reseat, if_neg Bool.false_ne_true, if_neg hprovider]))

/-- **A service that is heard of takes the seat** of its provider if nobody has it. -/
theorem hasSeat_of_registered (hpost : w.post? service = some (p, true))
    (hseats : Hears q ⟨service, .registered, false⟩ w w') (hexpects : w'.Expects q other) :
    w'.HasSeat q p := by
  obtain ⟨-, query', hq', hattached⟩ := hexpects
  obtain ⟨query, -, -, hreseat⟩ := hseats.seats hq' hattached
  refine ⟨query', hq', ?_⟩
  rw [hreseat p, reseat, if_neg Bool.false_ne_true]
  dsimp only
  rw [if_pos hpost, Option.isSome_or, Option.isSome_some, Bool.or_true]

/-- An attached query has a seat for the provider of each service that was registered. -/
theorem hasSeat_of_renews (hpost : w.post? service = some (p, true)) (hseats : Renews q w w')
    (hexpects : w'.Expects q service) : w'.HasSeat q p := by
  obtain ⟨hmem, query', hq', hattached⟩ := hexpects
  refine ⟨query', hq', ?_⟩
  rw [hseats.seats hq' hattached p, List.find?_isSome]
  exact ⟨service, hseats.registry ▸ hmem, by rw [hpost, beq_self_eq_true]⟩

/-! ### The service that has a seat -/

theorem Seats.of_holds (h : w'.Seats q service) (hseats : Holds q w w') : w.Seats q service := by
  obtain ⟨query', p, hq', hseat⟩ := h
  obtain ⟨query, hq, heq⟩ := hseats.seats hq' (isAttached_of_seat? hseat)
  exact ⟨query, p, hq, (Query.seat?_congr heq p).trans hseat⟩

/-- A service has taken no seat when the query has heard of another one. -/
theorem Seats.of_hears {notice : RegistrationNotice ServiceId} (h : w'.Seats q service)
    (hseats : Hears q notice w w') (hne : notice.service ≠ service) : w.Seats q service := by
  obtain ⟨query', p, hq', hseat⟩ := h
  obtain ⟨query, hq, -, hreseat⟩ := hseats.seats hq' (isAttached_of_seat? hseat)
  refine ⟨query, p, hq, ?_⟩
  rw [hreseat p, reseat] at hseat
  split at hseat
  · exact hseat
  · split at hseat
    · rcases Option.or_eq_some_iff.mp hseat with hold | ⟨-, hnew⟩
      · exact hold
      · split at hnew
        · exact absurd (Option.some.inj hnew) hne
        · cases hnew
    · split at hseat
      · cases hseat
      · exact hseat

/-- Seats that an attached query has given are taken by registered services. -/
theorem Seats.mem_of_renews (h : w'.Seats q service) (hseats : Renews q w w') :
    service ∈ w'.registry := by
  obtain ⟨query', p, hq', hseat⟩ := h
  rw [hseats.seats hq' (isAttached_of_seat? hseat) p] at hseat
  exact hseats.registry ▸ List.mem_of_find?_eq_some hseat

/-- The seat of a service is that of its provider. -/
theorem Accounts.providerOf?_of_seat? (h : w.Accounts) (hq : w.query? q = some query)
    (hseat : query.seat? p = some service) : w.providerOf? service = some p := by
  obtain ⟨a, ha, hlink⟩ := Option.bind_eq_some_iff.mp hseat
  obtain ⟨link, hfound, rfl⟩ := Option.map_eq_some_iff.mp hlink
  have hprovided := (h.fits hq ha).provided link (List.mem_of_find?_eq_some hfound)
  have hprovider : link.provider = p := by simpa using List.find?_some hfound
  rw [hprovided, hprovider]

/-- **A service that is heard to go** has no seat any more. -/
theorem Accounts.not_seats_of_hears (h : w.Accounts)
    (hseats : Hears q ⟨service, .unregistering, false⟩ w w') : ¬ w'.Seats q service := by
  rintro ⟨query', p, hq', hseat⟩
  obtain ⟨query, hq, -, hreseat⟩ := hseats.seats hq' (isAttached_of_seat? hseat)
  rw [hreseat p, reseat, if_neg Bool.false_ne_true] at hseat
  dsimp only at hseat
  split at hseat
  · cases hseat
  · next hnot => exact hnot (h.providerOf?_of_seat? hq hseat)

end World

/-- An agenda takes care of a registered service: the query is going to hear of it, or it is going
to be withdrawn. -/
def Due (q : QueryId) (service : ServiceId) (agenda : List Task) : Prop :=
  (∃ rest, .deliver (.registration ⟨service, .registered, false⟩) rest ∈ agenda ∧
    .query q ∈ rest) ∨ .withdraw service ∈ agenda

theorem Due.mono {q : QueryId} {service : ServiceId} {agenda agenda' : List Task}
    (h : Due q service agenda) (hsub : agenda ⊆ agenda') : Due q service agenda' := by
  rcases h with ⟨rest, hmem, hrest⟩ | hmem
  · exact .inl ⟨rest, hsub hmem, hrest⟩
  · exact .inr (hsub hmem)

/-- What is due is the first thing on the agenda, or comes later. -/
theorem Due.of_deliver {q : QueryId} {service : ServiceId} {notice : RegistrationNotice ServiceId}
    {rest : List Watcher} {later : List Task}
    (h : Due q service (.deliver (.registration notice) rest :: later)) :
    notice = ⟨service, .registered, false⟩ ∧ .query q ∈ rest ∨ Due q service later := by
  rcases h with ⟨rest', hmem, hrest⟩ | hmem
  · rcases List.mem_cons.mp hmem with heq | hlater
    · cases heq
      exact .inl ⟨rfl, hrest⟩
    · exact .inr (.inl ⟨rest', hlater, hrest⟩)
  · rcases List.mem_cons.mp hmem with heq | hlater
    · cases heq
    · exact .inr (.inr hlater)

namespace Session

/-- The query is about to hear that the service goes. -/
def Dismisses (q : QueryId) (service : ServiceId) (s : Session) : Prop :=
  ∃ rest, s.calls.head? =
    some (.task (.deliver (.registration ⟨service, .unregistering, false⟩) (.query q :: rest)))

/-- The query has heard that another service goes, while the service was registered and the query
attached, as they have been since. -/
def Displaced (q : QueryId) (service other : ServiceId) (s : Session) : Prop :=
  ∃ v, Reachable Faithfully v ∧ v.Dismisses q other ∧ v.world.Expects q service ∧
    Throughout Faithfully (World.Expects q service) v s

/-- At some moment of a history that leads here, an action was going to be performed while the
service was being announced or withdrawn. -/
def Disturbed (service : ServiceId) (s : Session) : Prop :=
  ∃ v, Reachable Faithfully v ∧ Leads Faithfully v s ∧ v.action? ≠ none ∧ v.agenda service ≠ []

/-- Why nothing else has to be done for a registered service of the provider. -/
inductive Provided (q : QueryId) (service : ServiceId) (p : ProviderId) (s : Session) : Prop where
  /-- The provider has a seat. -/
  | seated (h : s.world.HasSeat q p)
  /-- The agenda takes care of the service. -/
  | due (h : Due q service (s.agenda service))
  /-- The seat may have been lost over another service. -/
  | displaced {other : ServiceId} (hne : other ≠ service)
      (hprovider : s.world.providerOf? other = some p) (h : s.Displaced q service other)

/-- A registered service is cared for. -/
structure Tended (q : QueryId) (service : ServiceId) (s : Session) : Prop where
  /-- A registered service is known. -/
  known : service ∈ s.world.registry → s.world.post? service ≠ none
  /-- A service that is announced to go is withdrawn afterwards. -/
  closed : ∀ {rest : List Watcher} {ownerStopping : Bool} {later : List Task},
    .deliver (.registration ⟨service, .unregistering, ownerStopping⟩) rest :: later <:+
      s.agenda service → .withdraw service ∈ later
  /-- If it has a channel and the query is attached, nothing else has to be done for it. -/
  provided : s.world.Expects q service → ∀ {p}, s.world.post? service = some (p, true) →
    s.Provided q service p

/-- How far the announcement of a service has come, and whether the service has a seat meanwhile. -/
inductive Placed (q : QueryId) (service : ServiceId) (s : Session) : Prop where
  /-- Nothing is announced; only a registered service has a seat. -/
  | resting (hagenda : s.agenda service = [])
      (h : s.world.Seats q service → service ∈ s.world.registry)
  /-- The service has been registered, and is announced. -/
  | entering {rest : List Watcher}
      (hagenda : s.agenda service =
        [.deliver (.registration ⟨service, .registered, false⟩) rest])
      (h : service ∈ s.world.registry)
  /-- The service is announced to go; if it has a seat, the query is going to hear of that. -/
  | leaving {rest : List Watcher}
      (hagenda : s.agenda service =
        [.deliver (.registration ⟨service, .unregistering, false⟩) rest, .withdraw service])
      (h : s.world.Seats q service → service ∈ s.world.registry ∧ .query q ∈ rest)
  /-- The service has been announced to go, and has no seat any more. -/
  | gone (hagenda : s.agenda service = [.withdraw service]) (h : ¬ s.world.Seats q service)

variable {s t : Session} {q : QueryId} {service other : ServiceId} {p : ProviderId}

namespace Turn

/-- Services stay what they are. -/
theorem posts (h : Turn q service s t) {x : ServiceId} {post : ProviderId × Bool}
    (hpost : s.world.post? x = some post) : t.world.post? x = some post := by
  cases h with
  | aside h | withdrawn _ _ h | registered _ _ h => exact h.posts hpost
  | renewed _ h => exact h.posts hpost
  | overheard _ _ h | heard _ _ _ h => exact h.posts hpost
  | passed _ _ _ h | spent _ _ h | unregistered _ _ h => exact h.posts hpost

/-- A registered service was registered before, or an action has just registered it. -/
theorem known (h : Turn q service s t) (hs : s.Tended q service)
    (hmem : service ∈ t.world.registry) : t.world.post? service ≠ none := by
  have hkeeps : service ∈ s.world.registry → t.world.post? service ≠ none := by
    intro hold
    obtain ⟨post, hpost⟩ := Option.ne_none_iff_exists'.mp (hs.known hold)
    rw [h.posts hpost]
    exact Option.some_ne_none _
  cases h with
  | aside _ hregistry => exact hkeeps (hregistry.mp hmem)
  | renewed _ hseats | overheard _ _ hseats | heard _ _ _ hseats | passed _ _ _ hseats
  | spent _ _ hseats | unregistered _ _ hseats => exact hkeeps (hseats.registry ▸ hmem)
  | withdrawn _ _ _ hregistry => exact absurd hmem hregistry
  | registered _ _ _ _ hknown => exact hknown

/-- What is announced to go was announced before, or an action has just announced it. -/
theorem closed (h : Turn q service s t) (hs : s.Tended q service) {rest : List Watcher}
    {ownerStopping : Bool} {later : List Task}
    (hsuffix : .deliver (.registration ⟨service, .unregistering, ownerStopping⟩) rest :: later <:+
      t.agenda service) : .withdraw service ∈ later := by
  cases h with
  | aside _ _ hagenda | renewed _ _ hagenda | overheard _ _ _ hagenda =>
    exact hs.closed (hagenda ▸ hsuffix)
  | heard _ hbefore hafter | passed _ hbefore hafter =>
    rw [hafter] at hsuffix
    rcases List.suffix_cons_iff.mp hsuffix with heq | hlater
    · cases heq
      exact hs.closed ⟨[], hbefore.symm⟩
    · exact hs.closed (hbefore ▸ hlater.trans (List.suffix_cons ..))
  | spent hbefore hafter | withdrawn hbefore hafter =>
    rw [hafter] at hsuffix
    exact hs.closed (hbefore ▸ hsuffix.trans (List.suffix_cons ..))
  | registered _ hagenda =>
    rw [hagenda] at hsuffix
    rcases List.suffix_cons_iff.mp hsuffix with heq | hlater
    · cases heq
    · exact hs.closed hlater
  | unregistered _ hagenda =>
    rw [hagenda] at hsuffix
    rcases List.suffix_cons_iff.mp hsuffix with heq | hlater
    · cases heq
      exact List.mem_cons_self
    · rcases List.suffix_cons_iff.mp hlater with heq | hlater
      · cases heq
      · exact hs.closed hlater

theorem providerOf? (h : Turn q service s t) (hp : s.world.providerOf? other = some p) :
    t.world.providerOf? other = some p := by
  rw [World.providerOf?_eq_map_post?] at hp ⊢
  obtain ⟨post, hpost, rfl⟩ := Option.map_eq_some_iff.mp hp
  rw [h.posts hpost, Option.map_some]

/-- **A registered service is provided for** after every turn. -/
theorem provided (h : Turn q service s t) (hs : s.Tended q service)
    (hreachable : Reachable Faithfully s) (hnext : Next Faithfully s t)
    (hexpects : t.world.Expects q service) (hpost : t.world.post? service = some (p, true)) :
    t.Provided q service p := by
  have hpost' : service ∈ s.world.registry → s.world.post? service = some (p, true) := by
    intro hmem
    obtain ⟨post, hold⟩ := Option.ne_none_iff_exists'.mp (hs.known hmem)
    rw [hold, ← hpost, h.posts hold]
  -- if the service was registered before, the reason may be another one now
  have hkeeps : s.world.Expects q service → (s.world.HasSeat q p → t.Provided q service p) →
      (Due q service (s.agenda service) → t.Provided q service p) → t.Provided q service p := by
    intro hexpected hseated hdue
    cases hs.provided hexpected (hpost' hexpected.1) with
    | seated hseat => exact hseated hseat
    | due hdue' => exact hdue hdue'
    | displaced hne hprovider hdisplaced =>
      obtain ⟨v, hv, hdismisses, hexpects', hthroughout⟩ := hdisplaced
      exact .displaced hne (h.providerOf? hprovider)
        ⟨v, hv, hdismisses, hexpects', hthroughout.tail ⟨hnext, hexpects⟩⟩
  have hturn := h
  -- either the reason stays, or the turn brings another one
  cases h with
  | aside hseats hregistry hagenda =>
    exact hkeeps (hexpects.of_holds hseats hregistry.mp)
      (fun hseat => .seated (hseat.of_holds hseats hexpects)) fun hdue => .due (hagenda ▸ hdue)
  | renewed _ hseats =>
    -- all registered services are attached anew
    exact .seated (World.hasSeat_of_renews (hpost' (hseats.registry ▸ hexpects.1)) hseats hexpects)
  | @overheard notice rest hcall hne hseats hagenda =>
    have hexpected := hexpects.of_hears hseats
    refine hkeeps hexpected (fun hseat => ?_) fun hdue => .due (hagenda ▸ hdue)
    rcases hseat.of_hears hseats hexpects with hseat | ⟨hnotice, hprovider⟩
    · exact .seated hseat
    · -- the seat is lost now
      rw [hnotice] at hcall
      exact .displaced hne (hturn.providerOf? hprovider)
        ⟨s, hreachable, ⟨rest, hcall⟩, hexpected, .single ⟨hnext, hexpects⟩⟩
  | @heard notice rest later hservice hbefore hafter hseats =>
    subst hservice
    refine hkeeps (hexpects.of_hears hseats) (fun hseat => ?_) fun hdue => ?_
    · rcases hseat.of_hears hseats hexpects with hseat | ⟨hnotice, -⟩
      · exact .seated hseat
      · -- the service goes, so it is withdrawn later
        rw [hnotice] at hbefore
        have hlater := hs.closed ⟨[], hbefore.symm⟩
        exact .due (.inr (hafter ▸ List.mem_cons_of_mem _ hlater))
    · -- the service is heard of, and takes the seat if nobody has it
      rw [hbefore] at hdue
      rcases hdue.of_deliver with ⟨hnotice, -⟩ | hlater
      · rw [hnotice] at hseats
        exact .seated (World.hasSeat_of_registered (hpost' (hseats.registry ▸ hexpects.1)) hseats
          hexpects)
      · exact .due (hafter ▸ hlater.mono (List.subset_cons_self ..))
  | @passed notice v rest later hv hbefore hafter hseats =>
    refine hkeeps (hexpects.of_holds hseats.toHolds fun hmem => hseats.registry ▸ hmem)
      (fun hseat => .seated (hseat.of_holds hseats.toHolds hexpects)) fun hdue => .due ?_
    rw [hbefore] at hdue
    rw [hafter]
    -- another watcher has heard of the service, so the query is still to hear of it
    rcases hdue.of_deliver with ⟨rfl, hmem⟩ | hlater
    · rcases List.mem_cons.mp hmem with heq | hrest
      · exact absurd heq.symm hv
      · exact .inl ⟨rest, List.mem_cons_self, hrest⟩
    · exact hlater.mono (List.subset_cons_self ..)
  | spent hbefore hafter hseats =>
    refine hkeeps (hexpects.of_holds hseats.toHolds fun hmem => hseats.registry ▸ hmem)
      (fun hseat => .seated (hseat.of_holds hseats.toHolds hexpects)) fun hdue => .due ?_
    rw [hbefore] at hdue
    rw [hafter]
    -- nobody was left in the audience
    exact hdue.of_deliver.resolve_left fun hand => List.not_mem_nil hand.2
  | withdrawn _ _ _ hregistry => exact absurd hexpects.1 hregistry
  | registered _ hagenda _ _ _ haudience =>
    obtain ⟨-, query, hq, hattached⟩ := hexpects
    exact .due (.inl ⟨_, hagenda ▸ List.mem_cons_self, haudience hq hattached⟩)
  | unregistered _ hagenda =>
    exact .due (.inr (hagenda ▸ List.mem_cons_of_mem _ List.mem_cons_self))

end Turn

/-- **Every step keeps a service tended.** -/
theorem Tended.turn (hs : s.Tended q service) (h : Turn q service s t)
    (hreachable : Reachable Faithfully s) (hnext : Next Faithfully s t) : t.Tended q service where
  known := h.known hs
  closed := h.closed hs
  provided hexpects _ := h.provided hs hreachable hnext hexpects

/-! ### The service that has the seat -/

/-- Where nothing is different about the service it is placed as before. -/
theorem Placed.of_same (hs : s.Placed q service) (hagenda : t.agenda service = s.agenda service)
    (hseats : t.world.Seats q service → s.world.Seats q service)
    (hregistry : service ∈ s.world.registry → service ∈ t.world.registry) :
    t.Placed q service := by
  cases hs with
  | resting hold h => exact .resting (hagenda.trans hold) fun hseat => hregistry (h (hseats hseat))
  | entering hold h => exact .entering (hagenda.trans hold) (hregistry h)
  | leaving hold h =>
    exact .leaving (hagenda.trans hold) fun hseat => (h (hseats hseat)).imp_left hregistry
  | gone hold h => exact .gone (hagenda.trans hold) fun hseat => h (hseats hseat)

/-- **Every step keeps a service placed**, unless an action is performed while it is announced. -/
theorem Placed.turn (hplaced : s.Placed q service) (h : Turn q service s t) (hs : s.Sound)
    (hcalm : s.action? ≠ none → s.agenda service = []) : t.Placed q service := by
  cases h with
  | aside hseats hregistry hagenda =>
    exact hplaced.of_same hagenda (fun hseat => hseat.of_holds hseats) hregistry.mpr
  -- an action begins only when nothing is announced
  | renewed haction hseats hagenda =>
    exact .resting (hagenda.trans (hcalm haction)) fun hseat => hseat.mem_of_renews hseats
  | overheard _ hne hseats hagenda =>
    exact hplaced.of_same hagenda (fun hseat => hseat.of_hears hseats hne) fun hmem =>
      hseats.registry ▸ hmem
  | heard _ hbefore hafter hseats =>
    -- only what is announced is heard of
    cases hplaced with
    | resting hagenda | gone hagenda => cases hbefore.symm.trans hagenda
    | entering hagenda h =>
      cases hbefore.symm.trans hagenda
      exact .entering hafter (hseats.registry ▸ h)
    | leaving hagenda h =>
      cases hbefore.symm.trans hagenda
      -- the seat has just been given up
      exact .leaving hafter fun hseat => absurd hseat (hs.accounts.not_seats_of_hears hseats)
  | passed hv hbefore hafter hseats =>
    cases hplaced with
    | resting hagenda | gone hagenda => cases hbefore.symm.trans hagenda
    | entering hagenda h =>
      cases hbefore.symm.trans hagenda
      exact .entering hafter (hseats.registry ▸ h)
    | leaving hagenda h =>
      cases hbefore.symm.trans hagenda
      refine .leaving hafter fun hseat => ?_
      -- the query is not the watcher that has heard, so it is still to hear
      obtain ⟨hmem, hrest⟩ := h (hseat.of_holds hseats.toHolds)
      rcases List.mem_cons.mp hrest with heq | hrest
      · exact absurd heq.symm hv
      · exact ⟨hseats.registry ▸ hmem, hrest⟩
  | spent hbefore hafter hseats =>
    cases hplaced with
    | resting hagenda | gone hagenda => cases hbefore.symm.trans hagenda
    | entering hagenda h =>
      cases hbefore.symm.trans hagenda
      -- the announcement is over, and the service stays registered
      exact .resting hafter fun _ => hseats.registry ▸ h
    | leaving hagenda h =>
      cases hbefore.symm.trans hagenda
      refine .gone hafter fun hseat => ?_
      -- nobody is left to hear of it, so the service has no seat
      exact List.not_mem_nil (h (hseat.of_holds hseats.toHolds)).2
  | withdrawn hbefore hafter hseats =>
    cases hplaced with
    | resting hagenda | entering hagenda | leaving hagenda => cases hbefore.symm.trans hagenda
    | gone hagenda h =>
      cases hbefore.symm.trans hagenda
      -- the service leaves the registry, and has no seat
      exact .resting hafter fun hseat => absurd (hseat.of_holds hseats) h
  | registered haction hagenda _ hregistry =>
    -- nothing was announced before, so the agenda is the new announcement alone
    rw [hcalm haction] at hagenda
    exact .entering hagenda hregistry
  | unregistered haction hagenda hseats haudience =>
    have hnothing := hcalm haction
    rw [hnothing] at hagenda
    refine .leaving hagenda fun hseat => ⟨?_, ?_⟩
    · -- a service with a seat was registered
      cases hplaced with
      | resting _ h => exact hseats.registry ▸ h (hseat.of_holds hseats.toHolds)
      | entering hold | leaving hold | gone hold => cases hnothing.symm.trans hold
    · -- the query of the seat is attached, so it is in the audience
      obtain ⟨query, p, hq, hseat⟩ := hseat
      exact haudience hq (World.isAttached_of_seat? hseat)

/-! ### Histories -/

/-- The services that are registered at the beginning are mentioned at the beginning. -/
theorem world_ofSources (config : Config) (directory : Directory) (registered : List ServiceMention)
    (services : List Service) (registry : List ServiceId) (limit : Nat) :
    World.ofSources config directory (registered.foldl (fun services m =>
      Keyed.insertNew Service.key (.ofParts m.id m.provider m.hasChannel) services) services)
      registry limit =
    registered.foldl World.mention
      (World.ofSources config directory services registry limit) := by
  induction registered generalizing services with
  | nil => rfl
  | cons m rest ih => exact ih _

/-- Services that are mentioned are known. -/
theorem post?_foldl_mention (w : World) {mentions : List ServiceMention}
    (h : (∃ m ∈ mentions, m.id = service) ∨ w.post? service ≠ none) :
    (mentions.foldl World.mention w).post? service ≠ none := by
  induction mentions generalizing w with
  | nil => exact h.resolve_left (by rintro ⟨m, hm, -⟩; cases hm)
  | cons m rest ih =>
    refine ih (w.mention m) ?_
    rcases h with ⟨m', hm, rfl⟩ | hknown
    · rcases List.mem_cons.mp hm with rfl | hrest
      · exact .inr (World.post?_mention_ne_none w m')
      · exact .inl ⟨m', hrest, rfl⟩
    · obtain ⟨post, hpost⟩ := Option.ne_none_iff_exists'.mp hknown
      refine .inr ?_
      rw [(World.stays_mention (q := ⟨0⟩) w m).posts hpost]
      exact Option.some_ne_none _

theorem tended_ofSources (config : Config) (directory : Directory)
    (registered : List ServiceMention) (limit : Nat) :
    (ofSources config directory registered limit).Tended q service where
  known hmem := by
    rw [ofSources, ofWorld, world_ofSources]
    exact post?_foldl_mention _ (.inl (List.mem_map.mp hmem))
  closed hsuffix := by
    cases List.suffix_nil.mp hsuffix
  provided hexpects := by
    obtain ⟨-, query, hq, -⟩ := hexpects
    cases hq

/-- **Registered services are tended** in every faithful history. -/
theorem tended_of_reachable (h : Reachable Faithfully s) (q : QueryId) (service : ServiceId) :
    s.Tended q service := by
  obtain ⟨config, directory, registered, limit, hleads⟩ := h
  induction hleads with
  | refl => exact tended_ofSources config directory registered limit
  | tail hleads hnext ih =>
    have hreachable : Reachable Faithfully _ := ⟨config, directory, registered, limit, hleads⟩
    exact ih.turn ((sound_of_reachable hreachable).turn hnext q service) hreachable hnext

/-- **Services are placed** in every faithful history, unless they have been disturbed. -/
theorem placed_of_reachable (h : Reachable Faithfully s) (q : QueryId) (service : ServiceId) :
    s.Placed q service ∨ s.Disturbed service := by
  obtain ⟨config, directory, registered, limit, hleads⟩ := h
  induction hleads with
  | refl =>
    refine .inl (.resting rfl ?_)
    rintro ⟨query, p, hq, -⟩
    cases hq
  | @tail v t hleads hnext ih =>
    have hreachable : Reachable Faithfully v := ⟨config, directory, registered, limit, hleads⟩
    rcases ih with hplaced | ⟨u, hu, hleads', hacts⟩
    · by_cases hdisturbs : v.action? ≠ none ∧ v.agenda service ≠ []
      · exact .inr ⟨v, hreachable, .single hnext, hdisturbs⟩
      · have hs := sound_of_reachable hreachable
        refine .inl (hplaced.turn (hs.turn hnext q service) hs fun haction => ?_)
        by_contra hagenda
        exact hdisturbs ⟨haction, hagenda⟩
    · exact .inr ⟨u, hu, hleads'.tail hnext, hacts⟩

/-- A service that has a seat is listened to. -/
theorem Sound.listeners_of_seat? (h : s.Sound) {query : Query} (hq : s.world.query? q = some query)
    (hseat : query.seat? p = some service) : s.world.listeners (.presence service) q = 1 := by
  have hlinks : query.linksTo service = true := by
    obtain ⟨a, ha, hlink⟩ := Option.bind_eq_some_iff.mp hseat
    obtain ⟨link, hfound, rfl⟩ := Option.map_eq_some_iff.mp hlink
    rw [Query.linksTo, ha]
    exact List.any_eq_true.mpr ⟨link, List.mem_of_find?_eq_some hfound, beq_self_eq_true _⟩
  rw [h.accounts.listeners_eq_ite hq _ World.Accounts.linksTo_iff, hlinks, if_pos rfl]

/-- **Registered services are listened to**: in a history in which every change of the registry is
announced, and no owner is being stopped, an attached query listens once to the presence channel of
every registered service when nothing is in progress, unless another service of the same provider
has got in the way.  The other service is listened to instead, being registered still or having been
disturbed while it was announced; or it went while this one was registered and the query attached,
as they have been since. -/
theorem presence_covered (h : Reachable Faithfully s) (hrest : s.calls = []) {query : Query}
    (hq : s.world.query? q = some query) (hattached : query.isAttached = true)
    (hregistered : service ∈ s.world.registry) {entry : Service}
    (hservice : s.world.service? service = some entry) (hchannel : entry.channel.isSome = true) :
    s.world.listeners (.presence service) q = 1 ∨
      ∃ other ≠ service, s.world.providerOf? other = some entry.provider ∧
        (s.world.listeners (.presence other) q = 1 ∧
            (other ∈ s.world.registry ∨ s.Disturbed other) ∨
          s.Displaced q service other) := by
  have hs := sound_of_reachable h
  have hpost : s.world.post? service = some (entry.provider, true) := by
    rw [World.post?, hservice, Option.map_some, hchannel]
  have hnothing : ∀ service, s.agenda service = [] := by
    intro service
    rw [agenda, hrest, List.flatMap_nil]
  cases (tended_of_reachable h q service).provided ⟨hregistered, query, hq, hattached⟩ hpost with
  | seated hseat =>
    obtain ⟨query', hq', hsome⟩ := hseat
    cases Option.some.inj (hq.symm.trans hq')
    obtain ⟨other, hseat⟩ := Option.isSome_iff_exists.mp hsome
    -- the seat is taken, by this service or by another one
    by_cases hother : other = service
    · subst hother
      exact .inl (hs.listeners_of_seat? hq hseat)
    · refine .inr ⟨other, hother, hs.accounts.providerOf?_of_seat? hq hseat,
        .inl ⟨hs.listeners_of_seat? hq hseat, ?_⟩⟩
      -- the other service is registered as well, unless it has been disturbed
      rcases placed_of_reachable h q other with hplaced | hdisturbed
      · cases hplaced with
        | resting _ h => exact .inl (h ⟨query, _, hq, hseat⟩)
        | entering hagenda | leaving hagenda | gone hagenda =>
          cases (hnothing other).symm.trans hagenda
      · exact .inr hdisturbed
  | due hdue =>
    -- at rest, nothing is due any more
    rw [hnothing service] at hdue
    rcases hdue with ⟨rest, hmem, -⟩ | hmem <;> cases hmem
  | displaced hne hprovider hdisplaced => exact .inr ⟨_, hne, hprovider, .inr hdisplaced⟩

/-! ### A service and its replacement -/

/-- A service of a provider. -/
def veteran : ServiceMention := ⟨⟨"h1"⟩, ⟨"p"⟩, true⟩

/-- A service of the same provider. -/
def successor : ServiceMention := ⟨⟨"h2"⟩, ⟨"p"⟩, true⟩

/-- A service of another provider. -/
def newcomer : ServiceMention := ⟨⟨"h3"⟩, ⟨"r"⟩, true⟩

/-- A service is registered, and a query has a listener. -/
def enlisted : Session :=
  ((((ofSources .default .empty [veteran]).ask (.create "q" "" false)).steps 3).ask
    (.listen "q" "l" "s" [] none)).steps 3

/-- A service of another provider has been registered. -/
def joined : Session := (enlisted.ask (.register newcomer)).steps 5

/-- The service has been replaced: the other one was registered before it went. -/
def replaced : Session :=
  (((enlisted.ask (.register successor)).steps 5).ask (.unregister veteran false)).steps 6

/-- An observer is going to unregister a service as soon as it hears of it, and a query that has a
listener is told after it. -/
def observed : Session :=
  ((((((ofSources .default .empty []).ask
    (.tap .registry "t" 1 [.unregister veteran false])).steps 3).ask
    (.create "q" "" false)).steps 3).ask (.listen "q" "l" "s" [] none)).steps 3

/-- The service was registered, the observer has acted, and the other one has been registered. -/
def overtaken : Session :=
  (((observed.ask (.register veteran)).steps 13).ask (.register successor)).steps 6

theorem reachable_enlisted : Reachable Faithfully enlisted := by
  refine ⟨.default, .empty, [veteran], Bus.maxCapacity, ?_⟩
  exact (leads_ask _ 3 rfl (by decide +kernel)).trans (leads_ask _ 3 rfl (by decide +kernel))

theorem reachable_observed : Reachable Faithfully observed := by
  refine ⟨.default, .empty, [], Bus.maxCapacity, ?_⟩
  exact ((leads_ask _ 3 rfl (by decide +kernel)).trans (leads_ask _ 3 rfl (by decide +kernel))).trans
    (leads_ask _ 3 rfl (by decide +kernel))

/-- A service that is the only one of its provider is listened to. -/
theorem presence_covered_joined : Reachable Faithfully joined ∧ joined.calls = [] ∧
    (∃ query, joined.world.query? ⟨0⟩ = some query ∧ query.isAttached = true) ∧
    newcomer.id ∈ joined.world.registry ∧
    (∃ entry, joined.world.service? newcomer.id = some entry ∧ entry.channel.isSome = true) ∧
    joined.world.listeners (.presence newcomer.id) ⟨0⟩ = 1 := by
  have hreachable : Reachable Faithfully joined :=
    reachable_enlisted.leads (leads_ask _ 5 rfl (by decide +kernel))
  have hregistered : newcomer.id ∈ joined.world.registry := by decide +kernel
  refine ⟨hreachable, rfl, ⟨_, rfl, rfl⟩, hregistered, ⟨_, rfl, rfl⟩, ?_⟩
  have hcovered : joined.world.listeners (.presence newcomer.id) ⟨0⟩ = 1 ∨ _ :=
    presence_covered hreachable rfl rfl rfl hregistered rfl rfl
  refine hcovered.resolve_right ?_
  rintro ⟨other, hne, hprovider, -⟩
  obtain ⟨entry, hentry, hentryProvider⟩ := Option.map_eq_some_iff.mp hprovider
  have halone : ∀ entry ∈ joined.world.services,
      entry.provider = newcomer.provider → entry.id = newcomer.id := by decide +kernel
  have hid := halone entry (Keyed.mem_of_find? hentry) hentryProvider
  exact hne ((World.id_of_service? hentry).symm.trans hid)

/-- The query is attached and nothing is in progress, but a service that alone is registered and has
a channel is not listened to. -/
def Misses (q : QueryId) (service : ServiceId) (s : Session) : Prop :=
  s.calls = [] ∧ (∃ query, s.world.query? q = some query ∧ query.isAttached = true) ∧
    s.world.registry = [service] ∧
    (∃ entry, s.world.service? service = some entry ∧ entry.channel.isSome = true) ∧
    s.world.listeners (.presence service) q = 0

/-- **A replacement is not listened to** if it was registered before the service that it replaces
went, nor if the query heard of that service only when it had gone. -/
theorem replacement_unheard :
    (Reachable Faithfully replaced ∧ replaced.Misses ⟨0⟩ successor.id) ∧
      Reachable Faithfully overtaken ∧ overtaken.Misses ⟨0⟩ successor.id := by
  have hreplaced : Reachable Faithfully replaced :=
    (reachable_enlisted.leads (leads_ask _ 5 rfl (by decide +kernel))).leads
      (leads_ask _ 6 rfl (by decide +kernel))
  have hovertaken : Reachable Faithfully overtaken :=
    (reachable_observed.leads (leads_ask _ 13 rfl (by decide +kernel))).leads
      (leads_ask _ 6 rfl (by decide +kernel))
  refine ⟨⟨hreplaced, rfl, ⟨_, rfl, rfl⟩, ?_, ⟨_, rfl, rfl⟩, ?_⟩, hovertaken, rfl, ⟨_, rfl, rfl⟩,
    ?_, ⟨_, rfl, rfl⟩, ?_⟩
  all_goals decide +kernel

end Session

end RoomSearch
