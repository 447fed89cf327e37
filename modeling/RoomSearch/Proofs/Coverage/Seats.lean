import RoomSearch.Proofs.Session.Step
import RoomSearch.Proofs.World.Setting

/-!
# The seats of providers

A query follows one presence channel for each provider at most, so a provider has one seat at a
query, which is taken by one of its services.  The service that comes first takes the seat; those
that come later are passed over as long as it is taken.  The seat is given up when the query hears
that a service of the provider is unregistered, whichever service that is.

## Main definitions

* `World.post?` — the provider of a service, and whether it has a channel.
* `Query.seat?` — the service that has the seat of a provider.
* `World.reseat` — what an announcement of the registry does to seats.
* `World.Holds`, `World.Stays` — seats, and the registry, stay as they are.
* `World.Renews` — all seats are given to the services that are registered.
* `World.Hears` — seats are given and taken as the registry announces.

## Main results

* `World.stays_or_renews_attach` — a query that is attached gives the seats to registered services.
* `World.hears_follow` — what a query makes of an announcement of the registry.
* `World.Advances.ignores`, `World.Acts.ignores_or_renews` — everything else leaves the seats alone.
-/

namespace RoomSearch

/-- The service whose registration is announced. -/
def Notice.service? : Notice → Option ServiceId
  | .registration notice => some notice.service
  | _ => none

/-- The service whose registration a task is about. -/
def Task.service? : Task → Option ServiceId
  | .deliver notice _ => notice.service?
  | .withdraw s => some s
  | _ => none

/-- The service that has the seat of a provider in an attachment. -/
def Attachment.seat? (a : Attachment) (p : ProviderId) : Option ServiceId :=
  (a.presence.find? fun link => link.provider == p).map PresenceLink.service

/-- The service that has the seat of a provider at a query. -/
def Query.seat? (query : Query) (p : ProviderId) : Option ServiceId :=
  query.attachment.bind fun a => a.seat? p

/-- Two states of a query with the same attachment have the same seats. -/
theorem Query.seat?_congr {a b : Query} (h : a.attachment = b.attachment) (p : ProviderId) :
    a.seat? p = b.seat? p := by
  rw [seat?, seat?, h]

namespace World

/-- The provider of a service, and whether the service has a presence channel. -/
def post? (w : World) (s : ServiceId) : Option (ProviderId × Bool) :=
  (w.service? s).map fun service => (service.provider, service.channel.isSome)

theorem providerOf?_eq_map_post? (w : World) (s : ServiceId) :
    w.providerOf? s = (w.post? s).map Prod.fst := by
  rw [providerOf?, post?, Option.map_map]
  rfl

/-- What becomes of seats when the registry announces something. -/
def reseat (w : World) (notice : RegistrationNotice ServiceId)
    (seat? : ProviderId → Option ServiceId) (p : ProviderId) : Option ServiceId :=
  if notice.ownerStopping then seat? p
  else
    match notice.change with
    | .registered =>
      (seat? p).or (if w.post? notice.service = some (p, true) then some notice.service else none)
    | .unregistering => if w.providerOf? notice.service = some p then none else seat? p

/-- Services stay what they are, and if the query is attached its seats are as before. -/
structure Holds (q : QueryId) (w w' : World) : Prop where
  posts : ∀ {s post}, w.post? s = some post → w'.post? s = some post
  seats : ∀ {query'}, w'.query? q = some query' → query'.isAttached = true →
    ∃ query, w.query? q = some query ∧ query.attachment = query'.attachment

/-- The same services are registered as well. -/
structure Stays (q : QueryId) (w w' : World) : Prop extends Holds q w w' where
  registry : w'.registry = w.registry

/-- The query has been attached: of each provider the first service that is registered and has a
channel has taken the seat. -/
structure Renews (q : QueryId) (w w' : World) : Prop where
  posts : ∀ {s post}, w.post? s = some post → w'.post? s = some post
  registry : w'.registry = w.registry
  seats : ∀ {query'}, w'.query? q = some query' → query'.isAttached = true →
    ∀ p, query'.seat? p = w.registry.find? fun s => w.post? s == some (p, true)

/-- The query has heard of the registry. -/
structure Hears (q : QueryId) (notice : RegistrationNotice ServiceId) (w w' : World) : Prop where
  posts : ∀ {s post}, w.post? s = some post → w'.post? s = some post
  registry : w'.registry = w.registry
  seats : ∀ {query'}, w'.query? q = some query' → query'.isAttached = true →
    ∃ query, w.query? q = some query ∧ query.isAttached = true ∧
      ∀ p, query'.seat? p = w.reseat notice query.seat? p

variable {w w' w'' : World} {q p : QueryId} {query : Query} {m : Move}

theorem Holds.refl (q : QueryId) (w : World) : Holds q w w := ⟨id, fun hq _ => ⟨_, hq, rfl⟩⟩

theorem Holds.trans (h : Holds q w w') (h' : Holds q w' w'') : Holds q w w'' where
  posts hpost := h'.posts (h.posts hpost)
  seats hq hattached := by
    obtain ⟨query', hq', heq'⟩ := h'.seats hq hattached
    rw [Query.isAttached, ← heq'] at hattached
    obtain ⟨query, hq, heq⟩ := h.seats hq' hattached
    exact ⟨query, hq, heq.trans heq'⟩

namespace Stays

theorem refl (q : QueryId) (w : World) : Stays q w w := ⟨.refl q w, rfl⟩

theorem trans (h : Stays q w w') (h' : Stays q w' w'') : Stays q w w'' :=
  ⟨h.toHolds.trans h'.toHolds, h'.registry.trans h.registry⟩

theorem renews (h : Stays q w w') (h' : Renews q w' w'') (hposts : w'.post? = w.post?) :
    Renews q w w'' where
  posts hpost := h'.posts (h.posts hpost)
  registry := h'.registry.trans h.registry
  seats hq hattached p := by rw [h'.seats hq hattached p, h.registry, hposts]

/-- The query itself is the same. -/
theorem of_query?_eq (hqueries : w'.query? q = w.query? q) (hservices : w'.services = w.services)
    (hregistry : w'.registry = w.registry) : Stays q w w' where
  posts hpost := by
    rw [post?, service?, hservices]
    exact hpost
  seats hq _ := ⟨_, hqueries.symm.trans hq, rfl⟩
  registry := hregistry

end Stays

theorem Renews.stays (h : Renews q w w') (h' : Stays q w' w'') : Renews q w w'' where
  posts hpost := h'.posts (h.posts hpost)
  registry := h'.registry.trans h.registry
  seats hq hattached p := by
    obtain ⟨query', hq', heq⟩ := h'.seats hq hattached
    rw [Query.isAttached, ← heq] at hattached
    rw [← Query.seat?_congr heq, h.seats hq' hattached]

theorem Hears.stays {notice : RegistrationNotice ServiceId} (h : Hears q notice w w')
    (h' : Stays q w' w'') : Hears q notice w w'' where
  posts hpost := h'.posts (h.posts hpost)
  registry := h'.registry.trans h.registry
  seats hq hattached := by
    obtain ⟨query', hq', heq⟩ := h'.seats hq hattached
    rw [Query.isAttached, ← heq] at hattached
    obtain ⟨query, hq, hattached, hseats⟩ := h.seats hq' hattached
    exact ⟨query, hq, hattached, fun p => (Query.seat?_congr heq p).symm.trans (hseats p)⟩

/-! ### Feeds -/

@[simp] theorem post?_modifyFeed (w : World) (x : Source) (f : Feed Watcher → Feed Watcher)
    (s : ServiceId) : (w.modifyFeed x f).post? s = w.post? s := by
  rw [post?, service?_modifyFeed, Option.map_map, post?]
  congr 1
  funext service
  rw [Function.comp_apply]
  split
  · rw [Option.isSome_map]
  · rfl

@[simp] theorem post?_watch (w : World) (x : Source) (v : Watcher) (s : ServiceId) :
    (w.watch x v).1.post? s = w.post? s := post?_modifyFeed ..

/-- Queries and subscriptions do not show in services. -/
theorem overlooks_post? : Overlooks post? where
  modifyQuery _ _ _ := rfl
  modifyFeed w x f := funext (post?_modifyFeed w x f)
  fresh _ := rfl
  publish _ _ _ := rfl
  releaseBuses _ _ := rfl

theorem registry_modifyFeed (w : World) (x : Source) (f : Feed Watcher → Feed Watcher) :
    (w.modifyFeed x f).registry = w.registry := by
  cases x <;> rfl

theorem stays_modifyFeed (w : World) (x : Source) (f : Feed Watcher → Feed Watcher) :
    Stays q w (w.modifyFeed x f) where
  posts hpost := by rwa [post?_modifyFeed]
  seats hq _ := ⟨_, (query?_modifyFeed ..).symm.trans hq, rfl⟩
  registry := registry_modifyFeed w x f

theorem stays_watch (w : World) (x : Source) (v : Watcher) : Stays q w (w.watch x v).1 := by
  have hfresh : Stays q w w.freshSubscription.1 := .of_query?_eq rfl rfl rfl
  exact hfresh.trans (stays_modifyFeed _ x fun feed => feed.subscribe w.nextSubscription v)

theorem stays_unwatch (w : World) (x : Source) (id : SubscriptionId) :
    Stays q w (w.unwatch x id) := stays_modifyFeed ..

theorem stays_foldl_unwatchLink (w : World) (links : List PresenceLink) :
    Stays q w (links.foldl unwatchLink w) := by
  induction links generalizing w with
  | nil => exact .refl q w
  | cons link rest ih => exact .trans (stays_unwatch ..) (ih (w.unwatchLink link))

/-! ### Changes of a query -/

theorem stays_modifyQuery_of_ne (w : World) (hne : p ≠ q) (f : Query → Query) :
    Stays q w (w.modifyQuery p f) := .of_query?_eq (query?_modifyQuery_of_ne w f hne) rfl rfl

/-- A query changes in another respect, or is not attached any more. -/
theorem stays_modifyQuery (w : World) (p : QueryId) {f : Query → Query}
    (hf : ∀ query : Query, (f query).isAttached = true →
      query.attachment = (f query).attachment) : Stays q w (w.modifyQuery p f) where
  posts := id
  seats hq hattached := by
    rw [query?_modifyQuery] at hq
    split at hq
    · obtain ⟨query, hquery, rfl⟩ := Option.map_eq_some_iff.mp hq
      exact ⟨query, hquery, hf query hattached⟩
    · exact ⟨_, hq, rfl⟩
  registry := rfl

theorem stays_advanceEpoch (w : World) (p : QueryId) :
    Stays q w (w.modifyQuery p Query.advanceEpoch) := stays_modifyQuery w p fun _ _ => rfl

theorem stays_detach (w : World) (p : QueryId) : Stays q w (w.detach p) := by
  unfold detach
  split
  · exact .refl q w
  · refine .trans ?_ (stays_modifyQuery _ p fun _ => nofun)
    exact (((stays_foldl_unwatchLink w _).trans (stays_unwatch ..)).trans
      (stays_unwatch ..)).trans (stays_unwatch ..)

theorem stays_unsubscribe (w : World) (p : QueryId) (id : SubscriptionId) :
    Stays q w (w.unsubscribe p id).1 := by
  unfold unsubscribe
  split
  · exact .refl q w
  · split
    · dsimp only
      have hless := fun (rest : List (SubscriptionId × Subscriber)) (count : Nat) =>
        stays_modifyQuery (q := q) w p (f := fun query => { query with
          subscribers := rest, subscriberCount := count }) fun _ _ => rfl
      split
      · exact (hless _ _).trans (stays_detach ..)
      · exact hless _ _
    · exact .refl q w

theorem stays_retire (w : World) (p : QueryId) : Stays q w (w.retire p) :=
  (stays_detach w p).trans (stays_modifyQuery _ p fun _ _ => rfl)

/-- **Letting go** leaves the seats alone. -/
theorem stays_release (w : World) (queryInUse : QueryId → Bool) (busInUse : BusId → Bool) :
    Stays q w (w.release queryInUse busInUse) := by
  have hqueries : ∀ (indices : List Nat) (w : World),
      Stays q w (indices.foldl (releaseIndex queryInUse) w) := by
    intro indices
    induction indices with
    | nil => exact .refl q
    | cons i rest ih =>
      intro w
      refine .trans ?_ (ih _)
      unfold releaseIndex
      split
      · exact stays_retire w ⟨i⟩
      · exact .refl q w
  exact (hqueries (List.range w.queries.length) w).trans (.of_query?_eq rfl rfl rfl)

/-! ### Seats are given and given up -/

/-- A link to a presence channel is a subscription and nothing else. -/
theorem linkPresence_world (w : World) (p : QueryId) (a : Attachment) (s : ServiceId) :
    (w.linkPresence p a s).1 = w ∨
      (w.linkPresence p a s).1 = (w.watch (.presence s) (.query p)).1 := by
  unfold linkPresence
  split
  · exact .inl rfl
  · split
    · exact .inl rfl
    · split
      · exact .inl rfl
      · exact .inr rfl

theorem stays_linkPresence (w : World) (p : QueryId) (a : Attachment) (s : ServiceId) :
    Stays q w (w.linkPresence p a s).1 := by
  rcases linkPresence_world w p a s with h | h
  · rw [h]
    exact .refl q w
  · rw [h]
    exact stays_watch ..

theorem post?_linkPresence (w : World) (p : QueryId) (a : Attachment) (s : ServiceId) :
    (w.linkPresence p a s).1.post? = w.post? := by
  funext t
  rcases linkPresence_world w p a s with h | h
  · rw [h]
  · rw [h, post?_watch]

/-- **A service takes the seat of its provider**, if it has a channel and the seat is free. -/
theorem seat?_linkPresence (w : World) (q : QueryId) (a : Attachment) (s : ServiceId)
    (p : ProviderId) : (w.linkPresence q a s).2.seat? p =
      (a.seat? p).or (if w.post? s = some (p, true) then some s else none) := by
  unfold linkPresence post?
  cases w.service? s with
  | none => simp
  | some service =>
    simp only [Option.map_some, Option.some.injEq, Prod.mk.injEq]
    split
    · next htaken =>
      -- the seat of this provider is taken, and no other one is concerned
      obtain ⟨link, hl, hprovider⟩ := List.any_eq_true.mp htaken
      by_cases hp : service.provider = p
      · have hseat : (a.seat? p).isSome = true := by
          rw [Attachment.seat?, Option.isSome_map, List.find?_isSome]
          exact ⟨link, hl, hp ▸ hprovider⟩
        obtain ⟨other, hother⟩ := Option.isSome_iff_exists.mp hseat
        rw [hother, Option.some_or]
      · rw [if_neg fun hand => hp hand.1, Option.or_none]
    · split
      · next hchannel =>
        rw [Option.isNone_iff_eq_none.mp hchannel, Option.isSome_none,
          if_neg fun hand => Bool.false_ne_true hand.2, Option.or_none]
      · next hchannel =>
        have hsome : service.channel.isSome = true := Option.ne_none_iff_isSome.mp fun hnone =>
          hchannel (Option.isNone_iff_eq_none.mpr hnone)
        simp only [Attachment.seat?, List.find?_append, Option.map_or, List.find?_singleton,
          hsome, and_true]
        by_cases hp : service.provider = p
        · simp [hp]
        · simp [hp]

/-- Services take seats one after the other. -/
theorem seat?_linkPresences (w : World) (q : QueryId) (a : Attachment) (services : List ServiceId)
    (p : ProviderId) : (w.linkPresences q a services).2.seat? p =
      (a.seat? p).or (services.find? fun s => w.post? s == some (p, true)) := by
  induction services generalizing w a with
  | nil => rw [linkPresences, List.find?_nil, Option.or_none]
  | cons s rest ih =>
    refine (ih (w.linkPresence q a s).1 (w.linkPresence q a s).2).trans ?_
    rw [seat?_linkPresence, post?_linkPresence, Option.or_assoc, List.find?_cons]
    congr 1
    by_cases hs : w.post? s = some (p, true)
    · rw [if_pos hs, Option.some_or, hs, beq_self_eq_true]
    · rw [if_neg hs, Option.none_or, beq_eq_false_iff_ne.mpr hs]

theorem stays_linkPresences (w : World) (p : QueryId) (a : Attachment)
    (services : List ServiceId) : Stays q w (w.linkPresences p a services).1 := by
  induction services generalizing w a with
  | nil => exact .refl q w
  | cons s rest ih => exact (stays_linkPresence w p a s).trans (ih _ _)

theorem stays_unlinkPresence (w : World) (a : Attachment) (provider : ProviderId) :
    Stays q w (w.unlinkPresence a provider).1 := by
  unfold unlinkPresence
  split
  · exact .refl q w
  · next link _ => exact stays_unwatch w (.presence link.service) link.subscription

/-- **The seat of a provider is given up**, whoever has it. -/
theorem seat?_unlinkPresence (w : World) (a : Attachment) (provider p : ProviderId) :
    (w.unlinkPresence a provider).2.seat? p = if provider = p then none else a.seat? p := by
  unfold unlinkPresence
  split
  · next hnone =>
    split
    · next hp => rw [← hp, Attachment.seat?, hnone, Option.map_none]
    · rfl
  · rw [Attachment.seat?, List.find?_filter, Attachment.seat?]
    split
    · next hp =>
      rw [Option.map_eq_none_iff, List.find?_eq_none]
      intro link _
      simp [hp]
    · next hp =>
      congr 2
      funext link
      by_cases hlink : link.provider = p
      · simp [hlink, Ne.symm hp]
      · simp [hlink]

/-! ### Attaching -/

/-- The sources that all queries have in common have nothing to do with seats. -/
theorem stays_start (w : World) (p : QueryId) :
    Stays q w (((w.watch .rooms (.query p)).1.watch .providers (.query p)).1.watch
      .registrations (.query p)).1 :=
  ((stays_watch ..).trans (stays_watch ..)).trans (stays_watch ..)

/-- Attaching another query leaves the seats alone. -/
theorem stays_attach_of_ne (w : World) (hne : p ≠ q) : Stays q w (w.attach p) := by
  by_cases hattached : (w.query? p).any Query.isAttached = true
  · rw [attach, if_pos hattached]
    exact .refl q w
  · rw [attach_eq hattached]
    exact ((stays_start w p).trans (stays_linkPresences ..)).trans
      (stays_modifyQuery_of_ne _ hne _)

/-- **A query that is attached gives all seats** to the services that are registered, unless it has
been attached before. -/
theorem stays_or_renews_attach (w : World) (q : QueryId) :
    Stays q w (w.attach q) ∨ Renews q w (w.attach q) := by
  by_cases hattached : (w.query? q).any Query.isAttached = true
  · rw [attach, if_pos hattached]
    exact .inl (.refl q w)
  · refine .inr ?_
    rw [attach_eq hattached]
    have hcommon := stays_start (q := q) w q
    have hposts : (((w.watch .rooms (.query q)).1.watch .providers (.query q)).1.watch
        .registrations (.query q)).1.post? = w.post? := by
      funext s
      rw [post?_watch, post?_watch, post?_watch]
    revert hcommon hposts
    generalize (((w.watch .rooms (.query q)).1.watch .providers (.query q)).1.watch .registrations
      (.query q)).1 = w'
    intro hcommon hposts
    have hlinked := hcommon.trans (stays_linkPresences w' q
      ⟨w.nextSubscription, w.nextSubscription.next, w.nextSubscription.next.next, []⟩ w.registry)
    refine ⟨hlinked.posts, hlinked.registry, fun hq _ p => ?_⟩
    dsimp only at hq
    rw [query?_modifyQuery, if_pos rfl] at hq
    obtain ⟨query, -, rfl⟩ := Option.map_eq_some_iff.mp hq
    exact (seat?_linkPresences ..).trans (by rw [hposts]; rfl)

/-- A subscriber that comes leaves the seats alone, or all seats are given. -/
theorem stays_or_renews_subscribe (hp : w.query? p = some query) (subscriber : Subscriber) :
    Stays q w (w.subscribe p subscriber).1 ∨ Renews q w (w.subscribe p subscriber).1 := by
  rw [Accounts.subscribe_eq hp]
  have hfresh : Stays q w w.freshSubscription.1 := .of_query?_eq rfl rfl rfl
  have hsubscribed := hfresh.trans (stays_modifyQuery w.freshSubscription.1 p
    (f := fun query => query.withSubscriber w.nextSubscription subscriber) fun _ _ => rfl)
  split
  · by_cases hpq : p = q
    · subst hpq
      exact (stays_or_renews_attach _ p).imp hsubscribed.trans fun h => hsubscribed.renews h rfl
    · exact .inl (hsubscribed.trans (stays_attach_of_ne _ hpq))
  · exact .inl hsubscribed

/-! ### Following the registry -/

theorem reseat_of_stopping {notice : RegistrationNotice ServiceId}
    (h : notice.ownerStopping = true) (seat? : ProviderId → Option ServiceId) :
    w.reseat notice seat? = seat? := by
  funext p
  rw [reseat, if_pos h]

/-- A service that is not known is no concern of anybody. -/
theorem reseat_of_none {notice : RegistrationNotice ServiceId}
    (h : w.service? notice.service = none) (seat? : ProviderId → Option ServiceId) :
    w.reseat notice seat? = seat? := by
  funext p
  rw [reseat, post?, providerOf?, h]
  split
  · rfl
  · split
    · rw [Option.map_none, if_neg (Option.some_ne_none _).symm, Option.or_none]
    · rw [Option.map_none, if_neg (Option.some_ne_none _).symm]

theorem stays_followRegistry_of_ne (w : World) (hne : p ≠ q) (query : Query)
    (notice : RegistrationNotice ServiceId) :
    Stays q w (w.followRegistry p query notice).world := by
  unfold followRegistry
  split
  · split
    · exact .refl q w
    · cases notice.change with
      | registered => exact (stays_linkPresence ..).trans (stays_modifyQuery_of_ne _ hne _)
      | unregistering => exact (stays_unlinkPresence ..).trans (stays_modifyQuery_of_ne _ hne _)
  · exact .refl q w

/-- Nothing has come of an announcement. -/
theorem Hears.of_reseat {notice : RegistrationNotice ServiceId}
    (h : ∀ {query}, w.query? q = some query → query.isAttached = true →
      w.reseat notice query.seat? = query.seat?) : Hears q notice w w :=
  ⟨id, rfl, fun hq hattached => ⟨_, hq, hattached, fun p => congrFun (h hq hattached).symm p⟩⟩

/-- An attached query has another attachment. -/
theorem Hears.of_stays {notice : RegistrationNotice ServiceId} {a a' : Attachment}
    (h : Stays q w w') (hq : w.query? q = some query) (ha : query.attachment = some a)
    (hseats : ∀ p, a'.seat? p = w.reseat notice a.seat? p) :
    Hears q notice w (w'.modifyQuery q fun query => { query with attachment := some a' }) where
  posts := h.posts
  registry := h.registry
  seats hq' _ := by
    rw [query?_modifyQuery, if_pos rfl] at hq'
    obtain ⟨query', -, rfl⟩ := Option.map_eq_some_iff.mp hq'
    refine ⟨query, hq, by rw [Query.isAttached, ha]; rfl, fun p => (hseats p).trans ?_⟩
    congr 1
    funext p
    rw [Query.seat?, ha]
    rfl

theorem hears_followRegistry (hq : w.query? q = some query)
    (notice : RegistrationNotice ServiceId) :
    Hears q notice w (w.followRegistry q query notice).world := by
  unfold followRegistry
  split
  · next a service ha hservice =>
    split
    · next hstopping => exact .of_reseat fun _ _ => reseat_of_stopping hstopping _
    · next hstopping =>
      cases hchange : notice.change with
      | registered =>
        refine .of_stays (stays_linkPresence w q a notice.service) hq ha fun p =>
          (seat?_linkPresence ..).trans ?_
        rw [reseat, if_neg hstopping, hchange]
      | unregistering =>
        refine .of_stays (stays_unlinkPresence w a service.provider) hq ha fun p =>
          (seat?_unlinkPresence ..).trans ?_
        rw [reseat, if_neg hstopping, hchange, providerOf?, hservice, Option.map_some]
        simp only [Option.some.injEq]
  · next hnot =>
    refine .of_reseat fun hquery hattached => reseat_of_none ?_ _
    -- an attached query does not know the service
    obtain ⟨a, ha⟩ := Option.isSome_iff_exists.mp hattached
    cases Option.some.inj (hquery.symm.trans hq)
    cases hservice : w.service? notice.service with
    | none => rfl
    | some service => exact absurd hservice (hnot a service ha)

/-- **What a query makes of an announcement of the registry.** -/
theorem hears_follow (h : w.Accounts) (q : QueryId) (notice : RegistrationNotice ServiceId) :
    Hears q notice w (w.follow q (.registration notice)).world := by
  unfold follow
  split
  · next hnone =>
    refine .of_reseat fun hq => ?_
    rw [hnone] at hq
    cases hq
  · next query hq =>
    split
    · next hdead =>
      -- a query that nothing refers to is not attached
      refine .of_reseat fun hquery hattached => ?_
      cases Option.some.inj (hquery.symm.trans hq)
      have hcons := h.consistent hq
      exact absurd (hcons.gone (Bool.not_eq_true' _ ▸ hdead)) (hcons.attached.mp hattached).1
    · exact hears_followRegistry hq notice

/-! ### What leaves the seats alone -/

/-- The move leaves the seats alone, and none of its tasks is about a registration. -/
structure Ignores (w : World) (q : QueryId) (m : Move) : Prop where
  world : Stays q w m.world
  tasks : ∀ t ∈ m.tasks, t.service? = none

theorem ignores_still (h : Stays q w w') : w.Ignores q (.still w') := ⟨h, List.forall_mem_nil _⟩

theorem ignores_task {callback : Option Callback} {notes : List Note} (h : Stays q w w') {t : Task}
    (ht : t.service? = none) : w.Ignores q ⟨w', [t], callback, notes⟩ := by
  refine ⟨h, fun u hu => ?_⟩
  rwa [List.mem_singleton.mp hu]

theorem Ignores.andThen (h : w.Ignores q m) {t : Task} (ht : t.service? = none) :
    w.Ignores q (m.andThen [t]) := by
  refine ⟨h.world, fun u hu => ?_⟩
  rcases List.mem_append.mp hu with hu | hu
  · exact h.tasks u hu
  · rwa [List.mem_singleton.mp hu]

theorem ignores_commit (h : Stays q w w') (p : QueryId) (news : List News) :
    w.Ignores q (w'.commit p news) := by
  cases news with
  | nil => exact ignores_still h
  | cons n rest => exact ignores_task h rfl

theorem ignores_change (h : Stays q w w') (p : QueryId) (outcome : List News × ResultSet) :
    w.Ignores q (w'.change p outcome) :=
  ignores_commit (h.trans (stays_modifyQuery w' p
    (f := fun query => { query with results := outcome.2 }) fun _ _ => rfl)) p outcome.1

theorem ignores_moveTo (h : Stays q w w') (p : QueryId) (status : Status) :
    w.Ignores q (w'.moveTo p status) :=
  ignores_commit (h.trans (stays_modifyQuery w' p (f := fun query => { query with status })
    fun _ _ => rfl)) p _

theorem ignores_announce (h : Stays q w w') (x : Source) {notice : Notice}
    (hnotice : notice.service? = none) : w.Ignores q (w'.announce x notice) :=
  ignores_task h hnotice

theorem ignores_cancel (w : World) (p : QueryId) : w.Ignores q (w.cancel p) := by
  unfold cancel
  split
  · exact ignores_still (.refl q w)
  · split
    · exact ignores_still (stays_detach w p)
    · exact ignores_moveTo (stays_detach w p) p _

theorem Follows.ignores {notice : Notice} (h : w.Follows p query notice m)
    (hne : p = q → ∀ n, notice ≠ .registration n) : w.Ignores q m := by
  cases h with
  | still => exact ignores_still (.refl q w)
  | presence => exact ignores_change (.refl q w) p _
  | joined => exact ignores_task (.refl q w) rfl
  | rooms | gone => exact ignores_change (stays_advanceEpoch w p) p _
  | entered => exact ignores_task (stays_advanceEpoch w p) rfl
  | registration notice =>
    rw [followRegistry_eq_still]
    exact ignores_still (stays_followRegistry_of_ne w (fun hpq => hne hpq notice rfl) query notice)

/-- What is announced leaves the seats alone, unless the query itself hears of the registry. -/
theorem ignores_follow {notice : Notice} (w : World)
    (hne : p = q → ∀ n, notice ≠ .registration n) : w.Ignores q (w.follow p notice) := by
  rcases follow_spec w p notice with hstill | ⟨query, -, hfollows⟩
  · rw [hstill]
    exact ignores_still (.refl q w)
  · exact hfollows.ignores hne

/-- Nothing remains to be done when a query has heard of the registry. -/
theorem tasks_follow_registration (w : World) (p : QueryId)
    (notice : RegistrationNotice ServiceId) : (w.follow p (.registration notice)).tasks = [] := by
  unfold follow
  split
  · rfl
  · split
    · rfl
    · dsimp only
      rw [followRegistry_eq_still]
      rfl

/-- **A task that is not about a registration** leaves the seats alone. -/
theorem Advances.ignores {t : Task} (h : w.Advances t m) (ht : t.service? = none) :
    w.Ignores q m := by
  cases h with
  | spent | dropped => exact ignores_still (.refl q w)
  | tell notice p rest =>
    refine (ignores_follow w fun _ n hn => ?_).andThen ht
    subst hn
    cases ht
  | tap notice t rest => exact ignores_task (.refl q w) ht
  | withdraw => cases ht
  | mergeJoined | merge => exact ignores_change (.refl q w) _ _
  | scan | rescan => exact ignores_task (.refl q w) rfl
  | complete => exact ignores_moveTo (.refl q w) _ _
  | search p rest =>
    refine ⟨.refl q w, fun u hu => ?_⟩
    simp only [Move.doing, List.mem_cons, List.not_mem_nil, or_false] at hu
    rcases hu with rfl | rfl <;> rfl
  | publish p audience d rest b =>
    have hstays : Stays q w (w.publish b ⟨.query p, d.news⟩) := .of_query?_eq rfl rfl rfl
    exact ignores_task hstays rfl
  | hear => exact ignores_task (.refl q w) rfl
  | cancelEach p rest => exact (ignores_cancel w p).andThen rfl

theorem Runs.ignores (h : w.Runs p m) : w.Ignores q m := by
  cases h with
  | still => exact ignores_still (.refl q w)
  | late => exact ignores_still (stays_modifyQuery w p fun _ _ => rfl)
  | search =>
    exact ignores_task (stays_modifyQuery w p (f := fun query => { query with started := true })
      fun _ _ => rfl) rfl

theorem Sets.ignores (h : w.Sets p m) : w.Ignores q m := by
  cases h with
  | still => exact ignores_still (.refl q w)
  | canceled => exact ignores_cancel w p
  | completed => exact ignores_moveTo (.refl q w) p _

/-- A service that is mentioned for the first time leaves the seats alone. -/
theorem stays_mention (w : World) (m : ServiceMention) : Stays q w (w.mention m) where
  posts {s post} hpost := by
    obtain ⟨service, hservice, -⟩ := Option.map_eq_some_iff.mp hpost
    cases hm : w.service? m.id with
    | some old =>
      rw [mention, ensureService_of_some hm]
      exact hpost
    | none =>
      rw [post?, mention, service?_ensureService_of_none hm, if_neg]
      · exact hpost
      · -- a service that is there is not the new one
        rintro rfl
        rw [hm] at hservice
        cases hservice
  seats hq _ := ⟨_, hq, rfl⟩
  registry := rfl

theorem stays_createQuery (w : World) (text : String) (isTracked : Bool) :
    Stays q w (w.createQuery text isTracked).1 where
  posts := id
  seats hq hattached := by
    rw [query?_createQuery] at hq
    split at hq
    · cases hq
      cases hattached
    · exact ⟨_, hq, rfl⟩
  registry := rfl

/-- The moves that change the registry, or announce that it changes. -/
inductive Enrolls (w : World) : Action → Move → Prop where
  | register (m : ServiceMention) : Enrolls w (.register m) ((w.mention m).register m.id)
  | unregister (m : ServiceMention) (ownerStopping : Bool) :
      Enrolls w (.unregister m ownerStopping) ((w.mention m).unregister m.id ownerStopping)
  | announce (m : ServiceMention) (change : RegistrationChange) (ownerStopping : Bool) :
      Enrolls w (.announceRegistration m change ownerStopping)
        ((w.mention m).announceRegistration m.id change ownerStopping)

/-- **An action that does not change the registry** leaves the seats alone, or attaches the query;
no task that it brings is about a registration. -/
theorem Acts.ignores_or_renews {named : String → Option QueryId} {a : Action}
    (h : Acts w named a m)
    (hnamed : ∀ {name q}, named name = some q → ∃ query, w.query? q = some query) :
    (Stays q w m.world ∨ Renews q w m.world) ∧ (∀ t ∈ m.tasks, t.service? = none) ∨
      w.Enrolls a m := by
  -- most actions leave the seats as they are
  have hignores : ∀ {m : Move}, w.Ignores q m →
      (Stays q w m.world ∨ Renews q w m.world) ∧ (∀ t ∈ m.tasks, t.service? = none) ∨
        w.Enrolls a m := fun h => .inl ⟨.inl h.world, h.tasks⟩
  cases h with
  | idle h =>
    obtain ⟨buses, closedBuses, rfl⟩ := h
    exact hignores (ignores_still (.of_query?_eq rfl rfl rfl))
  | read => exact hignores ⟨.refl q w, List.forall_mem_nil _⟩
  | create name text isTracked => exact hignores (ignores_still (stays_createQuery ..))
  | run p => exact hignores (runs_run w p).ignores
  | setStatus p status => exact hignores (sets_setStatus w p status).ignores
  | cancel p => exact hignores (ignores_cancel w p)
  | cancelAll =>
    have hstays : Stays q w { w with tracked := [] } := .of_query?_eq rfl rfl rfl
    exact hignores (ignores_task (t := .cancelEach w.aliveQueries) hstays rfl)
  | listen hp subscriber =>
    obtain ⟨query, hquery⟩ := hnamed hp
    -- the first subscriber has the query attached
    exact .inl ⟨stays_or_renews_subscribe hquery subscriber, List.forall_mem_nil _⟩
  | unlisten hp id => exact hignores (ignores_still (stays_unsubscribe ..))
  | addRoom | removeRoom | setAutoJoin | addProvider | removeProvider =>
    -- the directory changes, on which no seat depends
    refine hignores (ignores_announce ?_ _ rfl)
    exact .of_query?_eq rfl rfl rfl
  | announceRoom | announceProvider => exact hignores (ignores_announce (.refl q w) _ rfl)
  -- what concerns the registration of a service
  | register m => exact .inr (.register m)
  | unregister m ownerStopping => exact .inr (.unregister m ownerStopping)
  | announceRegistration m change ownerStopping => exact .inr (.announce m change ownerStopping)
  | presence m provider room identifier change h =>
    obtain ⟨notice, rfl⟩ := exists_of_announcePresence? h
    exact hignores (ignores_announce (stays_mention w m) _ rfl)
  | mention m => exact hignores (ignores_still (stays_mention w m))
  | tap target name uses steps hw hfeed t =>
    refine hignores (ignores_still (.trans ?_ (stays_watch ..)))
    -- the service that is observed may be made for this
    rcases hw with rfl | ⟨m, rfl⟩
    · exact .refl q _
    · exact stays_mention w m

end World

end RoomSearch
