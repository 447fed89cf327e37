import RoomSearch.World.Epoch

/-!
# Queries and feeds of a world after a change

Whatever happens in a world is seen through two views: the query with a given identity, and the
feed of a given source.  The equations below say what each elementary change does to the two.

## Main results

* `query?_modifyQuery`, `feed?_modifyFeed` — a change of one part leaves the others alone.
* `feed?_watch`, `feed?_unwatch` — a subscription begins and ends at its own source.
* `feed?_ensureService` — a service that is made has a channel that nobody follows.
-/

namespace RoomSearch.World

/-! ### Queries -/

theorem query?_of_queries_eq {w w' : World} (h : w'.queries = w.queries) (q : QueryId) :
    w'.query? q = w.query? q := by
  rw [query?, query?, h]

/-- Where only one query may be different, a query is this one, or it is there in both worlds. -/
theorem eq_or_query?_of_others {w w' : World} {q p : QueryId} {query old : Query}
    (hothers : p ≠ q → w'.query? p = w.query? p) (hq : w.query? q = some query)
    (hp : w.query? p = some old) : p = q ∧ old = query ∨ p ≠ q ∧ w'.query? p = some old := by
  by_cases hpq : p = q
  · subst hpq
    exact .inl ⟨rfl, Option.some.inj (hp.symm.trans hq)⟩
  · exact .inr ⟨hpq, (hothers hpq).trans hp⟩

theorem query?_modifyQuery (w : World) (q p : QueryId) (f : Query → Query) :
    (w.modifyQuery q f).query? p = if q = p then (w.query? p).map f else w.query? p := by
  obtain ⟨i⟩ := q
  obtain ⟨j⟩ := p
  simp only [query?, modifyQuery, List.getElem?_modify, QueryId.mk.injEq]
  by_cases h : i = j <;> simp [h]

theorem query?_modifyQuery_self {w : World} {q : QueryId} {query : Query} (f : Query → Query)
    (h : w.query? q = some query) : (w.modifyQuery q f).query? q = some (f query) := by
  rw [query?_modifyQuery, if_pos rfl, h, Option.map_some]

theorem query?_modifyQuery_of_ne {q p : QueryId} (w : World) (f : Query → Query) (h : q ≠ p) :
    (w.modifyQuery q f).query? p = w.query? p := by
  rw [query?_modifyQuery, if_neg h]

/-- Changing a query that is not there changes nothing. -/
theorem modifyQuery_of_none {w : World} {q : QueryId} (hq : w.query? q = none)
    (f : Query → Query) : w.modifyQuery q f = w := by
  have hlen : w.queries.length ≤ q.index := List.getElem?_eq_none_iff.mp hq
  rw [modifyQuery, List.modify_eq_self hlen]

@[simp] theorem query?_modifyFeed (w : World) (x : Source) (f : Feed Watcher → Feed Watcher)
    (q : QueryId) : (w.modifyFeed x f).query? q = w.query? q :=
  query?_of_queries_eq (queries_modifyFeed w x f) q

@[simp] theorem query?_watch (w : World) (x : Source) (v : Watcher) (q : QueryId) :
    (w.watch x v).1.query? q = w.query? q := by
  rw [watch, query?_modifyFeed]
  rfl

@[simp] theorem query?_unwatch (w : World) (x : Source) (id : SubscriptionId) (q : QueryId) :
    (w.unwatch x id).query? q = w.query? q := query?_modifyFeed ..

/-- A query that is made comes after all others; those stay as they are. -/
theorem query?_createQuery (w : World) (text : String) (isTracked : Bool) (q : QueryId) :
    (w.createQuery text isTracked).1.query? q =
      if q.index = w.queries.length then some (.ofMatcher ⟨text, w.config.matchMode⟩)
      else w.query? q := by
  simp only [createQuery, query?, List.getElem?_append]
  by_cases hlt : q.index < w.queries.length
  · rw [if_pos hlt, if_neg (by omega)]
  · rw [if_neg hlt]
    by_cases heq : q.index = w.queries.length
    · rw [if_pos heq, heq, Nat.sub_self]
      rfl
    · rw [if_neg heq, List.getElem?_eq_none_iff.mpr (by simp; omega),
        List.getElem?_eq_none_iff.mpr (by omega)]

theorem query?_createQuery_new (w : World) (text : String) (isTracked : Bool) :
    (w.createQuery text isTracked).1.query? ⟨w.queries.length⟩ =
      some (.ofMatcher ⟨text, w.config.matchMode⟩) := by
  rw [query?_createQuery, if_pos rfl]

/-- The identity of a query that is made is new. -/
theorem query?_eq_none_of_length {w : World} {q : QueryId} (h : q.index = w.queries.length) :
    w.query? q = none := by
  rw [query?, List.getElem?_eq_none_iff.mpr (by omega)]

theorem query?_createQuery_of_some {w : World} {q : QueryId} {query : Query} (text : String)
    (isTracked : Bool) (hq : w.query? q = some query) :
    (w.createQuery text isTracked).1.query? q = some query := by
  rw [query?_createQuery, if_neg, hq]
  intro hnew
  rw [query?_eq_none_of_length hnew] at hq
  cases hq

/-! ### Feeds -/

theorem feed?_congr {w w' : World} (hr : w'.roomFeed = w.roomFeed)
    (hp : w'.providerFeed = w.providerFeed) (hg : w'.registryFeed = w.registryFeed)
    (hs : w'.services = w.services) (x : Source) : w'.feed? x = w.feed? x := by
  cases x with
  | rooms => rw [feed?, feed?, hr]
  | providers => rw [feed?, feed?, hp]
  | registrations => rw [feed?, feed?, hg]
  | presence s => rw [feed?, feed?, service?, service?, hs]

@[simp] theorem feed?_modifyQuery (w : World) (q : QueryId) (f : Query → Query) (x : Source) :
    (w.modifyQuery q f).feed? x = w.feed? x := feed?_congr rfl rfl rfl rfl x

@[simp] theorem feed?_createQuery (w : World) (text : String) (isTracked : Bool) (x : Source) :
    (w.createQuery text isTracked).1.feed? x = w.feed? x := feed?_congr rfl rfl rfl rfl x

/-- A service is found under its own identity. -/
theorem id_of_service? {w : World} {s : ServiceId} {service : Service}
    (h : w.service? s = some service) : service.id = s := by
  have hkey : service.key = s.text := Keyed.key_eq_of_find? h
  obtain ⟨text⟩ := s
  exact congrArg ServiceId.mk hkey

/-- Changing a channel keeps the services and their providers. -/
theorem service?_modifyFeed (w : World) (x : Source) (f : Feed Watcher → Feed Watcher)
    (s : ServiceId) :
    (w.modifyFeed x f).service? s =
      (w.service? s).map fun service =>
        if x = .presence s then { service with channel := service.channel.map f } else service := by
  cases x with
  | rooms | providers | registrations => simp [modifyFeed, service?]
  | presence t =>
    have hkey : (fun service : Service => service.key == s.text) ∘ (fun service : Service =>
        if service.id = t then { service with channel := service.channel.map f } else service) =
        fun service => service.key == s.text := by
      funext service
      rw [Function.comp_apply]
      split <;> rfl
    simp only [modifyFeed, service?, modifyChannel, Keyed.find?, List.find?_map, hkey]
    apply Option.map_congr
    intro service hfound
    have hid : service.id = s := id_of_service? (w := w) hfound
    simp only [hid, Source.presence.injEq, eq_comm]

theorem feed?_modifyFeed (w : World) (x y : Source) (f : Feed Watcher → Feed Watcher) :
    (w.modifyFeed x f).feed? y = if x = y then (w.feed? y).map f else w.feed? y := by
  cases y with
  | rooms => cases x <;> rfl
  | providers => cases x <;> rfl
  | registrations => cases x <;> rfl
  | presence s =>
    rw [feed?, service?_modifyFeed, feed?]
    by_cases h : x = .presence s
    · rw [if_pos h]
      cases w.service? s <;> simp [h]
    · rw [if_neg h]
      cases w.service? s <;> simp [h]

/-- A feed after a change of one is a feed of before, or the one that has changed. -/
theorem feed?_modifyFeed_cases {w : World} {x y : Source} {f : Feed Watcher → Feed Watcher}
    {g : Feed Watcher} (h : (w.modifyFeed x f).feed? y = some g) :
    (x ≠ y ∧ w.feed? y = some g) ∨ (x = y ∧ ∃ old, w.feed? y = some old ∧ g = f old) := by
  rw [feed?_modifyFeed] at h
  split at h
  · next heq =>
    obtain ⟨old, hold, rfl⟩ := Option.map_eq_some_iff.mp h
    exact .inr ⟨heq, old, hold, rfl⟩
  · next hne => exact .inl ⟨hne, h⟩

theorem feed?_watch (w : World) (x y : Source) (v : Watcher) :
    (w.watch x v).1.feed? y =
      if x = y then (w.feed? y).map fun feed => feed.subscribe w.nextSubscription v
      else w.feed? y := by
  rw [watch, feed?_modifyFeed]
  rfl

theorem feed?_unwatch (w : World) (x y : Source) (id : SubscriptionId) :
    (w.unwatch x id).feed? y =
      if x = y then (w.feed? y).map fun feed => feed.unsubscribe id else w.feed? y :=
  feed?_modifyFeed ..

@[simp] theorem nextSubscription_modifyFeed (w : World) (x : Source)
    (f : Feed Watcher → Feed Watcher) :
    (w.modifyFeed x f).nextSubscription = w.nextSubscription := by
  cases x <;> rfl

@[simp] theorem nextSubscription_watch (w : World) (x : Source) (v : Watcher) :
    (w.watch x v).1.nextSubscription = w.nextSubscription.next := by
  rw [watch, nextSubscription_modifyFeed]
  rfl

@[simp] theorem nextSubscription_unwatch (w : World) (x : Source) (id : SubscriptionId) :
    (w.unwatch x id).nextSubscription = w.nextSubscription := nextSubscription_modifyFeed ..

/-! ### Services -/

/-- Mentioning a service that is there changes nothing. -/
theorem ensureService_of_some {w : World} {s : ServiceId} {service : Service}
    (h : w.service? s = some service) (provider : ProviderId) (hasChannel : Bool) :
    w.ensureService s provider hasChannel = w := by
  have hfound : Keyed.find? Service.key (Service.ofParts s provider hasChannel).key w.services =
      some service := h
  rw [ensureService, Keyed.insertNew, hfound, Option.isSome_some, if_pos rfl]

/-- A service that is mentioned for the first time is made; the others stay as they are. -/
theorem service?_ensureService_of_none {w : World} {s : ServiceId} (h : w.service? s = none)
    (provider : ProviderId) (hasChannel : Bool) (t : ServiceId) :
    (w.ensureService s provider hasChannel).service? t =
      if s = t then some (.ofParts s provider hasChannel) else w.service? t := by
  have hkey : (Service.ofParts s provider hasChannel).key = s.text := rfl
  have hnone : Keyed.find? Service.key (Service.ofParts s provider hasChannel).key w.services =
      none := h
  rw [ensureService, service?, Keyed.insertNew, hnone, Option.isSome_none,
    if_neg Bool.false_ne_true, Keyed.find?_insert, hkey]
  by_cases hst : s = t
  · rw [if_pos hst, if_pos (congrArg ServiceId.text hst)]
  · have htext : s.text ≠ t.text := fun htext => hst (by
      obtain ⟨a⟩ := s
      obtain ⟨b⟩ := t
      exact congrArg ServiceId.mk htext)
    rw [if_neg hst, if_neg htext]
    rfl

/-- A service that is made has nobody on its channel; the feeds that were there stay. -/
theorem feed?_ensureService (w : World) (s : ServiceId) (provider : ProviderId)
    (hasChannel : Bool) (x : Source) :
    (w.ensureService s provider hasChannel).feed? x = w.feed? x ∨
      (w.feed? x = none ∧ (w.ensureService s provider hasChannel).feed? x = some .empty) := by
  cases hs : w.service? s with
  | some service => exact .inl (by rw [ensureService_of_some hs])
  | none =>
    cases x with
    | rooms | providers | registrations => exact .inl rfl
    | presence t =>
      rw [feed?, feed?, service?_ensureService_of_none hs]
      by_cases hst : s = t
      · rw [if_pos hst, ← hst, hs]
        cases hasChannel
        · exact .inl rfl
        · exact .inr ⟨rfl, rfl⟩
      · rw [if_neg hst]
        exact .inl rfl

@[simp] theorem query?_ensureService (w : World) (s : ServiceId) (provider : ProviderId)
    (hasChannel : Bool) (q : QueryId) :
    (w.ensureService s provider hasChannel).query? q = w.query? q := rfl

end RoomSearch.World
