import RoomSearch.Proofs.World.Registers

/-!
# Attaching and detaching keep both sides of subscriptions in step

Attaching, detaching and following the registry change the subscriptions of one query.  Each of
them is described by the list of subscriptions that the query holds afterwards; all that other
queries hold, and the services with their providers, stay.

## Main definitions

* `Attachment.subscriptions` — all subscriptions of an attachment, with their sources.
* `Attachment.Fits` — the presence links are told apart by the providers of their services.
* `Ownership.replace` — the ownership in which one query holds something else.
* `World.Rewires` — only the subscriptions of one query are different.

## Main results

* `linkPresence_spec`, `unlinkPresence_spec`, `attach_spec`, `detach_spec` — what a query holds
  afterwards.
-/

namespace RoomSearch

/-- All subscriptions of an attachment, with their sources, in the order in which they are ended. -/
def Attachment.subscriptions (a : Attachment) : List (Source × SubscriptionId) :=
  (a.presence.map fun link => (.presence link.service, link.subscription)) ++
    [(.rooms, a.rooms), (.providers, a.providers), (.registrations, a.registrations)]

theorem Attachment.mem_subscriptions {a : Attachment} {x : Source} {id : SubscriptionId} :
    (x, id) ∈ a.subscriptions ↔
      (∃ link ∈ a.presence, x = .presence link.service ∧ id = link.subscription) ∨
        (x = .rooms ∧ id = a.rooms) ∨ (x = .providers ∧ id = a.providers) ∨
          (x = .registrations ∧ id = a.registrations) := by
  simp only [subscriptions, List.mem_append, List.mem_map, List.mem_cons, Prod.mk.injEq,
    List.not_mem_nil, or_false, eq_comm]

/-- All that a query is subscribed to. -/
def Query.upstream (q : Query) : List (Source × SubscriptionId) :=
  q.attachment.elim [] Attachment.subscriptions

/-- The ownership in which a query holds the listed subscriptions, and the others what they held. -/
def Ownership.replace (own : Ownership) (q : QueryId) (held : List (Source × SubscriptionId)) :
    Ownership := fun p x id => if p = q then (x, id) ∈ held else own p x id

theorem Ownership.replace_self {own : Ownership} {q : QueryId}
    {held : List (Source × SubscriptionId)} {x : Source} {id : SubscriptionId} :
    own.replace q held q x id ↔ (x, id) ∈ held := by
  rw [replace, if_pos rfl]

theorem Ownership.replace_of_ne {own : Ownership} {q p : QueryId}
    {held : List (Source × SubscriptionId)} {x : Source} {id : SubscriptionId} (h : p ≠ q) :
    own.replace q held p x id ↔ own p x id := by
  rw [replace, if_neg h]

namespace World

/-- The provider of a service. -/
def providerOf? (w : World) (s : ServiceId) : Option ProviderId :=
  (w.service? s).map Service.provider

@[simp] theorem providerOf?_modifyFeed (w : World) (x : Source) (f : Feed Watcher → Feed Watcher)
    (s : ServiceId) : (w.modifyFeed x f).providerOf? s = w.providerOf? s := by
  rw [providerOf?, service?_modifyFeed, Option.map_map, providerOf?]
  congr 1
  funext service
  rw [Function.comp_apply]
  split <;> rfl

/-- Changing a channel keeps the services in order. -/
theorem sorted_modifyFeed {w : World} (h : Keyed.Sorted Service.key w.services) (x : Source)
    (f : Feed Watcher → Feed Watcher) :
    Keyed.Sorted Service.key (w.modifyFeed x f).services := by
  cases x with
  | rooms | providers | registrations => exact h
  | presence s =>
    show ((w.services).map _).Pairwise _
    rw [List.pairwise_map]
    refine h.imp fun {a b} hlt => ?_
    have hkey : ∀ service : Service,
        (if service.id = s then { service with channel := service.channel.map f }
          else service).key = service.key := by
      intro service
      split <;> rfl
    rwa [hkey, hkey]

/-- From `w` to `w'` only the subscriptions of `q` are different. -/
structure Rewires (q : QueryId) (w w' : World) : Prop where
  others : ∀ {p}, p ≠ q → w'.query? p = w.query? p
  providers : ∀ s, w'.providerOf? s = w.providerOf? s
  next : w.nextSubscription.number ≤ w'.nextSubscription.number
  sorted : Keyed.Sorted Service.key w.services → Keyed.Sorted Service.key w'.services
  directory : w'.directory = w.directory

namespace Rewires

variable {q : QueryId} {w w' w'' : World}

theorem refl (q : QueryId) (w : World) : Rewires q w w :=
  ⟨fun _ => rfl, fun _ => rfl, Nat.le_refl _, id, rfl⟩

theorem trans (h : Rewires q w w') (h' : Rewires q w' w'') : Rewires q w w'' where
  others hp := (h'.others hp).trans (h.others hp)
  providers s := (h'.providers s).trans (h.providers s)
  next := Nat.le_trans h.next h'.next
  sorted hs := h'.sorted (h.sorted hs)
  directory := h'.directory.trans h.directory

theorem watch (q : QueryId) (w : World) (x : Source) (v : Watcher) :
    Rewires q w (w.watch x v).1 where
  others _ := query?_watch ..
  providers s := providerOf?_modifyFeed ..
  next := by
    rw [nextSubscription_watch]
    exact Nat.le_succ _
  sorted hs := sorted_modifyFeed (w := w.freshSubscription.1) hs x fun feed =>
    feed.subscribe w.nextSubscription v
  directory := by cases x <;> rfl

theorem unwatch (q : QueryId) (w : World) (x : Source) (id : SubscriptionId) :
    Rewires q w (w.unwatch x id) where
  others _ := query?_unwatch ..
  providers _ := providerOf?_modifyFeed ..
  next := Nat.le_of_eq (by rw [nextSubscription_unwatch])
  sorted hs := sorted_modifyFeed hs ..
  directory := by cases x <;> rfl

theorem unwatchAll (q : QueryId) (w : World) (held : List (Source × SubscriptionId)) :
    Rewires q w (w.unwatchAll held) := by
  induction held generalizing w with
  | nil => exact .refl q w
  | cons s rest ih => exact .trans (.unwatch ..) (ih (w.unwatch s.1 s.2))

theorem modifyQuery (q : QueryId) (w : World) (f : Query → Query) :
    Rewires q w (w.modifyQuery q f) where
  others hp := query?_modifyQuery_of_ne _ _ hp.symm
  providers _ := rfl
  next := Nat.le_refl _
  sorted := id
  directory := rfl

theorem freshSubscription (q : QueryId) (w : World) : Rewires q w w.freshSubscription.1 where
  others _ := rfl
  providers _ := rfl
  next := Nat.le_succ _
  sorted := id
  directory := rfl

end Rewires

end World

/-- The presence links are told apart by the providers of their services. -/
structure Attachment.Fits (a : Attachment) (w : World) : Prop where
  distinct : (a.presence.map PresenceLink.provider).Nodup
  provided : ∀ link ∈ a.presence, w.providerOf? link.service = some link.provider

theorem Attachment.Fits.of_rewires {a : Attachment} {q : QueryId} {w w' : World} (h : a.Fits w)
    (hr : World.Rewires q w w') : a.Fits w' :=
  ⟨h.distinct, fun link hl => (hr.providers _).trans (h.provided link hl)⟩

/-- No service occurs twice among the presence links. -/
theorem Attachment.Fits.nodup_services {a : Attachment} {w : World} (h : a.Fits w) :
    (a.presence.map PresenceLink.service).Nodup := by
  have hpair := (List.nodup_map_iff_inj_on (List.Nodup.of_map _ h.distinct)).mp h.distinct
  refine (List.nodup_map_iff_inj_on (List.Nodup.of_map _ h.distinct)).mpr ?_
  intro link hl link' hl' heq
  refine hpair link hl link' hl' (Option.some.inj ?_)
  rw [← h.provided link hl, ← h.provided link' hl', heq]

/-- No source occurs twice among the subscriptions of an attachment. -/
theorem Attachment.Fits.nodup_subscriptions {a : Attachment} {w : World} (h : a.Fits w) :
    a.subscriptions.Nodup := by
  have hmap : a.subscriptions.map Prod.fst =
      (a.presence.map PresenceLink.service).map Source.presence ++
        [.rooms, .providers, .registrations] := by
    simp [subscriptions, Function.comp_def]
  refine List.Nodup.of_map Prod.fst ?_
  rw [hmap]
  refine List.nodup_append.mpr ⟨h.nodup_services.map fun s t heq => by cases heq; rfl, by simp, ?_⟩
  intro x hx y hy
  obtain ⟨s, -, rfl⟩ := List.mem_map.mp hx
  rintro rfl
  simp at hy

namespace World

variable {w : World} {own : Ownership} {q : QueryId} {a : Attachment}

/-! ### One query's subscriptions -/

namespace Registers

variable {held held' : List (Source × SubscriptionId)} {x : Source} {id : SubscriptionId}

/-- A subscription of another query has another identity. -/
theorem not_own_of_ne (h : w.Registers (own.replace q held)) (hheld : (x, id) ∈ held)
    {p : QueryId} (hp : p ≠ q) : ¬ own p x id := by
  intro hown
  have hp' : own.replace q held p x id := (Ownership.replace_of_ne hp).mpr hown
  exact hp (h.query_unique hp' (Ownership.replace_self.mpr hheld))

/-- **The query holds one subscription more**, to a source that it did not follow. -/
theorem watch_replace (h : w.Registers (own.replace q held)) (hfeed : w.feed? x ≠ none)
    (hfree : ∀ id, (x, id) ∉ held)
    (hheld : ∀ y i, (y, i) ∈ held' ↔ (y, i) ∈ held ∨ y = x ∧ i = w.nextSubscription) :
    (w.watch x (.query q)).1.Registers (own.replace q held') := by
  refine (h.watch hfeed ?_).of_iff ?_
  · intro p id hp
    cases hp
    rw [Ownership.replace_self]
    exact hfree id
  · intro p y i
    by_cases hp : p = q
    · subst hp
      simp only [Ownership.replace_self, hheld, true_and]
    · simp only [Ownership.replace_of_ne hp, Watcher.query.injEq, Ne.symm hp, false_and, or_false]

/-- **The query holds one subscription less.** -/
theorem unwatch_replace (h : w.Registers (own.replace q held)) (hmem : (x, id) ∈ held)
    (hheld : ∀ y i, (y, i) ∈ held' ↔ (y, i) ∈ held ∧ ¬ (y = x ∧ i = id)) :
    (w.unwatch x id).Registers (own.replace q held') := by
  refine (h.unwatch (Ownership.replace_self.mpr hmem)).of_iff ?_
  intro p y i
  by_cases hp : p = q
  · subst hp
    rw [Ownership.replace_self, Ownership.replace_self, hheld]
  · rw [Ownership.replace_of_ne hp, Ownership.replace_of_ne hp]
    refine ⟨fun hown => ⟨hown, ?_⟩, And.left⟩
    rintro ⟨rfl, rfl⟩
    exact h.not_own_of_ne hmem hp hown

end Registers

/-! ### Presence links -/

/-- The presence links of the query `q` have changed, and `w'` and `a'` is what has become of the
world and of its attachment. -/
structure Relinks (w : World) (own : Ownership) (q : QueryId) (w' : World) (a' : Attachment) :
    Prop where
  /-- The feeds list what the query holds then. -/
  registers : w'.Registers (own.replace q a'.subscriptions)
  fits : a'.Fits w'
  queries : ∀ p, w'.query? p = w.query? p
  rewires : Rewires q w w'

theorem Relinks.refl (h : w.Registers (own.replace q a.subscriptions)) (hfit : a.Fits w) :
    w.Relinks own q w a := ⟨h, hfit, fun _ => rfl, .refl q w⟩

theorem Relinks.trans {w' w'' : World} {a' a'' : Attachment} (h : w.Relinks own q w' a')
    (h' : w'.Relinks own q w'' a'') : w.Relinks own q w'' a'' :=
  ⟨h'.registers, h'.fits, fun p => (h'.queries p).trans (h.queries p), h.rewires.trans h'.rewires⟩

/-- The query follows one more presence channel. -/
theorem relinks_watch (h : w.Registers (own.replace q a.subscriptions)) (hfit : a.Fits w)
    {s : ServiceId} {provider : ProviderId} (hprov : w.providerOf? s = some provider)
    (hnot : ∀ link ∈ a.presence, link.provider ≠ provider)
    (hfeed : w.feed? (.presence s) ≠ none) :
    w.Relinks own q (w.watch (.presence s) (.query q)).1
      { a with presence := a.presence ++ [⟨provider, s, w.nextSubscription⟩] } where
  registers := by
    refine h.watch_replace hfeed (fun id hmem => ?_) fun y i => ?_
    · -- no link is for this provider, hence none is for this service
      rcases Attachment.mem_subscriptions.mp hmem with ⟨link, hl, hx, -⟩ | hx | hx | hx
      · cases hx
        exact hnot link hl (Option.some.inj ((hfit.provided link hl).symm.trans hprov))
      all_goals cases hx.1
    · simp only [Attachment.subscriptions, List.map_append, List.mem_append, List.map_cons,
        List.map_nil, List.mem_singleton, Prod.mk.injEq]
      tauto
  fits := by
    refine ⟨?_, ?_⟩
    · rw [List.map_append, List.map_singleton, ← List.concat_eq_append]
      apply hfit.distinct.concat
      intro hmem
      obtain ⟨link, hl, heq⟩ := List.mem_map.mp hmem
      exact hnot link hl heq
    · intro link hl
      rw [watch, providerOf?_modifyFeed]
      rcases List.mem_append.mp hl with hl | hl
      · exact hfit.provided link hl
      · rw [List.mem_singleton.mp hl]
        exact hprov
  queries p := query?_watch ..
  rewires := .watch q w (.presence s) (.query q)

/-- **A presence link begins** unless the provider has one or the service has no channel. -/
theorem linkPresence_spec (h : w.Registers (own.replace q a.subscriptions)) (hfit : a.Fits w)
    (s : ServiceId) : w.Relinks own q (w.linkPresence q a s).1 (w.linkPresence q a s).2 := by
  unfold linkPresence
  split
  · exact .refl h hfit
  · next service hs =>
    split
    · exact .refl h hfit
    · next hnew =>
      split
      · exact .refl h hfit
      · next hchannel =>
        have hprov : w.providerOf? s = some service.provider := by rw [providerOf?, hs]; rfl
        have hnot : ∀ link ∈ a.presence, link.provider ≠ service.provider := by
          simpa using hnew
        have hfeed : w.feed? (.presence s) ≠ none := by
          rw [feed?, hs]
          simpa [Option.isNone_iff_eq_none] using hchannel
        exact relinks_watch h hfit hprov hnot hfeed

/-- Presence links begin one after the other. -/
theorem linkPresences_spec (services : List ServiceId) {w : World} {a : Attachment}
    (h : w.Registers (own.replace q a.subscriptions)) (hfit : a.Fits w) :
    w.Relinks own q (w.linkPresences q a services).1 (w.linkPresences q a services).2 := by
  induction services generalizing w a with
  | nil => exact .refl h hfit
  | cons s rest ih =>
    have hfirst := linkPresence_spec h hfit s
    exact hfirst.trans (ih hfirst.registers hfirst.fits)

/-- What is left without the link of a provider: all subscriptions but that of this link. -/
theorem mem_subscriptions_of_unlink (hfit : a.Fits w) {link : PresenceLink}
    (hl : link ∈ a.presence) (x : Source) (id : SubscriptionId) :
    (x, id) ∈ Attachment.subscriptions
        { a with presence := a.presence.filter fun other => other.provider != link.provider } ↔
      (x, id) ∈ a.subscriptions ∧ ¬ (x = .presence link.service ∧ id = link.subscription) := by
  simp only [Attachment.mem_subscriptions, List.mem_filter, bne_iff_ne, ne_eq]
  constructor
  · rintro (⟨other, ⟨hother, hne⟩, rfl, rfl⟩ | hcommon)
    · refine ⟨.inl ⟨other, hother, rfl, rfl⟩, ?_⟩
      rintro ⟨hservice, -⟩
      rw [Source.presence.injEq] at hservice
      refine hne (Option.some.inj ?_)
      rw [← hfit.provided other hother, hservice, hfit.provided link hl]
    · refine ⟨.inr hcommon, ?_⟩
      rintro ⟨rfl, -⟩
      rcases hcommon with hx | hx | hx <;> cases hx.1
  · rintro ⟨⟨other, hother, rfl, rfl⟩ | hcommon, hne⟩
    · refine .inl ⟨other, ⟨hother, fun hprov => hne ?_⟩, rfl, rfl⟩
      -- no two links are for one provider
      have heq : other = link := List.inj_on_of_nodup_map hfit.distinct hother hl hprov
      rw [heq]
      exact ⟨rfl, rfl⟩
    · exact .inr hcommon

/-- **A presence link ends**, if the provider has one. -/
theorem unlinkPresence_spec (h : w.Registers (own.replace q a.subscriptions)) (hfit : a.Fits w)
    (provider : ProviderId) :
    w.Relinks own q (w.unlinkPresence a provider).1 (w.unlinkPresence a provider).2 := by
  unfold unlinkPresence
  split
  · exact .refl h hfit
  · next link hlink =>
    have hl : link ∈ a.presence := List.mem_of_find?_eq_some hlink
    have hprov : link.provider = provider := by simpa using List.find?_some hlink
    have hmem : (Source.presence link.service, link.subscription) ∈ a.subscriptions :=
      Attachment.mem_subscriptions.mpr (.inl ⟨link, hl, rfl, rfl⟩)
    have hrew : Rewires q w (w.unwatchLink link) :=
      Rewires.unwatchAll q w [(.presence link.service, link.subscription)]
    subst hprov
    refine ⟨?_, ⟨?_, fun other hother => ?_⟩, fun p => query?_unwatch .., hrew⟩
    · exact h.unwatch_replace hmem (mem_subscriptions_of_unlink hfit hl)
    · exact hfit.distinct.sublist (List.filter_sublist.map _)
    · rw [hrew.providers]
      exact hfit.provided other (List.mem_filter.mp hother).1

/-! ### Attaching and detaching -/

/-- The three sources that every attached query follows. -/
theorem registers_start (h : w.Registers (own.replace q [])) :
    (((w.watch .rooms (.query q)).1.watch .providers (.query q)).1.watch .registrations
      (.query q)).1.Registers (own.replace q (Attachment.subscriptions
        ⟨w.nextSubscription, w.nextSubscription.next, w.nextSubscription.next.next, []⟩)) := by
  have hrooms : (w.watch .rooms (.query q)).1.Registers
      (own.replace q [(.rooms, w.nextSubscription)]) :=
    h.watch_replace (by simp [feed?]) (by simp) (by simp)
  have hproviders : ((w.watch .rooms (.query q)).1.watch .providers (.query q)).1.Registers
      (own.replace q [(.rooms, w.nextSubscription), (.providers, w.nextSubscription.next)]) :=
    hrooms.watch_replace (by simp [feed?]) (by simp) (by simp)
  exact hproviders.watch_replace (by simp [feed?]) (by simp)
    (by simp [Attachment.subscriptions, or_assoc])

theorem attach_eq (hnot : ¬ (w.query? q).any Query.isAttached = true) :
    w.attach q =
      let w' := (((w.watch .rooms (.query q)).1.watch .providers (.query q)).1.watch
        .registrations (.query q)).1
      let linked := w'.linkPresences q
        ⟨w.nextSubscription, w.nextSubscription.next, w.nextSubscription.next.next, []⟩ w.registry
      linked.1.modifyQuery q fun query => { query with attachment := some linked.2 } := by
  rw [attach, if_neg hnot]
  rfl

/-- **A query is attached**: it holds a subscription to each source and fitting presence links. -/
theorem attach_spec {query : Query} (h : w.Registers (own.replace q []))
    (hq : w.query? q = some query) (hnone : query.attachment = none) :
    ∃ a, (w.attach q).query? q = some { query with attachment := some a } ∧
      (w.attach q).Registers (own.replace q a.subscriptions) ∧ a.Fits (w.attach q) ∧
      Rewires q w (w.attach q) := by
  have hnot : ¬ (w.query? q).any Query.isAttached = true := by
    rw [hq, Option.any_some, Query.isAttached, hnone]
    exact Bool.false_ne_true
  rw [attach_eq hnot]
  have hreg := registers_start h
  have hrew := ((Rewires.watch q w .rooms (.query q)).trans
    (.watch q _ .providers (.query q))).trans (.watch q _ .registrations (.query q))
  have hquery : (((w.watch .rooms (.query q)).1.watch .providers (.query q)).1.watch
      .registrations (.query q)).1.query? q = some query := by
    rw [query?_watch, query?_watch, query?_watch, hq]
  -- the presence links come on top, whatever world this is by now
  revert hreg hrew hquery
  generalize (((w.watch .rooms (.query q)).1.watch .providers (.query q)).1.watch .registrations
    (.query q)).1 = w'
  intro hreg hrew hquery
  have hlinks := linkPresences_spec w.registry hreg ⟨List.nodup_nil, List.forall_mem_nil _⟩
  exact ⟨_, query?_modifyQuery_self _ (by rw [hlinks.queries, hquery]),
    hlinks.registers.of_feeds_eq (fun _ => feed?_modifyQuery ..) rfl,
    ⟨hlinks.fits.distinct, hlinks.fits.provided⟩,
    (hrew.trans hlinks.rewires).trans (.modifyQuery ..)⟩

theorem detach_eq {query : Query} (hq : w.query? q = some query)
    (ha : query.attachment = some a) :
    w.detach q = (w.unwatchAll a.subscriptions).modifyQuery q fun query =>
      { query with attachment := none } := by
  rw [detach, hq, Option.bind_some, ha]
  simp only [unwatchAll, Attachment.subscriptions, List.foldl_append, List.foldl_map,
    List.foldl_cons, List.foldl_nil]
  rfl

theorem detach_of_none {query : Query} (hq : w.query? q = some query)
    (ha : query.attachment = none) : w.detach q = w := by
  rw [detach, hq, Option.bind_some, ha]

/-- **A query is detached**: it holds nothing any more, and nothing else is different about it. -/
theorem detach_spec {query : Query} (h : w.Registers (own.replace q query.upstream))
    (hq : w.query? q = some query) (hfit : ∀ a, query.attachment = some a → a.Fits w) :
    (w.detach q).query? q = some { query with attachment := none } ∧
      (w.detach q).Registers (own.replace q []) ∧ Rewires q w (w.detach q) := by
  cases ha : query.attachment with
  | none =>
    rw [detach_of_none hq ha]
    rw [Query.upstream, ha] at h
    refine ⟨?_, h, .refl q w⟩
    rw [hq, ← ha]
  | some a =>
    rw [detach_eq hq ha]
    rw [Query.upstream, ha, Option.elim_some] at h
    refine ⟨query?_modifyQuery_self _ (by rw [query?_unwatchAll, hq]), ?_,
      (Rewires.unwatchAll ..).trans (.modifyQuery ..)⟩
    have hheld : ∀ s ∈ a.subscriptions, own.replace q a.subscriptions q s.1 s.2 := fun s hs =>
      Ownership.replace_self.mpr hs
    have hall := h.unwatchAll (hfit a ha).nodup_subscriptions hheld
    refine (hall.of_iff fun p x id => ?_).of_feeds_eq (fun _ => feed?_modifyQuery ..) rfl
    by_cases hp : p = q
    · subst hp
      simp [Ownership.replace]
    · rw [Ownership.replace_of_ne hp, Ownership.replace_of_ne hp]
      exact ⟨fun hown => ⟨hown, fun hmem => h.not_own_of_ne hmem hp hown⟩, And.left⟩

end World

end RoomSearch
