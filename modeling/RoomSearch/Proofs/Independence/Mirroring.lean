import RoomSearch.Proofs.Independence.Sparing

/-!
# Two worlds that agree on a query

Two worlds may differ in all other queries, and so in the identities that subscriptions are given
and in what the feeds list.  They mirror each other as far as one query goes if the query is in the
same state in both, with subscribers that correspond one by one, and if both have what queries
depend on: the same configuration, directory and registry, and the same services.  A translation
tells which identity of a subscription corresponds to which.

A change of the query alone is described for one world first, by the record of the query afterwards
(`World.Edits`).  The subscriptions of the query to its sources have other identities in the other
world, so of these only the links count: the services, with their providers, whose channels the
query follows.

## Main definitions

* `Translation` — which identity of a subscription corresponds to which.
* `Attachment.links`, `Query.links?`, `World.link`, `World.relink` — the services that a query
  follows.
* `Query.Mirrors`, `World.Mirrors` — the query is in the same state in two worlds.
* `World.Edits` — only the query is different, and its record afterwards.
* `Query.watches` — whether a query follows a source.

## Main results

* `World.Mirrors.edit` — the same change in both worlds.
* `World.edits_attach`, `World.edits_detach`, `World.edits_subscribe`, `World.edits_unsubscribe`,
  `World.edits_followRegistry` — the changes of subscriptions.
* `World.Mirrors.release` — letting go of what is not in use.
* `World.count_audience` — a query is told by the sources that it follows.
-/

namespace RoomSearch

open scoped List

/-- Which identity of a subscription in one world corresponds to which in another. -/
abbrev Translation := SubscriptionId → SubscriptionId → Prop

/-- The services that an attachment has links to, with their providers. -/
def Attachment.links (a : Attachment) : List (ProviderId × ServiceId) :=
  a.presence.map fun link => (link.provider, link.service)

/-- The services that an attached query has links to. -/
def Query.links? (query : Query) : Option (List (ProviderId × ServiceId)) :=
  query.attachment.map Attachment.links

/-- Whether a query follows a source. -/
def Query.watches (query : Query) : Source → Bool
  | .presence s => query.links?.elim false fun links => links.any fun link => link.2 == s
  | _ => query.links?.isSome

/-- The same query after nothing refers to it any more. -/
def Query.retired (query : Query) : Query :=
  { query with attachment := none, subscribers := [], subscriberCount := 0, alive := false }

/-- What becomes of a query when what is not in use is let go of. -/
def Query.letGo (query : Query) (used : Bool) : Query :=
  if query.alive && !used then query.retired else query

theorem Query.letGo_letGo (query : Query) (used : Bool) :
    (query.letGo used).letGo used = query.letGo used := by
  rw [letGo, letGo]
  split <;> rfl

/-- Two states of a query are the same up to the identities of subscriptions. -/
structure Query.Mirrors (names : Translation) (a b : Query) : Prop where
  same : ∃ subscribers attachment,
    b = { a with subscribers := subscribers, attachment := attachment }
  subscribers : List.Forall₂ (fun v v' => names v.1 v'.1) a.subscribers b.subscribers
  links : b.links? = a.links?

namespace Query.Mirrors

variable {names : Translation} {a b : Query}

/-- Everything about the queries is the same that is not about subscriptions. -/
theorem congr {α : Type} (h : a.Mirrors names b) {f : Query → α}
    (hf : ∀ (query : Query) subscribers attachment,
      f { query with subscribers := subscribers, attachment := attachment } = f query) :
    f b = f a := by
  obtain ⟨subscribers, attachment, rfl⟩ := h.same
  exact hf a subscribers attachment

theorem symm (h : a.Mirrors names b) : b.Mirrors (flip names) a where
  same := by
    obtain ⟨subscribers, attachment, rfl⟩ := h.same
    exact ⟨a.subscribers, a.attachment, rfl⟩
  subscribers := h.subscribers.flip
  links := h.links.symm

theorem mono {names' : Translation} (h : a.Mirrors names b)
    (hnames : ∀ {id id'}, names id id' → names' id id') : a.Mirrors names' b where
  same := h.same
  subscribers := h.subscribers.imp fun _ _ hn => hnames hn
  links := h.links

/-- The same change of both that is not about subscriptions. -/
theorem map (h : a.Mirrors names b) {f : Query → Query}
    (hf : ∀ (query : Query) subscribers attachment,
      f { query with subscribers := subscribers, attachment := attachment } =
        { f query with subscribers := subscribers, attachment := attachment })
    (hself : ∀ query : Query, (f query).subscribers = query.subscribers ∧
      (f query).attachment = query.attachment) : (f a).Mirrors names (f b) := by
  obtain ⟨subscribers, attachment, heq⟩ := h.same
  refine ⟨⟨subscribers, attachment, ?_⟩, ?_, ?_⟩
  · rw [heq, hf]
  · rw [(hself a).1, (hself b).1]
    exact h.subscribers
  · rw [links?, links?, (hself a).2, (hself b).2]
    exact h.links

/-- Both have another attachment, with the same links. -/
theorem attach (h : a.Mirrors names b) {attachment attachment' : Option Attachment}
    (hlinks : attachment'.map Attachment.links = attachment.map Attachment.links) :
    Query.Mirrors names { a with attachment := attachment }
      { b with attachment := attachment' } := by
  obtain ⟨subscribers, _, heq⟩ := h.same
  refine ⟨⟨subscribers, attachment', ?_⟩, h.subscribers, hlinks⟩
  rw [heq]

/-- Both are let go of, or neither. -/
theorem letGo (h : a.Mirrors names b) (used : Bool) :
    (a.letGo used).Mirrors names (b.letGo used) := by
  have halive : b.alive = a.alive := h.congr fun _ _ _ => rfl
  rw [Query.letGo, Query.letGo, halive]
  split
  · obtain ⟨subscribers, attachment, heq⟩ := h.same
    refine ⟨⟨[], none, ?_⟩, .nil, rfl⟩
    rw [heq]
    rfl
  · exact h

/-- Both have one more subscriber. -/
theorem withSubscriber (h : a.Mirrors names b) {id id' : SubscriptionId} (hid : names id id')
    (subscriber subscriber' : Subscriber) :
    (a.withSubscriber id subscriber).Mirrors names (b.withSubscriber id' subscriber') := by
  obtain ⟨subscribers, attachment, heq⟩ := h.same
  refine ⟨⟨subscribers ++ [(id', subscriber')], attachment, ?_⟩, ?_, h.links⟩
  · rw [heq]
    rfl
  · exact List.rel_append h.subscribers (.cons hid .nil)

end Query.Mirrors

namespace World

variable {w w' w₁ w₁' : World} {q q' p : QueryId} {query query' a b : Query} {names : Translation}

/-! ### Links -/

/-- A link to a service, unless its provider has one or it has no channel. -/
def link (w : World) (links : List (ProviderId × ServiceId)) (s : ServiceId) :
    List (ProviderId × ServiceId) :=
  match w.post? s with
  | some (provider, true) =>
    if links.any fun l => l.1 == provider then links else links ++ [(provider, s)]
  | _ => links

theorem link_congr (h : w'.post? = w.post?) : w'.link = w.link := by
  funext links s
  rw [link, h, link]

/-- What becomes of links when the registry announces something. -/
def relink (w : World) (notice : RegistrationNotice ServiceId)
    (links? : Option (List (ProviderId × ServiceId))) : Option (List (ProviderId × ServiceId)) :=
  if notice.ownerStopping then links?
  else
    match w.post? notice.service, notice.change with
    | none, _ => links?
    | some _, .registered => links?.map fun links => w.link links notice.service
    | some (provider, _), .unregistering => links?.map (List.filter fun l => l.1 != provider)

theorem relink_congr (h : w'.post? = w.post?) : w'.relink = w.relink := by
  funext notice links?
  rw [relink, h, link_congr h, relink]

theorem links_linkPresence (w : World) (q : QueryId) (a : Attachment) (s : ServiceId) :
    (w.linkPresence q a s).2.links = w.link a.links s := by
  unfold linkPresence link post?
  cases w.service? s with
  | none => rfl
  | some service =>
    have hany : (a.links.any fun l => l.1 == service.provider) =
        a.presence.any fun l => l.provider == service.provider := List.any_map ..
    dsimp only [Option.map_some]
    cases hchannel : service.channel with
    | none =>
      simp only [Option.isSome_none, Option.isNone_none, if_true]
      split <;> rfl
    | some feed =>
      simp only [Option.isSome_some, hany, Option.isNone_some]
      split
      · rfl
      · rw [if_neg Bool.false_ne_true]
        exact List.map_append

theorem links_linkPresences (w : World) (q : QueryId) (a : Attachment)
    (services : List ServiceId) :
    (w.linkPresences q a services).2.links = services.foldl w.link a.links := by
  induction services generalizing w a with
  | nil => rfl
  | cons s rest ih =>
    refine (ih (w.linkPresence q a s).1 (w.linkPresence q a s).2).trans ?_
    rw [links_linkPresence, link_congr (post?_linkPresence w q a s), List.foldl_cons]

theorem links_unlinkPresence (w : World) (a : Attachment) (provider : ProviderId) :
    (w.unlinkPresence a provider).2.links = a.links.filter fun l => l.1 != provider := by
  have hfilter : (a.links.filter fun l => l.1 != provider) =
      (a.presence.filter fun l => l.provider != provider).map fun l => (l.provider, l.service) :=
    List.filter_map ..
  unfold unlinkPresence
  split
  · next hnone =>
    rw [hfilter, List.filter_eq_self.mpr]
    · rfl
    · intro l hl
      simpa using List.find?_eq_none.mp hnone l hl
  · exact hfilter.symm

/-- The links of a query that is attached now. -/
def newLinks (w : World) : List (ProviderId × ServiceId) := w.registry.foldl w.link []

theorem newLinks_congr (hposts : w'.post? = w.post?) (hstage : w'.stage = w.stage) :
    w'.newLinks = w.newLinks := by
  have hregistry : w'.registry = w.registry := congrArg (fun x => x.2.2.2) hstage
  rw [newLinks, link_congr hposts, hregistry, newLinks]

/-! ### One world -/

/-- From `w` to `w'` only the query `q` is different, and it is `query'` now. -/
structure Edits (q : QueryId) (w w' : World) (query' : Query) : Prop where
  stage : w'.stage = w.stage
  posts : w'.post? = w.post?
  tracked : w'.tracked = w.tracked
  query : w'.query? q = some query'

namespace Edits

theorem of_overlooks (h : ∀ {α : Type} {view : World → α}, Overlooks view → view w' = view w)
    (hq : w'.query? q = some query') : Edits q w w' query' :=
  ⟨h overlooks_stage, h overlooks_post?, congrArg Setting.tracked (h overlooks_setting), hq⟩

theorem refl (hq : w.query? q = some query) : Edits q w w query := ⟨rfl, rfl, rfl, hq⟩

theorem modifyQuery (hq : w.query? q = some query) (f : Query → Query) :
    Edits q w (w.modifyQuery q f) (f query) :=
  .of_overlooks (fun h => h.modifyQuery w q f) (query?_modifyQuery_self f hq)

end Edits

/-- **A query is detached.** -/
theorem edits_detach (hq : w.query? q = some query) :
    Edits q w (w.detach q) { query with attachment := none } := by
  refine .of_overlooks (fun h => h.detach w q) ?_
  cases ha : query.attachment with
  | none =>
    rw [detach_of_none hq ha, hq, ← ha]
  | some a =>
    rw [detach_eq hq ha]
    exact query?_modifyQuery_self _ ((query?_unwatchAll ..).trans hq)

theorem query?_linkPresence (w : World) (p : QueryId) (a : Attachment) (s : ServiceId)
    (q : QueryId) : (w.linkPresence p a s).1.query? q = w.query? q := by
  rcases linkPresence_world w p a s with h | h
  · rw [h]
  · rw [h, query?_watch]

theorem query?_linkPresences (w : World) (p : QueryId) (a : Attachment) (services : List ServiceId)
    (q : QueryId) : (w.linkPresences p a services).1.query? q = w.query? q := by
  induction services generalizing w a with
  | nil => rfl
  | cons s rest ih => exact (ih _ _).trans (query?_linkPresence ..)

/-- **A query is attached**, unless it has been attached before. -/
theorem edits_attach (hq : w.query? q = some query) :
    ∃ attachment, Edits q w (w.attach q) { query with attachment := attachment } ∧
      attachment.map Attachment.links = some (query.links?.getD w.newLinks) := by
  have hviews : ∀ {α : Type} {view : World → α}, Overlooks view → view (w.attach q) = view w :=
    fun h => h.attach w q
  cases ha : query.attachment with
  | some a =>
    -- it is attached already, so nothing happens
    have hattached : (w.query? q).any Query.isAttached = true := by
      rw [hq, Option.any_some, Query.isAttached, ha, Option.isSome_some]
    refine ⟨some a, .of_overlooks hviews ?_, ?_⟩
    · rw [attach, if_pos hattached, hq, ← ha]
    · rw [Query.links?, ha]
      rfl
  | none =>
    -- the three sources of every query come first
    have hnot : ¬ (w.query? q).any Query.isAttached = true := by
      rw [hq, Option.any_some, Query.isAttached, ha, Option.isSome_none]
      exact Bool.false_ne_true
    have hlinked := attach_eq hnot
    have hquery : (((w.watch .rooms (.query q)).1.watch .providers (.query q)).1.watch
        .registrations (.query q)).1.query? q = some query := by
      rw [query?_watch, query?_watch, query?_watch, hq]
    have hposts : (((w.watch .rooms (.query q)).1.watch .providers (.query q)).1.watch
        .registrations (.query q)).1.post? = w.post? := by
      rw [overlooks_post?.watch, overlooks_post?.watch, overlooks_post?.watch]
    -- the presence links come on top, whatever world this is by now
    revert hlinked hquery hposts
    generalize (((w.watch .rooms (.query q)).1.watch .providers (.query q)).1.watch .registrations
      (.query q)).1 = w'
    intro hlinked hquery hposts
    refine ⟨some (w'.linkPresences q ⟨w.nextSubscription, w.nextSubscription.next,
      w.nextSubscription.next.next, []⟩ w.registry).2, .of_overlooks hviews ?_, ?_⟩
    · rw [hlinked]
      exact query?_modifyQuery_self _ ((query?_linkPresences ..).trans hquery)
    · rw [Option.map_some, links_linkPresences, link_congr hposts, Query.links?, ha]
      rfl

/-- **A new subscriber** comes; the first one attaches the query. -/
theorem edits_subscribe (hq : w.query? q = some query) (subscriber : Subscriber) :
    ∃ attachment, Edits q w (w.subscribe q subscriber).1
        { query.withSubscriber w.nextSubscription subscriber with attachment := attachment } ∧
      attachment.map Attachment.links =
        if query.subscriberCount + 1 = 1 ∧ query.status ≠ .canceled then
          some (query.links?.getD w.newLinks) else query.links? := by
  have hviews : ∀ {α : Type} {view : World → α}, Overlooks view →
      view (w.subscribe q subscriber).1 = view w := fun h => h.subscribe w q subscriber
  have hquery : (w.freshSubscription.1.modifyQuery q fun query =>
      query.withSubscriber w.nextSubscription subscriber).query? q =
        some (query.withSubscriber w.nextSubscription subscriber) :=
    query?_modifyQuery_self _ hq
  have heq := Accounts.subscribe_eq hq subscriber
  split at heq
  · next hfirst =>
    obtain ⟨attachment, hedits, hlinks⟩ := edits_attach hquery
    refine ⟨attachment, .of_overlooks hviews ?_, ?_⟩
    · rw [heq]
      exact hedits.query
    · rw [if_pos hfirst, hlinks]
      rfl
  · next hlater =>
    refine ⟨query.attachment, .of_overlooks hviews ?_, ?_⟩
    · rw [heq]
      exact hquery
    · rw [if_neg hlater]
      rfl

/-- **A subscriber goes**; the last one detaches the query. -/
theorem edits_unsubscribe (hq : w.query? q = some query) {id : SubscriptionId}
    (hany : (query.subscribers.any fun s => s.1 == id) = true) :
    (w.unsubscribe q id).2 = true ∧ Edits q w (w.unsubscribe q id).1
      { query.withoutSubscriber id with
        attachment := if query.subscriberCount - 1 = 0 then none else query.attachment } := by
  have hviews : ∀ {α : Type} {view : World → α}, Overlooks view →
      view (w.unsubscribe q id).1 = view w := fun h => h.unsubscribe w q id
  have hquery : ∀ f, (w.modifyQuery q f).query? q = some (f query) := fun f =>
    query?_modifyQuery_self f hq
  have heq : w.unsubscribe q id = (if query.subscriberCount - 1 = 0 then
      (w.modifyQuery q fun q => { q with
        subscribers := (query.withoutSubscriber id).subscribers
        subscriberCount := query.subscriberCount - 1 }).detach q
      else w.modifyQuery q fun q => { q with
        subscribers := (query.withoutSubscriber id).subscribers
        subscriberCount := query.subscriberCount - 1 }, true) := by
    rw [unsubscribe, hq]
    dsimp only
    rw [if_pos hany]
    rfl
  refine ⟨by rw [heq], .of_overlooks hviews ?_⟩
  rw [heq]
  split
  · exact (edits_detach (hquery _)).query
  · exact hquery _

theorem unsubscribe_of_not_any (hq : w.query? q = some query) {id : SubscriptionId}
    (hany : (query.subscribers.any fun s => s.1 == id) = false) :
    w.unsubscribe q id = (w, false) := by
  rw [unsubscribe, hq]
  dsimp only
  rw [hany, if_neg Bool.false_ne_true]

theorem query?_unlinkPresence (w : World) (a : Attachment) (provider : ProviderId) (q : QueryId) :
    (w.unlinkPresence a provider).1.query? q = w.query? q := by
  unfold unlinkPresence
  split
  · rfl
  · exact query?_unwatch ..

/-- **A query follows the registry.** -/
theorem edits_followRegistry (hq : w.query? q = some query)
    (notice : RegistrationNotice ServiceId) :
    ∃ attachment, Edits q w (w.followRegistry q query notice).world
        { query with attachment := attachment } ∧
      attachment.map Attachment.links = w.relink notice query.links? := by
  have hviews : ∀ {α : Type} {view : World → α}, Overlooks view →
      view (w.followRegistry q query notice).world = view w :=
    fun h => h.followRegistry w q query notice
  have hstill : (w.followRegistry q query notice).world = w →
      w.relink notice query.links? = query.links? →
      ∃ attachment, Edits q w (w.followRegistry q query notice).world
        { query with attachment := attachment } ∧
        attachment.map Attachment.links = w.relink notice query.links? := by
    intro hworld hlinks
    refine ⟨query.attachment, ?_, hlinks.symm⟩
    rw [hworld]
    exact .refl hq
  -- a notice is disregarded if the owner stops, if the service is not known, or if the query is
  -- not attached
  by_cases hstopping : notice.ownerStopping = true
  · refine hstill ?_ (if_pos hstopping)
    unfold followRegistry
    split
    · rw [if_pos hstopping]
      rfl
    · rfl
  · cases hservice : w.service? notice.service with
    | none =>
      refine hstill ?_ ?_
      · rw [followRegistry, hservice]
        cases query.attachment <;> rfl
      · rw [relink, if_neg hstopping, post?, hservice]
        rfl
    | some service =>
      cases ha : query.attachment with
      | none =>
        refine hstill ?_ ?_
        · rw [followRegistry, ha]
          rfl
        · rw [relink, if_neg hstopping, post?, hservice, Query.links?, ha]
          cases notice.change <;> rfl
      | some a =>
        cases hchange : notice.change with
        | registered =>
          refine ⟨some (w.linkPresence q a notice.service).2, .of_overlooks hviews ?_, ?_⟩
          · rw [followRegistry, ha, hservice]
            dsimp only
            rw [if_neg hstopping, hchange]
            exact query?_modifyQuery_self _ ((query?_linkPresence ..).trans hq)
          · rw [relink, if_neg hstopping, post?, hservice, hchange, Query.links?, ha,
              Option.map_some, links_linkPresence]
            rfl
        | unregistering =>
          refine ⟨some (w.unlinkPresence a service.provider).2, .of_overlooks hviews ?_, ?_⟩
          · rw [followRegistry, ha, hservice]
            dsimp only
            rw [if_neg hstopping, hchange]
            exact query?_modifyQuery_self _ ((query?_unlinkPresence ..).trans hq)
          · rw [relink, if_neg hstopping, post?, hservice, hchange, Query.links?, ha,
              Option.map_some, links_unlinkPresence]
            rfl

/-! ### Letting go -/

theorem query?_retire (w : World) (p q : QueryId) :
    (w.retire p).query? q = if p = q then (w.query? q).map Query.retired else w.query? q := by
  by_cases hpq : p = q
  · subst hpq
    rw [if_pos rfl, retire, query?_modifyQuery, if_pos rfl]
    cases hp : w.query? p with
    | none => rw [detach, hp, Option.bind_none, hp, Option.map_none, Option.map_none]
    | some query =>
      rw [(edits_detach hp).query]
      rfl
  · rw [if_neg hpq, retire, query?_modifyQuery_of_ne _ _ hpq, query?_detach_of_ne w hpq]

theorem query?_releaseIndex (used : QueryId → Bool) (w : World) (i : Nat) (q : QueryId) :
    (releaseIndex used w i).query? q =
      if i = q.index then (w.query? q).map fun query => query.letGo (used q) else w.query? q := by
  have hid : i = q.index ↔ (⟨i⟩ : QueryId) = q := by
    obtain ⟨j⟩ := q
    rw [QueryId.mk.injEq]
  unfold releaseIndex
  by_cases hi : i = q.index
  · have hq := hid.mp hi
    rw [if_pos hi, hq]
    cases hquery : w.query? q with
    | none =>
      rw [if_neg (by simp), hquery, Option.map_none]
    | some query =>
      rw [Option.elim_some, Option.map_some, Query.letGo]
      split
      · rw [query?_retire, if_pos rfl, hquery, Option.map_some]
      · exact hquery
  · have hne : (⟨i⟩ : QueryId) ≠ q := fun heq => hi (hid.mpr heq)
    rw [if_neg hi]
    split
    · rw [query?_retire, if_neg hne]
    · rfl

/-- **What becomes of a query** when what is not in use is let go of. -/
theorem query?_release_eq (w : World) (used : QueryId → Bool) (busInUse : BusId → Bool)
    (q : QueryId) : (w.release used busInUse).query? q =
      (w.query? q).map fun query => query.letGo (used q) := by
  -- one query after the other lets go
  have hindices : ∀ (indices : List Nat) (w : World),
      (indices.foldl (releaseIndex used) w).query? q =
        if q.index ∈ indices then (w.query? q).map fun query => query.letGo (used q)
        else w.query? q := by
    intro indices
    induction indices with
    | nil => exact fun w => (if_neg List.not_mem_nil).symm
    | cons i rest ih =>
      intro w
      rw [List.foldl_cons, ih, query?_releaseIndex]
      by_cases hi : i = q.index
      · have hmem : q.index ∈ i :: rest := hi ▸ List.mem_cons_self
        rw [if_pos hi, if_pos hmem]
        split
        · -- letting go twice is letting go once
          rw [Option.map_map]
          congr 1
          funext query
          exact query.letGo_letGo (used q)
        · rfl
      · have hmem : q.index ∈ i :: rest ↔ q.index ∈ rest := by
          rw [List.mem_cons]
          exact or_iff_right fun heq => hi heq.symm
        rw [if_neg hi]
        simp only [hmem]
  refine (hindices (List.range w.queries.length) w).trans ?_
  split
  · rfl
  · next hout =>
    -- there is no such query
    have hnone : w.query? q = none := by
      rw [List.mem_range, Nat.not_lt] at hout
      exact List.getElem?_eq_none_iff.mpr hout
    rw [hnone, Option.map_none]

/-- A query that is in use is not let go of. -/
theorem leaves_release {used : QueryId → Bool}
    (h : ∀ query, w.query? q = some query → query.alive = true → used q = true)
    (busInUse : BusId → Bool) : Leaves q w (w.release used busInUse) := by
  refine .of_overlooks (fun h => h.release w used busInUse) ?_
  rw [query?_release_eq]
  cases hq : w.query? q with
  | none => rfl
  | some query =>
    have hkept : ¬ (query.alive && !used q) = true := by
      intro hgone
      obtain ⟨halive, hunused⟩ := Bool.and_eq_true_iff.mp hgone
      rw [h query hq halive] at hunused
      cases hunused
    rw [Option.map_some, Query.letGo, if_neg hkept]

theorem edits_release (hq : w.query? q = some query) (used : QueryId → Bool)
    (busInUse : BusId → Bool) :
    Edits q w (w.release used busInUse) (query.letGo (used q)) := by
  refine .of_overlooks (fun h => h.release w used busInUse) ?_
  rw [query?_release_eq, hq, Option.map_some]

/-! ### Two worlds -/

/-- The query `q'` is in `w'` what the query `q` is in `w`, and both worlds have what queries depend
on. -/
structure Mirrors (names : Translation) (q q' : QueryId) (w w' : World) : Prop where
  stage : w'.stage = w.stage
  posts : w'.post? = w.post?
  query : Option.Rel (Query.Mirrors names) (w.query? q) (w'.query? q')
  listed : q' ∈ w'.aliveQueries ↔ q ∈ w.aliveQueries

namespace Mirrors

theorem config (h : Mirrors names q q' w w') : w'.config = w.config :=
  congrArg (fun x => x.1) h.stage

theorem busLimit (h : Mirrors names q q' w w') : w'.busLimit = w.busLimit :=
  congrArg (fun x => x.2.1) h.stage

theorem directory (h : Mirrors names q q' w w') : w'.directory = w.directory :=
  congrArg (fun x => x.2.2.1) h.stage

theorem registry (h : Mirrors names q q' w w') : w'.registry = w.registry :=
  congrArg (fun x => x.2.2.2) h.stage

/-- The first world changes, but for the query. -/
theorem left (h : Mirrors names q q' w w') (hleaves : Leaves q w w₁) :
    Mirrors names q q' w₁ w' where
  stage := h.stage.trans hleaves.stage.symm
  posts := h.posts.trans hleaves.posts.symm
  query := hleaves.query ▸ h.query
  listed := h.listed.trans hleaves.listed.symm

/-- The second world changes, but for the query. -/
theorem right (h : Mirrors names q q' w w') (hleaves : Leaves q' w' w₁') :
    Mirrors names q q' w w₁' where
  stage := hleaves.stage.trans h.stage
  posts := hleaves.posts.trans h.posts
  query := hleaves.query ▸ h.query
  listed := hleaves.listed.trans h.listed

theorem symm (h : Mirrors names q q' w w') : Mirrors (flip names) q' q w' w where
  stage := h.stage.symm
  posts := h.posts.symm
  query := by
    have hrel := h.query
    revert hrel
    generalize w.query? q = a
    generalize w'.query? q' = b
    intro hrel
    cases hrel with
    | none => exact .none
    | some hm => exact .some hm.symm
  listed := h.listed.symm

theorem mono {names' : Translation} (h : Mirrors names q q' w w')
    (hnames : ∀ {id id'}, names id id' → names' id id') : Mirrors names' q q' w w' where
  stage := h.stage
  posts := h.posts
  query := by
    have hrel := h.query
    revert hrel
    generalize w.query? q = a
    generalize w'.query? q' = b
    intro hrel
    cases hrel with
    | none => exact .none
    | some hm => exact .some (hm.mono hnames)
  listed := h.listed

theorem «exists» (h : Mirrors names q q' w w') (hq : w.query? q = some a) :
    ∃ b, w'.query? q' = some b ∧ a.Mirrors names b := by
  have hrel := h.query
  rw [hq] at hrel
  generalize w'.query? q' = other at hrel
  cases hrel with
  | some hm => exact ⟨_, rfl, hm⟩

theorem query?_eq_none (h : Mirrors names q q' w w') (hq : w.query? q = none) :
    w'.query? q' = none := by
  have hrel := h.query
  rw [hq] at hrel
  generalize w'.query? q' = other at hrel
  cases hrel with
  | none => rfl

/-- What can be read off the query, subscriptions apart, is the same in both worlds. -/
theorem bind_query? {α : Type} (h : Mirrors names q q' w w') {f : Query → Option α}
    (hf : ∀ {a b : Query}, a.Mirrors names b → f b = f a) :
    (w'.query? q').bind f = (w.query? q).bind f := by
  cases hq : w.query? q with
  | none => rw [h.query?_eq_none hq, Option.bind_none]
  | some a =>
    obtain ⟨b, hq', hm⟩ := h.exists hq
    rw [hq', Option.bind_some, Option.bind_some, hf hm]

theorem map_query? {α : Type} (h : Mirrors names q q' w w') {f : Query → α}
    (hf : ∀ {a b : Query}, a.Mirrors names b → f b = f a) :
    (w'.query? q').map f = (w.query? q).map f := by
  rw [Option.map_eq_bind, Option.map_eq_bind]
  exact h.bind_query? fun hm => congrArg some (hf hm)

/-- **The query changes in both worlds**, to states that are the same again. -/
theorem edit {a₁ b₁ : Query} (h : Mirrors names q q' w w') (hq : w.query? q = some a)
    (hq' : w'.query? q' = some b) (he : Edits q w w₁ a₁) (he' : Edits q' w' w₁' b₁)
    (hm : a₁.Mirrors names b₁) (halive : a₁.alive = true → a.alive = true) :
    Mirrors names q q' w₁ w₁' where
  stage := (he'.stage.trans h.stage).trans he.stage.symm
  posts := (he'.posts.trans h.posts).trans he.posts.symm
  query := by
    rw [he.query, he'.query]
    exact .some hm
  listed := by
    obtain ⟨other, hother, hsame⟩ := h.exists hq
    cases Option.some.inj (hother.symm.trans hq')
    have hb : b.alive = a.alive := hsame.congr fun _ _ _ => rfl
    have hb₁ : b₁.alive = a₁.alive := hm.congr fun _ _ _ => rfl
    have hlisted := h.listed
    simp only [mem_aliveQueries, isAlive, hq, hq', Option.elim_some, hb] at hlisted
    simp only [mem_aliveQueries, isAlive, he.query, he'.query, he.tracked, he'.tracked,
      Option.elim_some, hb₁]
    constructor
    · rintro ⟨hmem, hlive⟩
      exact ⟨(hlisted.mp ⟨hmem, halive hlive⟩).1, hlive⟩
    · rintro ⟨hmem, hlive⟩
      exact ⟨(hlisted.mpr ⟨hmem, halive hlive⟩).1, hlive⟩

/-- The same change in both worlds that is not about subscriptions. -/
theorem modifyQuery (h : Mirrors names q q' w w') {f : Query → Query}
    (hf : ∀ (query : Query) subscribers attachment,
      f { query with subscribers := subscribers, attachment := attachment } =
        { f query with subscribers := subscribers, attachment := attachment })
    (hself : ∀ query : Query, (f query).subscribers = query.subscribers ∧
      (f query).attachment = query.attachment ∧ (f query).alive = query.alive) :
    Mirrors names q q' (w.modifyQuery q f) (w'.modifyQuery q' f) := by
  cases hq : w.query? q with
  | none =>
    rw [modifyQuery_of_none hq, modifyQuery_of_none (h.query?_eq_none hq)]
    exact h
  | some a =>
    obtain ⟨b, hq', hm⟩ := h.exists hq
    refine h.edit hq hq' (.modifyQuery hq f) (.modifyQuery hq' f) (hm.map hf ?_) ?_
    · exact fun query => ⟨(hself query).1, (hself query).2.1⟩
    · rw [(hself a).2.2]
      exact id

theorem detach (h : Mirrors names q q' w w') : Mirrors names q q' (w.detach q) (w'.detach q') := by
  cases hq : w.query? q with
  | none =>
    rw [World.detach, World.detach, hq, h.query?_eq_none hq]
    exact h
  | some a =>
    obtain ⟨b, hq', hm⟩ := h.exists hq
    exact h.edit hq hq' (edits_detach hq) (edits_detach hq') (hm.attach rfl) id

/-- A subscriber comes in both worlds. -/
theorem subscribe (h : Mirrors names q q' w w') (hq : w.query? q = some a)
    (hid : names w.nextSubscription w'.nextSubscription) (subscriber subscriber' : Subscriber) :
    Mirrors names q q' (w.subscribe q subscriber).1 (w'.subscribe q' subscriber').1 := by
  obtain ⟨b, hq', hm⟩ := h.exists hq
  obtain ⟨attachment, he, hlinks⟩ := edits_subscribe hq subscriber
  obtain ⟨attachment', he', hlinks'⟩ := edits_subscribe hq' subscriber'
  have hcount : b.subscriberCount = a.subscriberCount := hm.congr fun _ _ _ => rfl
  have hstatus : b.status = a.status := hm.congr fun _ _ _ => rfl
  refine h.edit hq hq' he he' ((hm.withSubscriber hid subscriber subscriber').attach ?_) id
  rw [hlinks, hlinks', hcount, hstatus, hm.links, newLinks_congr h.posts h.stage]

/-- The registry is followed in both worlds. -/
theorem followRegistry (h : Mirrors names q q' w w') (hq : w.query? q = some a)
    (hq' : w'.query? q' = some b) (hm : a.Mirrors names b)
    (notice : RegistrationNotice ServiceId) :
    Mirrors names q q' (w.followRegistry q a notice).world
      (w'.followRegistry q' b notice).world := by
  obtain ⟨attachment, he, hlinks⟩ := edits_followRegistry hq notice
  obtain ⟨attachment', he', hlinks'⟩ := edits_followRegistry hq' notice
  refine h.edit hq hq' he he' (hm.attach ?_) id
  rw [hlinks, hlinks', hm.links, relink_congr h.posts]

/-- **What is not in use** is let go of in both worlds, the query in both or in none. -/
theorem release (h : Mirrors names q q' w w') {used used' : QueryId → Bool}
    (hused : used' q' = used q) (busInUse busInUse' : BusId → Bool) :
    Mirrors names q q' (w.release used busInUse) (w'.release used' busInUse') := by
  cases hq : w.query? q with
  | none =>
    have hnone : ∀ {w : World} {q} (used : QueryId → Bool), w.query? q = none →
        ∀ query, w.query? q = some query → query.alive = true → used q = true := by
      intro w q used hq query hquery
      rw [hq] at hquery
      cases hquery
    have hq' := h.query?_eq_none hq
    exact (h.left (leaves_release (hnone used hq) busInUse)).right
      (leaves_release (hnone used' hq') busInUse')
  | some a =>
    obtain ⟨b, hq', hm⟩ := h.exists hq
    have he' := edits_release hq' used' busInUse'
    rw [hused] at he'
    refine h.edit hq hq' (edits_release hq used busInUse) he' (hm.letGo (used q)) ?_
    intro hlive
    rw [Query.letGo] at hlive
    split at hlive
    · cases hlive
    · exact hlive

end Mirrors

/-- Corresponding members are taken out of corresponding lists. -/
theorem forall₂_eraseP {α β : Type} {R : α → β → Prop} {p : α → Bool} {p' : β → Bool} {l : List α}
    {l' : List β} (h : List.Forall₂ R l l') (hp : ∀ {x y}, R x y → p' y = p x) :
    l'.any p' = l.any p ∧ List.Forall₂ R (l.eraseP p) (l'.eraseP p') := by
  induction h with
  | nil => exact ⟨rfl, .nil⟩
  | @cons x y l l' hxy h ih =>
    obtain ⟨hany, hrest⟩ := ih
    refine ⟨?_, ?_⟩
    · rw [List.any_cons, List.any_cons, hany, hp hxy]
    · rw [List.eraseP_cons, List.eraseP_cons, hp hxy]
      cases p x with
      | true => exact h
      | false => exact .cons hxy hrest

/-- **A subscriber goes** in both worlds, or there is none in both. -/
theorem Mirrors.unsubscribe (h : Mirrors names q q' w w') {id id' : SubscriptionId}
    (hnames : ∀ {i i'}, names i i' → (i' = id' ↔ i = id)) :
    (w'.unsubscribe q' id').2 = (w.unsubscribe q id).2 ∧
      Mirrors names q q' (w.unsubscribe q id).1 (w'.unsubscribe q' id').1 := by
  cases hq : w.query? q with
  | none =>
    -- neither world has the query
    rw [World.unsubscribe, World.unsubscribe, hq, h.query?_eq_none hq]
    exact ⟨rfl, h⟩
  | some a =>
    obtain ⟨b, hq', hm⟩ := h.exists hq
    have hp : ∀ {v v' : SubscriptionId × Subscriber}, names v.1 v'.1 →
        (v'.1 == id') = (v.1 == id) := by
      intro v v' hv
      rw [Bool.eq_iff_iff, beq_iff_eq, beq_iff_eq]
      exact hnames hv
    obtain ⟨hany, hrest⟩ := forall₂_eraseP hm.subscribers hp
    cases hthere : a.subscribers.any fun s => s.1 == id with
    | false =>
      -- the subscription is in neither world
      rw [unsubscribe_of_not_any hq hthere, unsubscribe_of_not_any hq' (hany.trans hthere)]
      exact ⟨rfl, h⟩
    | true =>
      obtain ⟨hflag, he⟩ := edits_unsubscribe hq hthere
      obtain ⟨hflag', he'⟩ := edits_unsubscribe hq' (hany.trans hthere)
      refine ⟨hflag'.trans hflag.symm, h.edit hq hq' he he' ?_ fun hlive => hlive⟩
      -- as many subscribers are left in both, so both detach or neither does
      have hcount : b.subscriberCount = a.subscriberCount := hm.congr fun _ _ _ => rfl
      have hless : (a.withoutSubscriber id).Mirrors names (b.withoutSubscriber id') := by
        obtain ⟨subscribers, attachment, heq⟩ := hm.same
        refine ⟨⟨subscribers.eraseP fun s => s.1 == id', attachment, ?_⟩, hrest, hm.links⟩
        rw [heq]
        rfl
      refine hless.attach ?_
      rw [hcount]
      split
      · rfl
      · exact hm.links

/-! ### Announcements -/

/-- **A query is told once** by each source that it follows, and not at all by others. -/
theorem count_audience (h : w.Accounts) (hq : w.query? q = some query) (x : Source) :
    (w.audience x).count (.query q) = if query.watches x = true then 1 else 0 := by
  -- the query is registered with a source if it follows it
  have hholds : (∃ id, w.holds q x id) ↔ query.watches x = true := by
    simp only [holds_of_query? hq, Query.upstream]
    cases ha : query.attachment with
    | none => cases x <;> simp [Query.watches, Query.links?, ha]
    | some a =>
      cases x with
      | presence s =>
        simp only [Option.elim_some, Attachment.mem_subscriptions, Source.presence.injEq,
          reduceCtorEq, false_and, or_false, Query.watches, Query.links?, ha, Option.map_some,
          Attachment.links, List.any_map, List.any_eq_true, Function.comp_apply, beq_iff_eq]
        constructor
        · rintro ⟨id, link, hl, heq, -⟩
          exact ⟨link, hl, heq.symm⟩
        · rintro ⟨link, hl, heq⟩
          exact ⟨link.subscription, link, hl, heq.symm, rfl⟩
      | rooms | providers | registrations =>
        simp [Query.watches, Query.links?, ha, Attachment.mem_subscriptions]
  rw [audience]
  cases hfeed : w.feed? x with
  | none =>
    -- a source that is not there is not followed
    have hnot : ¬ query.watches x = true := by
      rw [← hholds]
      rintro ⟨id, hid⟩
      obtain ⟨f, hf, -⟩ := h.registers.listed hid
      rw [hfeed] at hf
      cases hf
    rw [if_neg hnot]
    rfl
  | some f =>
    rw [Option.elim_some]
    -- it is registered at most once
    rcases h.registers.count_audience hfeed q with ⟨hone, hex⟩ | ⟨hzero, hnot⟩
    · rw [hone, if_pos (hholds.mp hex)]
    · rw [hzero, if_neg (mt hholds.mpr hnot)]

/-- In both worlds the query is told by the same sources. -/
theorem Mirrors.count_audience (h : Mirrors names q q' w w') (haccounts : w.Accounts)
    (haccounts' : w'.Accounts) (x : Source) :
    (w'.audience x).count (.query q') = (w.audience x).count (.query q) := by
  cases hq : w.query? q with
  | none =>
    have hzero : ∀ {w : World} {q}, w.Accounts → w.query? q = none →
        (w.audience x).count (.query q) = 0 := by
      intro w q haccounts hq
      rw [audience]
      cases hfeed : w.feed? x with
      | none => rfl
      | some f =>
        have hcount := haccounts.registers.count_audience hfeed q
        rcases hcount with ⟨-, id, query, hquery, -⟩ | ⟨hzero, -⟩
        · rw [hq] at hquery
          cases hquery
        · exact hzero
    rw [hzero haccounts hq, hzero haccounts' (h.query?_eq_none hq)]
  | some a =>
    obtain ⟨b, hq', hm⟩ := h.exists hq
    have hwatches : b.watches x = a.watches x := by
      cases x <;> simp only [Query.watches, hm.links]
    rw [World.count_audience haccounts hq, World.count_audience haccounts' hq', hwatches]

end World

end RoomSearch
