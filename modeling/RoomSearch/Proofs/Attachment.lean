import Mathlib.Algebra.GroupWithZero.Nat
import RoomSearch.Proofs.Session.History

/-!
# Who is subscribed to what

At every moment of every history the subscriptions of a query can be read off its subscribers: it is
attached while it has subscribers and has not been canceled, an attached query is found once on each
of the three common sources and once on each presence channel that it has a link to, and a query
that nothing refers to is found nowhere.

## Main definitions

* `World.listeners` — how often a query is found on a source.
* `Query.linksTo` — whether a query has a link to the presence channel of a service.

## Main results

* `World.Accounts.listeners_eq` — a query is found on a source once or not at all.
* `World.Accounts.presenceCount_eq` — the presence links of a query are counted by the channels.
* `Session.attachment_accounts` — **the accounts of attachments** hold at every moment.
-/

namespace RoomSearch

/-- Whether a query has a link to the presence channel of a service. -/
def Query.linksTo (query : Query) (s : ServiceId) : Bool :=
  query.attachment.elim false fun a => a.presence.any fun link => link.service == s

namespace World

/-- How often a query is found on a source. -/
def listeners (w : World) (x : Source) (q : QueryId) : Nat := (w.audience x).count (.query q)

namespace Accounts

variable {w : World} {q : QueryId} {query : Query}

/-- **A query is found on a source once**, if it is subscribed to it, and otherwise not at all. -/
theorem listeners_eq (h : w.Accounts) (hq : w.query? q = some query) (x : Source) :
    w.listeners x q = 1 ∧ (∃ id, (x, id) ∈ query.upstream) ∨
      w.listeners x q = 0 ∧ ¬ ∃ id, (x, id) ∈ query.upstream := by
  have hholds : (∃ id, w.holds q x id) ↔ ∃ id, (x, id) ∈ query.upstream :=
    exists_congr fun id => holds_of_query? hq x id
  rw [← hholds, listeners, audience]
  cases hf : w.feed? x with
  | none =>
    refine .inr ⟨rfl, ?_⟩
    rintro ⟨id, hown⟩
    obtain ⟨f, hf', -⟩ := h.registers.listed hown
    rw [hf] at hf'
    cases hf'
  | some f => exact h.registers.count_audience hf q

theorem listeners_eq_ite (h : w.Accounts) (hq : w.query? q = some query) (x : Source) {b : Bool}
    (hb : b = true ↔ ∃ id, (x, id) ∈ query.upstream) :
    w.listeners x q = if b then 1 else 0 := by
  rcases h.listeners_eq hq x with ⟨hone, hex⟩ | ⟨hzero, hnot⟩
  · rw [hone, if_pos (hb.mpr hex)]
  · rw [hzero, if_neg fun htrue => hnot (hb.mp htrue)]

/-- An attached query is subscribed to the three sources that all queries have in common. -/
theorem isAttached_iff {x : Source} (hx : x ∈ [Source.rooms, .providers, .registrations]) :
    query.isAttached = true ↔ ∃ id, (x, id) ∈ query.upstream := by
  rw [Query.isAttached, Query.upstream]
  cases query.attachment with
  | none =>
    refine iff_of_false Bool.false_ne_true ?_
    rintro ⟨id, hmem⟩
    cases hmem
  | some a =>
    refine iff_of_true rfl ?_
    simp only [List.mem_cons, List.not_mem_nil, or_false] at hx
    rcases hx with rfl | rfl | rfl
    · exact ⟨a.rooms, Attachment.mem_subscriptions.mpr (.inr (.inl ⟨rfl, rfl⟩))⟩
    · exact ⟨a.providers, Attachment.mem_subscriptions.mpr (.inr (.inr (.inl ⟨rfl, rfl⟩)))⟩
    · exact ⟨a.registrations, Attachment.mem_subscriptions.mpr (.inr (.inr (.inr ⟨rfl, rfl⟩)))⟩

theorem linksTo_iff {s : ServiceId} :
    query.linksTo s = true ↔ ∃ id, (Source.presence s, id) ∈ query.upstream := by
  rw [Query.linksTo, Query.upstream]
  cases query.attachment with
  | none =>
    refine iff_of_false Bool.false_ne_true ?_
    rintro ⟨id, hmem⟩
    cases hmem
  | some a =>
    simp only [Option.elim_some, List.any_eq_true, beq_iff_eq]
    constructor
    · rintro ⟨link, hl, rfl⟩
      exact ⟨link.subscription, Attachment.mem_subscriptions.mpr (.inl ⟨link, hl, rfl, rfl⟩)⟩
    · rintro ⟨id, hmem⟩
      rcases Attachment.mem_subscriptions.mp hmem with ⟨link, hl, hx, -⟩ | hx | hx | hx
      · cases hx
        exact ⟨link, hl, rfl⟩
      all_goals cases hx.1

/-! ### Counting presence links -/

theorem sum_map_toNat {α : Type} (l : List α) (p : α → Bool) :
    (l.map fun x => if p x then 1 else 0).sum = (l.filter p).length := by
  induction l with
  | nil => rfl
  | cons x rest ih =>
    rw [List.map_cons, List.sum_cons, ih, List.filter_cons]
    split
    · rw [List.length_cons, Nat.add_comm]
    · rw [Nat.zero_add]

/-- The services that a query has links to are as many as its links. -/
theorem length_filter_linksTo (h : w.Accounts) (hq : w.query? q = some query) :
    (w.services.filter fun service => query.linksTo service.id).length = query.presenceCount := by
  rw [Query.presenceCount]
  cases ha : query.attachment with
  | none =>
    have hnone : ∀ service ∈ w.services, ¬ query.linksTo service.id = true := by
      intro service _
      rw [Query.linksTo, ha]
      exact Bool.false_ne_true
    rw [List.filter_eq_nil_iff.mpr hnone]
    rfl
  | some a =>
    have hfit := h.fits hq ha
    have hids : (w.services.map Service.id).Nodup := by
      refine List.pairwise_map.mpr (h.sorted.imp fun {a b} hlt heq => ?_)
      have hkey : a.key = b.key := congrArg ServiceId.text heq
      rw [hkey] at hlt
      exact String.lt_irrefl _ hlt
    -- both sides name the same services, each once
    have hperm : ((w.services.filter fun service => query.linksTo service.id).map Service.id).Perm
        (a.presence.map PresenceLink.service) := by
      refine (List.perm_ext_iff_of_nodup ?_ hfit.nodup_services).mpr fun s => ?_
      · exact hids.sublist (List.filter_sublist.map _)
      · simp only [List.mem_map, List.mem_filter, Query.linksTo, ha, Option.elim_some,
          List.any_eq_true, beq_iff_eq]
        constructor
        · rintro ⟨service, ⟨-, link, hl, heq⟩, rfl⟩
          exact ⟨link, hl, heq⟩
        · rintro ⟨link, hl, rfl⟩
          obtain ⟨service, hservice, -⟩ := Option.map_eq_some_iff.mp (hfit.provided link hl)
          have hid := id_of_service? hservice
          exact ⟨service, ⟨Keyed.mem_of_find? hservice, link, hl, hid.symm⟩, hid⟩
    have hlen := hperm.length_eq
    rwa [List.length_map, List.length_map] at hlen

/-- **The presence links of a query** are counted by the presence channels. -/
theorem presenceCount_eq (h : w.Accounts) (hq : w.query? q = some query) :
    query.presenceCount =
      (w.services.map fun service => w.listeners (.presence service.id) q).sum := by
  rw [← h.length_filter_linksTo hq, ← sum_map_toNat]
  congr 1
  refine List.map_congr_left fun service _ => ?_
  exact (h.listeners_eq_ite hq _ linksTo_iff).symm

/-! ### Ending subscriptions -/

/-- **When a query ends its subscriptions** one after the other, each of them is still listed under
its name when its turn comes. -/
theorem listed_unwatchAll (h : w.Accounts) (hq : w.query? q = some query)
    {before after : List (Source × SubscriptionId)} {x : Source} {id : SubscriptionId}
    (hsplit : query.upstream = before ++ (x, id) :: after) :
    ∃ feed, (w.unwatchAll before).feed? x = some feed ∧ (id, .query q) ∈ feed.watchers := by
  have hnodup : query.upstream.Nodup := by
    rw [Query.upstream]
    cases ha : query.attachment with
    | none => exact List.nodup_nil
    | some a => exact (h.fits hq ha).nodup_subscriptions
  rw [hsplit, List.nodup_append] at hnodup
  have hown : ∀ s ∈ before, w.holds q s.1 s.2 := by
    intro s hs
    rw [holds_of_query? hq, hsplit]
    exact List.mem_append_left _ hs
  refine (h.registers.unwatchAll hnodup.1 hown).listed ⟨?_, ?_⟩
  · rw [holds_of_query? hq, hsplit]
    exact List.mem_append_right _ List.mem_cons_self
  · intro hmem
    exact hnodup.2.2 _ hmem _ List.mem_cons_self rfl

end Accounts

/-- The subscriptions of a query, as they can be read off its subscribers. -/
structure Balanced (w : World) (q : QueryId) (query : Query) : Prop where
  /-- The counter counts the subscribers. -/
  counted : query.subscriberCount = query.subscribers.length
  /-- Their identities are pairwise distinct. -/
  distinct : (query.subscribers.map Prod.fst).Nodup
  /-- The query is attached while it has subscribers and has not been canceled. -/
  attached : query.isAttached = true ↔ 0 < query.subscriberCount ∧ query.status ≠ .canceled
  /-- An attached query is found once on each common source, and any other on none of them. -/
  common : ∀ x ∈ [Source.rooms, .providers, .registrations],
    w.listeners x q = if query.isAttached then 1 else 0
  /-- A query is found once on each presence channel that it has a link to, and on no other. -/
  presence : ∀ s, w.listeners (.presence s) q = if query.linksTo s then 1 else 0
  /-- The presence links are counted by the channels. -/
  total : query.presenceCount =
    (w.services.map fun service => w.listeners (.presence service.id) q).sum
  /-- Each subscription that the query can ask to end is listed under its name. -/
  live : ∀ {x id}, (x, id) ∈ query.upstream →
    ∃ feed, w.feed? x = some feed ∧ (id, .query q) ∈ feed.watchers
  /-- Detaching the query is asking to end all of them, one after the other. -/
  detaching : ∀ x, (w.detach q).feed? x = (w.unwatchAll query.upstream).feed? x
  /-- Each of them is still listed when its turn comes. -/
  ending : ∀ {before x id after}, query.upstream = before ++ (x, id) :: after →
    ∃ feed, (w.unwatchAll before).feed? x = some feed ∧ (id, .query q) ∈ feed.watchers

/-- A world whose accounts balance is balanced for every query. -/
theorem Accounts.balanced {w : World} {q : QueryId} {query : Query} (h : w.Accounts)
    (hq : w.query? q = some query) : w.Balanced q query where
  counted := (h.consistent hq).counted
  distinct := (h.consistent hq).distinct
  attached := by
    rw [Query.isAttached, (h.consistent hq).attached, (h.consistent hq).counted,
      List.length_pos_iff]
  common x hx := h.listeners_eq_ite hq x (isAttached_iff hx)
  presence s := h.listeners_eq_ite hq _ linksTo_iff
  total := h.presenceCount_eq hq
  live hmem := h.registers.listed ((holds_of_query? hq _ _).mpr hmem)
  detaching x := by
    cases ha : query.attachment with
    | none =>
      rw [detach_of_none hq ha, Query.upstream, ha]
      rfl
    | some a =>
      rw [detach_eq hq ha, feed?_modifyQuery, Query.upstream, ha]
      rfl
  ending hsplit := h.listed_unwatchAll hq hsplit

end World

namespace Session

variable {s : Session}

/-- A query that is not in use has no attachment. -/
theorem Sound.listeners_eq_zero (h : s.Sound) {q : QueryId} (hunused : s.usesQuery q = false)
    (x : Source) : s.world.listeners x q = 0 := by
  cases hq : s.world.query? q with
  | none =>
    rw [World.listeners, World.audience]
    cases hf : s.world.feed? x with
    | none => rfl
    | some f =>
      apply List.count_eq_zero.mpr
      intro hmem
      obtain ⟨⟨id, v⟩, hv, rfl⟩ := List.mem_map.mp hmem
      obtain ⟨query, hquery, -⟩ := h.accounts.registers.owned hf hv
      rw [hq] at hquery
      cases hquery
  | some query =>
    have hdead : query.alive = false := by
      apply Bool.eq_false_iff.mpr
      intro halive
      rw [h.used hq halive] at hunused
      cases hunused
    have hcons := h.accounts.consistent hq
    have hnone : query.attachment = none :=
      hcons.attachment_eq_none fun hand => hand.1 (hcons.gone hdead)
    rcases h.accounts.listeners_eq hq x with ⟨-, id, hmem⟩ | ⟨hzero, -⟩
    · rw [Query.upstream, hnone] at hmem
      cases hmem
    · exact hzero

/-- **The accounts of attachments** hold at every moment of every history: the subscriptions of each
query can be read off its subscribers, a query that nothing refers to is found nowhere, and every
request to end a subscription has ended one. -/
theorem attachment_accounts (h : Reachable Unrestricted s) :
    (∀ {q query}, s.world.query? q = some query → s.world.Balanced q query) ∧
      (∀ {q}, s.usesQuery q = false → ∀ x, s.world.listeners x q = 0) ∧
      (∀ {x feed}, s.world.feed? x = some feed →
        feed.subscribed = feed.watchers.length + feed.unsubscribed) := by
  have hsound := sound_of_reachable h
  refine ⟨fun hq => hsound.accounts.balanced hq, ?_, ?_⟩
  · intro q hunused x
    exact hsound.listeners_eq_zero hunused x
  · intro x feed hfeed
    exact hsound.accounts.registers.paired hfeed

theorem attachment_accounts_searched : Reachable Unrestricted searched ∧
    (∃ query, searched.world.query? ⟨0⟩ = some query ∧ searched.world.Balanced ⟨0⟩ query) ∧
      searched.world.listeners .rooms ⟨0⟩ = 1 := by
  have hreachable := reachable_searched.unrestricted
  obtain ⟨hbalanced, -, -⟩ := attachment_accounts hreachable
  obtain ⟨query, hq, hattached⟩ : ∃ query, searched.world.query? ⟨0⟩ = some query ∧
      query.isAttached = true := ⟨_, rfl, rfl⟩
  refine ⟨hreachable, ⟨query, hq, hbalanced hq⟩, ?_⟩
  rw [(hbalanced hq).common .rooms (by simp), if_pos hattached]

end Session

end RoomSearch
