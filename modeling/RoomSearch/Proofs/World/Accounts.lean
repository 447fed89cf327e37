import RoomSearch.Proofs.World.Rewiring

/-!
# The accounts of a world

The accounts of a world balance when every query counts its subscribers rightly, is attached exactly
when it should be, and holds exactly the subscriptions that the feeds list for it.  A change that
concerns one query is judged by that query alone: this is `Accounts.amend`, from which the
operations on subscribers, cancelation and letting go all follow.

## Main definitions

* `World.holds` — which subscriptions the queries of a world hold.
* `Query.Consistent` — a query agrees with itself.
* `Query.SameTies` — nothing is different about the subscriptions of a query.
* `World.Accounts` — the accounts balance.
* `World.Amends` — a change of one query that keeps the accounts balanced.

## Main results

* `Accounts.amend` — how such a change is recognized.
* `Accounts.subscribe`, `Accounts.unsubscribe`, `Accounts.cancel`, `Accounts.retire`,
  `Accounts.followRegistry` — the operations keep the accounts balanced.
-/

namespace RoomSearch

/-- The part of a query that has to do with subscriptions agrees with itself. -/
structure Query.Consistent (query : Query) : Prop where
  /-- The counter counts the subscribers. -/
  counted : query.subscriberCount = query.subscribers.length
  /-- The query is attached while it has subscribers and has not been canceled. -/
  attached : query.attachment.isSome = true ↔ query.subscribers ≠ [] ∧ query.status ≠ .canceled
  /-- No identity is given to two subscribers. -/
  distinct : (query.subscribers.map Prod.fst).Nodup
  /-- A query that nothing refers to has no subscribers. -/
  gone : query.alive = false → query.subscribers = []

/-- Two states of a query are the same as far as its subscribers and subscriptions go. -/
structure Query.SameTies (a b : Query) : Prop where
  subscribers : b.subscribers = a.subscribers
  subscriberCount : b.subscriberCount = a.subscriberCount
  attachment : b.attachment = a.attachment
  alive : b.alive = a.alive
  matcher : b.matcher = a.matcher
  canceled : b.status = .canceled ↔ a.status = .canceled
  started : a.started = true → b.started = true

/-- A query that should not be attached is not. -/
theorem Query.Consistent.attachment_eq_none {query : Query} (h : query.Consistent)
    (hnot : ¬ (query.subscribers ≠ [] ∧ query.status ≠ .canceled)) : query.attachment = none := by
  rw [← Option.not_isSome_iff_eq_none, h.attached]
  exact hnot

theorem Query.Consistent.of_sameTies {a b : Query} (h : a.Consistent) (hties : a.SameTies b) :
    b.Consistent where
  counted := by rw [hties.subscriberCount, hties.subscribers, h.counted]
  attached := by rw [hties.attachment, hties.subscribers, h.attached, ne_eq, ne_eq, ne_eq,
    hties.canceled]
  distinct := by
    rw [hties.subscribers]
    exact h.distinct
  gone := by
    rw [hties.alive, hties.subscribers]
    exact h.gone

/-- The same query with one more subscriber. -/
def Query.withSubscriber (query : Query) (id : SubscriptionId) (subscriber : Subscriber) : Query :=
  { query with
    subscribers := query.subscribers ++ [(id, subscriber)]
    subscriberCount := query.subscriberCount + 1 }

/-- The same query without a subscriber. -/
def Query.withoutSubscriber (query : Query) (id : SubscriptionId) : Query :=
  { query with
    subscribers := query.subscribers.eraseP fun s => s.1 == id
    subscriberCount := query.subscriberCount - 1 }

namespace World

/-- Which subscriptions the queries of a world hold. -/
def holds (w : World) : Ownership :=
  fun q x id => ∃ query, w.query? q = some query ∧ (x, id) ∈ query.upstream

theorem holds_of_query? {w : World} {q : QueryId} {query : Query} (h : w.query? q = some query)
    (x : Source) (id : SubscriptionId) : w.holds q x id ↔ (x, id) ∈ query.upstream := by
  constructor
  · rintro ⟨query', hq', hmem⟩
    rw [h] at hq'
    cases hq'
    exact hmem
  · intro hmem
    exact ⟨query, h, hmem⟩

/-- What a query holds can be put in place of itself. -/
theorem replace_upstream {w : World} {q : QueryId} {query : Query} (h : w.query? q = some query)
    (p : QueryId) (x : Source) (id : SubscriptionId) :
    w.holds.replace q query.upstream p x id ↔ w.holds p x id := by
  by_cases hp : p = q
  · subst hp
    rw [Ownership.replace_self, holds_of_query? h]
  · rw [Ownership.replace_of_ne hp]

/-- The accounts of a world balance. -/
structure Accounts (w : World) : Prop where
  /-- The feeds list what the queries hold. -/
  registers : w.Registers w.holds
  /-- Every query agrees with itself. -/
  consistent : ∀ {q query}, w.query? q = some query → query.Consistent
  /-- Presence links are told apart by providers. -/
  fits : ∀ {q query a}, w.query? q = some query → query.attachment = some a → a.Fits w
  /-- Subscribers have identities that have been given out. -/
  given : ∀ {q query v}, w.query? q = some query → v ∈ query.subscribers →
    v.1.number < w.nextSubscription.number
  /-- A subscriber belongs to one query. -/
  apart : ∀ {q p query other v v'}, w.query? q = some query → w.query? p = some other →
    v ∈ query.subscribers → v' ∈ other.subscribers → v.1 = v'.1 → q = p
  /-- Services are in order. -/
  sorted : Keyed.Sorted Service.key w.services

/-- From `w` to `w'` the query `q` has become `query'`, apart from its attachment, and the accounts
balance again. -/
structure Amends (w w' : World) (q : QueryId) (query' : Query) : Prop where
  /-- The accounts balance afterwards. -/
  accounts : w'.Accounts
  /-- Everything else is as before. -/
  rewires : Rewires q w w'
  /-- What has become of the query. -/
  found : ∃ a, w'.query? q = some { query' with attachment := a }

/-! ### A change of one query -/

namespace Accounts

variable {w w' : World} {q : QueryId} {query query' : Query}

/-- What the query holds, seen from the ownership without it. -/
theorem registers_replace (h : w.Accounts) (hq : w.query? q = some query) :
    w.Registers (w.holds.replace q query.upstream) :=
  h.registers.of_iff (replace_upstream hq)

/-- **A change of one query** keeps the accounts balanced if they balance for that query.  Its
subscribers are old, or have new identities. -/
theorem amend {a : Option Attachment} (h : w.Accounts) (hq : w.query? q = some query)
    (hr : Rewires q w w') (hq' : w'.query? q = some { query' with attachment := a })
    (hreg : w'.Registers (w.holds.replace q (a.elim [] Attachment.subscriptions)))
    (hcons : { query' with attachment := a }.Consistent) (hfits : ∀ b, a = some b → b.Fits w')
    (hsub : ∀ v ∈ query'.subscribers, v ∈ query.subscribers ∨
      w.nextSubscription.number ≤ v.1.number ∧ v.1.number < w'.nextSubscription.number) :
    w.Amends w' q query' := by
  -- a subscriber of another query has another identity
  have hother : ∀ {p other v v'}, p ≠ q → w.query? p = some other → v ∈ query'.subscribers →
      v' ∈ other.subscribers → v.1 ≠ v'.1 := by
    intro p other v v' hpq hp hv hv' heq
    rcases hsub v hv with hold | ⟨hnew, -⟩
    · exact hpq (h.apart hq hp hold hv' heq).symm
    · have hlt := h.given hp hv'
      rw [← heq] at hlt
      exact Nat.not_lt.mpr hnew hlt
  -- a query afterwards is the one that has changed, or it was there before
  have hwhich : ∀ {p new}, w'.query? p = some new →
      p = q ∧ new = { query' with attachment := a } ∨ p ≠ q ∧ w.query? p = some new := fun hp =>
    eq_or_query?_of_others (fun hne => (hr.others hne).symm) hq' hp
  refine ⟨⟨?_, ?_, ?_, ?_, ?_, hr.sorted h.sorted⟩, hr, a, hq'⟩
  · -- the query holds what it is given, the others what they held
    apply hreg.of_iff
    intro p x id
    by_cases hp : p = q
    · subst hp
      rw [holds_of_query? hq', Ownership.replace_self, Query.upstream]
    · rw [Ownership.replace_of_ne hp, holds, holds, hr.others hp]
  · intro p query hp
    rcases hwhich hp with ⟨rfl, rfl⟩ | ⟨-, hp⟩
    · exact hcons
    · exact h.consistent hp
  · intro p query b hp hb
    rcases hwhich hp with ⟨rfl, rfl⟩ | ⟨-, hp⟩
    · exact hfits b hb
    · exact (h.fits hp hb).of_rewires hr
  · -- all identities have been given out
    intro p query v hp hv
    rcases hwhich hp with ⟨rfl, rfl⟩ | ⟨-, hp⟩
    · rcases hsub v hv with hold | ⟨-, hlt⟩
      · exact Nat.lt_of_lt_of_le (h.given hq hold) hr.next
      · exact hlt
    · exact Nat.lt_of_lt_of_le (h.given hp hv) hr.next
  · -- no identity belongs to two queries
    intro p p' old other v v' hp hp' hv hv' heq
    rcases hwhich hp with ⟨rfl, rfl⟩ | ⟨hpq, hp⟩
    · rcases hwhich hp' with ⟨rfl, rfl⟩ | ⟨hpq', hp'⟩
      · rfl
      · exact absurd heq (hother hpq' hp' hv hv')
    · rcases hwhich hp' with ⟨rfl, rfl⟩ | ⟨-, hp'⟩
      · exact absurd heq.symm (hother hpq hp hv' hv)
      · exact h.apart hp hp' hv hv' heq

/-- A change of a query that leaves its attachment alone and brings no subscriber. -/
theorem modifyQuery (h : w.Accounts) (hq : w.query? q = some query) {f : Query → Query}
    (hatt : (f query).attachment = query.attachment) (hcons : (f query).Consistent)
    (hsub : (f query).subscribers ⊆ query.subscribers) :
    w.Amends (w.modifyQuery q f) q (f query) := by
  refine h.amend hq (.modifyQuery ..) (query?_modifyQuery_self f hq) ?_ hcons ?_
    fun v hv => .inl (hsub hv)
  · rw [hatt]
    exact (h.registers_replace hq).of_feeds_eq (fun _ => feed?_modifyQuery ..) rfl
  · intro a ha
    rw [hatt] at ha
    exact (h.fits hq ha).of_rewires (.modifyQuery ..)

/-- A change of what has nothing to do with subscriptions. -/
theorem edit (h : w.Accounts) {f : Query → Query}
    (hf : ∀ query, w.query? q = some query → query.SameTies (f query)) :
    (w.modifyQuery q f).Accounts := by
  cases hq : w.query? q with
  | none => rwa [modifyQuery_of_none hq]
  | some query =>
    have hties := hf query hq
    refine (h.modifyQuery hq hties.attachment ((h.consistent hq).of_sameTies hties) ?_).accounts
    exact fun v hv => hties.subscribers ▸ hv

/-- A world in which nothing is different that has to do with subscriptions. -/
theorem of_eq (h : w.Accounts) (hqueries : w'.queries = w.queries)
    (hfeed : ∀ x, w'.feed? x = w.feed? x) (hservices : w'.services = w.services)
    (hnext : w'.nextSubscription = w.nextSubscription) : w'.Accounts where
  registers := by
    refine (h.registers.of_feeds_eq hfeed hnext).of_iff ?_
    intro q x id
    rw [holds, holds, query?_of_queries_eq hqueries]
  consistent hq := h.consistent (query?_of_queries_eq hqueries _ ▸ hq)
  fits hq ha := by
    have hfit := h.fits (query?_of_queries_eq hqueries _ ▸ hq) ha
    refine ⟨hfit.distinct, ?_⟩
    intro link hl
    rw [providerOf?, service?, hservices]
    exact hfit.provided link hl
  given hq hv := by
    rw [hnext]
    exact h.given (query?_of_queries_eq hqueries _ ▸ hq) hv
  apart hq hp := by
    rw [query?_of_queries_eq hqueries] at hq hp
    exact h.apart hq hp
  sorted := by
    rw [hservices]
    exact h.sorted

/-! ### Subscribers -/

/-- The identity to come is given to no subscriber yet. -/
theorem fresh (h : w.Accounts) (hq : w.query? q = some query) :
    w.nextSubscription ∉ query.subscribers.map Prod.fst := by
  intro hmem
  obtain ⟨v, hv, heq⟩ := List.mem_map.mp hmem
  exact Nat.lt_irrefl _ (heq ▸ h.given hq hv)

/-- An identity that is given out and not used. -/
theorem freshSubscription (h : w.Accounts) : w.freshSubscription.1.Accounts where
  registers := h.registers.of_feeds (fun _ => .inl rfl) (Nat.le_succ _)
  consistent := h.consistent
  fits hq ha := ⟨(h.fits hq ha).distinct, (h.fits hq ha).provided⟩
  given hq hv := Nat.lt_succ_of_lt (h.given hq hv)
  apart := h.apart
  sorted := h.sorted

/-- A query that nothing else happens to is told apart from its attachment only. -/
theorem amend_refl (h : w.Accounts) (hq : w.query? q = some query) : w.Amends w q query :=
  ⟨h, .refl q w, _, hq⟩

/-- With one more subscriber a query agrees with itself if it is attached by now, unless it has been
canceled. -/
theorem consistent_withSubscriber (h : w.Accounts) (hq : w.query? q = some query)
    (halive : query.alive = true) (subscriber : Subscriber) {a : Option Attachment}
    (hattached : a.isSome = true ↔ query.status ≠ .canceled) :
    { query.withSubscriber w.nextSubscription subscriber with attachment := a }.Consistent where
  counted := by
    show query.subscriberCount + 1 = (query.subscribers ++ [_]).length
    rw [(h.consistent hq).counted, List.length_append, List.length_singleton]
  attached := by
    have hne : query.subscribers ++ [(w.nextSubscription, subscriber)] ≠ [] :=
      List.append_ne_nil_of_right_ne_nil _ (List.cons_ne_nil _ _)
    exact hattached.trans (and_iff_right hne).symm
  distinct := by
    show ((query.subscribers ++ [_]).map Prod.fst).Nodup
    rw [List.map_append, List.map_singleton, ← List.concat_eq_append]
    exact (h.consistent hq).distinct.concat (h.fresh hq)
  gone hdead := by
    have hcontra : query.alive = false := hdead
    rw [halive] at hcontra
    cases hcontra

/-- The subscriber that comes has a new identity. -/
theorem old_or_new_of_withSubscriber (subscriber : Subscriber) {n : Nat}
    (hn : w.nextSubscription.number < n) :
    ∀ v ∈ (query.withSubscriber w.nextSubscription subscriber).subscribers,
      v ∈ query.subscribers ∨ w.nextSubscription.number ≤ v.1.number ∧ v.1.number < n := by
  intro v hv
  rcases List.mem_append.mp hv with hv | hv
  · exact .inl hv
  · rw [List.mem_singleton.mp hv]
    exact .inr ⟨Nat.le_refl _, hn⟩

theorem subscribe_eq (hq : w.query? q = some query) (subscriber : Subscriber) :
    (w.subscribe q subscriber).1 =
      if query.subscriberCount + 1 = 1 ∧ query.status ≠ .canceled then
        (w.freshSubscription.1.modifyQuery q fun query =>
          query.withSubscriber w.nextSubscription subscriber).attach q
      else w.freshSubscription.1.modifyQuery q fun query =>
        query.withSubscriber w.nextSubscription subscriber := by
  have hq' : w.freshSubscription.1.query? q = some query := hq
  simp only [World.subscribe, query?_modifyQuery_self _ hq']
  split <;> rfl

/-- **A new subscriber** of a query that is alive: the first one attaches the query. -/
theorem subscribe (h : w.Accounts) (hq : w.query? q = some query) (halive : query.alive = true)
    (subscriber : Subscriber) : w.Amends (w.subscribe q subscriber).1 q
      (query.withSubscriber w.nextSubscription subscriber) := by
  have hq' : w.freshSubscription.1.query? q = some query := hq
  have hcons := h.consistent hq
  have hfound : (w.freshSubscription.1.modifyQuery q fun query =>
      query.withSubscriber w.nextSubscription subscriber).query? q =
      some (query.withSubscriber w.nextSubscription subscriber) := query?_modifyQuery_self _ hq'
  have hrew : Rewires q w (w.freshSubscription.1.modifyQuery q fun query =>
      query.withSubscriber w.nextSubscription subscriber) :=
    .trans (.freshSubscription q w) (.modifyQuery ..)
  have hreg := h.freshSubscription.registers_replace hq'
  rw [subscribe_eq hq]
  split
  · next hfirst =>
    -- the first subscriber: nothing was attached before
    obtain ⟨hcount, hstatus⟩ := hfirst
    have hlen := hcons.counted
    have hnil : query.subscribers = [] := List.length_eq_zero_iff.mp (by omega)
    have hnone : query.attachment = none := hcons.attachment_eq_none fun hand => hand.1 hnil
    rw [Query.upstream, hnone, Option.elim_none] at hreg
    obtain ⟨a, hquery, hown, hfits, hrew'⟩ := attach_spec
      (hreg.of_feeds_eq (fun _ => feed?_modifyQuery ..) rfl) hfound hnone
    have hnew := Nat.lt_of_lt_of_le (Nat.lt_succ_self _) hrew'.next
    refine h.amend hq (hrew.trans hrew') hquery hown ?_ ?_
      (old_or_new_of_withSubscriber subscriber hnew)
    · exact h.consistent_withSubscriber hq halive subscriber (iff_of_true rfl hstatus)
    · rintro a' ha'
      cases ha'
      exact hfits
  · next hlater =>
    -- either there were subscribers before, or the query has been canceled
    have hattached : query.attachment.isSome = true ↔ query.status ≠ .canceled := by
      rw [hcons.attached]
      refine and_iff_right_of_imp fun hstatus hnil => hlater ⟨?_, hstatus⟩
      rw [hcons.counted, hnil]
      rfl
    refine h.amend hq hrew hfound (hreg.of_feeds_eq (fun _ => feed?_modifyQuery ..) rfl) ?_ ?_
      (old_or_new_of_withSubscriber subscriber (Nat.lt_succ_self _))
    · exact h.consistent_withSubscriber hq halive subscriber hattached
    · exact fun b hb => ⟨(h.fits hq hb).distinct, (h.fits hq hb).provided⟩

/-- A query that is detached after a change which has left its attachment alone. -/
theorem detach (h : w.Accounts) (hq : w.query? q = some query) {f : Query → Query}
    (hatt : (f query).attachment = query.attachment) :
    ((w.modifyQuery q f).detach q).query? q = some { f query with attachment := none } ∧
      ((w.modifyQuery q f).detach q).Registers (w.holds.replace q []) ∧
      Rewires q w ((w.modifyQuery q f).detach q) := by
  have hup : (f query).upstream = query.upstream := by rw [Query.upstream, hatt, Query.upstream]
  have hreg : (w.modifyQuery q f).Registers (w.holds.replace q (f query).upstream) := by
    rw [hup]
    exact (h.registers_replace hq).of_feeds_eq (fun _ => feed?_modifyQuery ..) rfl
  obtain ⟨hquery, hown, hrew⟩ := detach_spec hreg (query?_modifyQuery_self f hq) fun a ha =>
    (h.fits hq (hatt ▸ ha)).of_rewires (.modifyQuery ..)
  exact ⟨hquery, hown, .trans (.modifyQuery ..) hrew⟩

/-- **A subscriber that goes**: the last one detaches the query. -/
theorem unsubscribe (h : w.Accounts) (hq : w.query? q = some query) {id : SubscriptionId}
    (hany : (query.subscribers.any fun s => s.1 == id) = true) :
    w.Amends (w.unsubscribe q id).1 q (query.withoutSubscriber id) := by
  have hcons := h.consistent hq
  obtain ⟨v, hv, hid⟩ := List.any_eq_true.mp hany
  obtain ⟨rest, hrest⟩ : ∃ rest, rest = query.subscribers.eraseP fun s => s.1 == id := ⟨_, rfl⟩
  have hsub : rest.Sublist query.subscribers := hrest ▸ List.eraseP_sublist
  have hpos : 0 < query.subscribers.length := List.length_pos_of_mem hv
  have hcounted : query.subscriberCount - 1 = rest.length := by
    rw [hrest, List.length_eraseP_of_mem hv hid, hcons.counted]
  have hnodup : (rest.map Prod.fst).Nodup := hcons.distinct.sublist (hsub.map _)
  have hdead : query.alive = false → rest = [] :=
    fun hdead => List.sublist_nil.mp (hcons.gone hdead ▸ hsub)
  simp only [World.unsubscribe, hq, hany, if_true]
  rw [Query.withoutSubscriber, ← hrest]
  split
  · next hlast =>
    -- the last one: the query holds nothing afterwards
    have hnil : rest = [] := List.length_eq_zero_iff.mp (hcounted.symm.trans hlast)
    obtain ⟨hquery, hown, hrew⟩ := h.detach hq (f := fun old => { old with
      subscribers := rest, subscriberCount := query.subscriberCount - 1 }) rfl
    refine h.amend hq hrew hquery hown ⟨hcounted, ?_, hnodup, hdead⟩ nofun ?_
    · exact iff_of_false Bool.false_ne_true fun hand => hand.1 hnil
    · exact fun v hv => .inl (hsub.subset hv)
  · next hmore =>
    -- some subscriber is left, so the query stays attached if it was
    refine h.modifyQuery hq (f := fun old => { old with
      subscribers := rest, subscriberCount := query.subscriberCount - 1 }) rfl
      ⟨hcounted, ?_, hnodup, hdead⟩ hsub.subset
    have hne : rest ≠ [] := by
      intro hnil
      rw [hnil, List.length_nil] at hcounted
      exact hmore hcounted
    show query.attachment.isSome = true ↔ rest ≠ [] ∧ query.status ≠ .canceled
    rw [hcons.attached]
    exact and_congr_left fun _ => iff_of_true (List.ne_nil_of_length_pos hpos) hne

/-! ### The end of a query -/

/-- A query that is detached and then changed otherwise. -/
theorem detach_modifyQuery (h : w.Accounts) (hq : w.query? q = some query) {g : Query → Query}
    (hatt : (g { query with attachment := none }).attachment = none)
    (hcons : (g { query with attachment := none }).Consistent)
    (hsub : (g { query with attachment := none }).subscribers ⊆ query.subscribers) :
    w.Amends ((w.detach q).modifyQuery q g) q (g { query with attachment := none }) := by
  obtain ⟨hquery, hown, hrew⟩ := detach_spec (h.registers_replace hq) hq fun a => h.fits hq
  refine h.amend hq (.trans hrew (.modifyQuery ..)) (query?_modifyQuery_self g hquery) ?_ hcons ?_
    fun v hv => .inl (hsub hv)
  · rw [hatt]
    exact hown.of_feeds_eq (fun _ => feed?_modifyQuery ..) rfl
  · intro a ha
    rw [hatt] at ha
    cases ha

/-- **Cancelation**: the query is detached, whoever its subscribers are. -/
theorem cancel (h : w.Accounts) (hq : w.query? q = some query) :
    w.Amends (w.cancel q).world q { query with status := .canceled } := by
  have hcons := h.consistent hq
  rw [World.cancel, hq]
  dsimp only
  split
  · next hcanceled =>
    -- it has been detached already
    have hstatus : query.status = .canceled := by simpa [Query.isCanceled] using hcanceled
    have hnone : query.attachment = none := hcons.attachment_eq_none fun hand => hand.2 hstatus
    show w.Amends (w.detach q) q _
    rw [detach_of_none hq hnone, ← hstatus]
    exact h.amend_refl hq
  · rw [moveTo, world_commit]
    have hmod := h.detach_modifyQuery hq (g := fun query => { query with status := .canceled }) rfl
      ⟨hcons.counted, iff_of_false Bool.false_ne_true fun hand => hand.2 rfl, hcons.distinct,
        hcons.gone⟩ fun _ => id
    exact ⟨hmod.accounts, hmod.rewires, hmod.found⟩

/-- **Letting go** of a query. -/
theorem retire (h : w.Accounts) (hq : w.query? q = some query) :
    w.Amends (w.retire q) q
      { query with subscribers := [], subscriberCount := 0, alive := false } := by
  have hmod := h.detach_modifyQuery hq (g := fun query =>
    { query with subscribers := [], subscriberCount := 0, alive := false }) rfl
    ⟨rfl, iff_of_false Bool.false_ne_true fun hand => hand.1 rfl, List.nodup_nil, fun _ => rfl⟩
    nofun
  exact ⟨hmod.accounts, hmod.rewires, hmod.found⟩

/-! ### The registry and the services -/

/-- An attached query whose attachment gives way to another one that fits. -/
theorem reattach {a : Attachment} (h : w.Accounts) (hq : w.query? q = some query)
    (hattached : query.attachment.isSome = true)
    (hlinks : w.Relinks w.holds q w' a) :
    w.Amends (w'.modifyQuery q fun query => { query with attachment := some a }) q query := by
  have hcons := h.consistent hq
  refine h.amend hq (.trans hlinks.rewires (.modifyQuery ..))
    (query?_modifyQuery_self _ ((hlinks.queries q).trans hq))
    (hlinks.registers.of_feeds_eq (fun _ => feed?_modifyQuery ..) rfl) ?_ ?_ fun v hv => .inl hv
  · exact ⟨hcons.counted, iff_of_true rfl (hcons.attached.mp hattached), hcons.distinct, hcons.gone⟩
  · rintro a' ha'
    cases ha'
    exact ⟨hlinks.fits.distinct, hlinks.fits.provided⟩

/-- **Following the registry**: a presence link begins or ends. -/
theorem followRegistry (h : w.Accounts) (hq : w.query? q = some query)
    (notice : RegistrationNotice ServiceId) :
    w.Amends (w.followRegistry q query notice).world q query := by
  unfold World.followRegistry
  split
  · next a service ha _ =>
    split
    · exact h.amend_refl hq
    · have hreg := h.registers_replace hq
      rw [Query.upstream, ha, Option.elim_some] at hreg
      have hattached : query.attachment.isSome = true := by rw [ha, Option.isSome_some]
      cases notice.change with
      | registered => exact h.reattach hq hattached (linkPresence_spec hreg (h.fits hq ha) _)
      | unregistering => exact h.reattach hq hattached (unlinkPresence_spec hreg (h.fits hq ha) _)
  · exact h.amend_refl hq

/-- A service that is mentioned keeps the accounts balanced: nobody follows a new one. -/
theorem ensureService (h : w.Accounts) (s : ServiceId) (provider : ProviderId)
    (hasChannel : Bool) : (w.ensureService s provider hasChannel).Accounts where
  registers := h.registers.of_feeds (feed?_ensureService w s provider hasChannel) (Nat.le_refl _)
  consistent := h.consistent
  fits := by
    intro q query a hq ha
    have hfit := h.fits hq ha
    refine ⟨hfit.distinct, ?_⟩
    intro link hl
    rw [← hfit.provided link hl]
    cases hs : w.service? s with
    | some service => rw [ensureService_of_some hs]
    | none =>
      rw [providerOf?, service?_ensureService_of_none hs, if_neg, providerOf?]
      -- the service of a link is there, so it is not the new one
      rintro rfl
      have hprovided := hfit.provided link hl
      rw [providerOf?, hs] at hprovided
      cases hprovided
  given := h.given
  apart := h.apart
  sorted := by
    show Keyed.Sorted _ (Keyed.insertNew _ _ _)
    unfold Keyed.insertNew
    split
    · exact h.sorted
    · exact Keyed.sorted_insert h.sorted

/-- An observer of a source keeps the accounts balanced. -/
theorem watch_tap (h : w.Accounts) {x : Source} (hfeed : w.feed? x ≠ none) (t : TapId) :
    (w.watch x (.tap t)).1.Accounts where
  registers := (h.registers.watch_tap hfeed).of_iff fun q y id => by rw [holds, query?_watch, holds]
  consistent hq := h.consistent (query?_watch w x (.tap t) _ ▸ hq)
  fits hq ha := by
    have hfit := h.fits (query?_watch w x (.tap t) _ ▸ hq) ha
    refine ⟨hfit.distinct, ?_⟩
    intro link hl
    rw [watch, providerOf?_modifyFeed]
    exact hfit.provided link hl
  given hq hv := by
    rw [nextSubscription_watch]
    exact Nat.lt_succ_of_lt (h.given (query?_watch w x (.tap t) _ ▸ hq) hv)
  apart hq hp := h.apart (query?_watch w x (.tap t) _ ▸ hq) (query?_watch w x (.tap t) _ ▸ hp)
  sorted := (Rewires.watch ⟨0⟩ w x (.tap t)).sorted h.sorted

/-- A query that is made keeps the accounts balanced: it holds nothing. -/
theorem createQuery (h : w.Accounts) (text : String) (isTracked : Bool) :
    (w.createQuery text isTracked).1.Accounts := by
  have old : ∀ {q query}, (w.createQuery text isTracked).1.query? q = some query →
      query = .ofMatcher ⟨text, w.config.matchMode⟩ ∨ w.query? q = some query := by
    intro q query hq
    rw [query?_createQuery] at hq
    split at hq
    · exact .inl (Option.some.inj hq).symm
    · exact .inr hq
  refine ⟨?_, ?_, ?_, ?_, ?_, h.sorted⟩
  · refine (h.registers.of_feeds_eq (fun _ => feed?_createQuery ..) rfl).of_iff fun q x id => ?_
    rw [holds, holds, query?_createQuery]
    split
    · next hnew =>
      -- neither the new query nor the one that was not there holds anything
      rw [query?_eq_none_of_length hnew]
      refine iff_of_false ?_ (by rintro ⟨query, hq, -⟩; cases hq)
      rintro ⟨query, hq, hmem⟩
      cases hq
      cases hmem
    · rfl
  · intro q query hq
    rcases old hq with rfl | hq
    · exact ⟨rfl, iff_of_false Bool.false_ne_true fun hand => hand.1 rfl, List.nodup_nil, nofun⟩
    · exact h.consistent hq
  · intro q query a hq ha
    rcases old hq with rfl | hq
    · cases ha
    · exact ⟨(h.fits hq ha).distinct, (h.fits hq ha).provided⟩
  · intro q query v hq hv
    rcases old hq with rfl | hq
    · cases hv
    · exact h.given hq hv
  · intro q p query other v v' hq hp hv hv'
    rcases old hq with rfl | hq
    · cases hv
    · rcases old hp with rfl | hp
      · cases hv'
      · exact h.apart hq hp hv hv'

end Accounts

end World

end RoomSearch
