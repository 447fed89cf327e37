import Mathlib.Data.List.Nodup
import Mathlib.Data.List.Count
import RoomSearch.Proofs.World.Access

/-!
# Subscriptions on both sides

A subscription is known on two sides: the feed of the source lists it, and the query that holds it
keeps its identity to end it with.  `Registers` says that the two sides agree for a given ownership.
While a query is being attached or detached the ownership changes one subscription at a time, and
each lemma below takes one such step.

## Main definitions

* `Ownership` — which query holds which subscription to which source.
* `World.Registers w own` — the feeds of `w` list exactly what `own` says.
* `World.unwatchAll` — ends several subscriptions.

## Main results

* `Registers.watch`, `Registers.unwatch`, `Registers.unwatchAll` — the steps.
* `Registers.count_audience` — a query is found on a feed once or not at all.
-/

namespace RoomSearch

namespace Feed

variable {ω : Type} {f : Feed ω} {id : SubscriptionId}

theorem mem_watchers_subscribe {i : SubscriptionId} {v x : ω} :
    (i, v) ∈ (f.subscribe id x).watchers ↔ (i, v) ∈ f.watchers ∨ (i = id ∧ v = x) := by
  simp [subscribe]

/-- Where identities are not repeated, ending a subscription takes out all with its identity. -/
theorem watchers_unsubscribe (h : (f.watchers.map Prod.fst).Nodup) :
    (f.unsubscribe id).watchers = f.watchers.filter fun w => w.1 != id := by
  show f.watchers.eraseP _ = _
  revert h
  induction f.watchers with
  | nil => intro _; rfl
  | cons w rest ih =>
    intro h
    rw [List.map_cons, List.nodup_cons] at h
    by_cases hw : w.1 = id
    · rw [List.eraseP_cons_of_pos (by simpa using hw), List.filter_cons_of_neg (by simpa using hw)]
      refine (List.filter_eq_self.mpr fun v hv => ?_).symm
      have hne : v.1 ≠ w.1 := fun heq => h.1 (heq ▸ List.mem_map_of_mem hv)
      simpa [hw] using hne
    · rw [List.eraseP_cons_of_neg (by simpa using hw), List.filter_cons_of_pos (by simpa using hw),
        ih h.2]

theorem mem_watchers_unsubscribe (h : (f.watchers.map Prod.fst).Nodup) {i : SubscriptionId}
    {v : ω} : (i, v) ∈ (f.unsubscribe id).watchers ↔ (i, v) ∈ f.watchers ∧ i ≠ id := by
  rw [watchers_unsubscribe h, List.mem_filter]
  simp

/-- A watcher whose subscriptions all have one identity is found once at most. -/
theorem count_audience_le_one [BEq ω] [LawfulBEq ω] {x : ω} (h : (f.watchers.map Prod.fst).Nodup)
    (hone : ∀ i, (i, x) ∈ f.watchers → i = id) : f.audience.count x ≤ 1 := by
  unfold audience
  revert h hone
  induction f.watchers with
  | nil => intro _ _; exact Nat.zero_le 1
  | cons v rest ih =>
    intro h hone
    rw [List.map_cons, List.nodup_cons] at h
    rw [List.map_cons, List.count_cons]
    split
    · next hv =>
      -- two occurrences would be two subscriptions with one identity
      have hrest : (rest.map (·.2)).count x = 0 := by
        apply List.count_eq_zero.mpr
        intro hin
        obtain ⟨⟨i, u⟩, hu, rfl⟩ := List.mem_map.mp hin
        obtain ⟨j, u'⟩ := v
        have hj : j = id := hone j (by rw [← beq_iff_eq.mp hv]; exact List.mem_cons_self)
        have hi : i = id := hone i (List.mem_cons_of_mem _ hu)
        refine h.1 (List.mem_map.mpr ⟨_, hu, ?_⟩)
        rw [hi, hj]
      omega
    · exact ih h.2 fun i hi => hone i (List.mem_cons_of_mem _ hi)

end Feed

/-- Which query holds which subscription to which source. -/
abbrev Ownership := QueryId → Source → SubscriptionId → Prop

namespace World

/-- The feeds list exactly the subscriptions that queries hold, apart from those of taps. -/
structure Registers (w : World) (own : Ownership) : Prop where
  /-- What a query holds is listed under its name. -/
  listed : ∀ {q x id}, own q x id → ∃ f, w.feed? x = some f ∧ (id, .query q) ∈ f.watchers
  /-- What is listed under the name of a query is held by it. -/
  owned : ∀ {x f id q}, w.feed? x = some f → (id, .query q) ∈ f.watchers → own q x id
  /-- A query holds one subscription to a source at most. -/
  single : ∀ {q x id id'}, own q x id → own q x id' → id = id'
  /-- No identity is listed twice by a feed. -/
  nodup : ∀ {x f}, w.feed? x = some f → (f.watchers.map Prod.fst).Nodup
  /-- All identities that are listed have been given out. -/
  given : ∀ {x f v}, w.feed? x = some f → v ∈ f.watchers →
    v.1.number < w.nextSubscription.number
  /-- Every request to end a subscription has ended one. -/
  paired : ∀ {x f}, w.feed? x = some f → f.subscribed = f.watchers.length + f.unsubscribed

namespace Registers

variable {w w' : World} {own own' : Ownership}

/-- A subscription belongs to one query. -/
theorem query_unique (h : w.Registers own) {q p : QueryId} {x : Source} {id : SubscriptionId}
    (hq : own q x id) (hp : own p x id) : q = p := by
  obtain ⟨f, hf, hmem⟩ := h.listed hq
  obtain ⟨g, hg, hmem'⟩ := h.listed hp
  cases Option.some.inj (hf.symm.trans hg)
  have heq := List.inj_on_of_nodup_map (h.nodup hf) hmem hmem' rfl
  cases heq
  rfl

/-- The same ownership in other words. -/
theorem of_iff (h : w.Registers own) (hiff : ∀ q x id, own' q x id ↔ own q x id) :
    w.Registers own' where
  listed hown := h.listed ((hiff ..).mp hown)
  owned hf hmem := (hiff ..).mpr (h.owned hf hmem)
  single hown hown' := h.single ((hiff ..).mp hown) ((hiff ..).mp hown')
  nodup := h.nodup
  given := h.given
  paired := h.paired

/-- Feeds that stay, and feeds that are new and that nobody follows. -/
theorem of_feeds (h : w.Registers own)
    (hfeed : ∀ x, w'.feed? x = w.feed? x ∨ (w.feed? x = none ∧ w'.feed? x = some .empty))
    (hnext : w.nextSubscription.number ≤ w'.nextSubscription.number) : w'.Registers own := by
  -- a feed is new and empty, or it was there before
  have old : ∀ {x f}, w'.feed? x = some f → w.feed? x = some f ∨ f = .empty := by
    intro x f hf
    rcases hfeed x with heq | ⟨-, hempty⟩
    · exact .inl (heq ▸ hf)
    · exact .inr (Option.some.inj (hf.symm.trans hempty))
  refine ⟨?_, ?_, h.single, ?_, ?_, ?_⟩
  · intro q x id hown
    obtain ⟨f, hf, hmem⟩ := h.listed hown
    refine ⟨f, ?_, hmem⟩
    rcases hfeed x with heq | ⟨hnone, -⟩
    · rw [heq, hf]
    · rw [hnone] at hf
      cases hf
  · intro x f id q hf hmem
    rcases old hf with hf | rfl
    · exact h.owned hf hmem
    · cases hmem
  · intro x f hf
    rcases old hf with hf | rfl
    · exact h.nodup hf
    · exact List.nodup_nil
  · intro x f v hf hv
    rcases old hf with hf | rfl
    · exact Nat.lt_of_lt_of_le (h.given hf hv) hnext
    · cases hv
  · intro x f hf
    rcases old hf with hf | rfl
    · exact h.paired hf
    · rfl

theorem of_feeds_eq (h : w.Registers own) (hfeed : ∀ x, w'.feed? x = w.feed? x)
    (hnext : w'.nextSubscription = w.nextSubscription) : w'.Registers own :=
  h.of_feeds (fun x => .inl (hfeed x)) (Nat.le_of_eq (congrArg SubscriptionId.number hnext.symm))

/-! ### Beginning a subscription -/

/-- No identity that is listed is given out next. -/
theorem fresh (h : w.Registers own) {x : Source} {f : Feed Watcher} {u : SubscriptionId × Watcher}
    (hf : w.feed? x = some f) (hu : u ∈ f.watchers) : u.1 ≠ w.nextSubscription := by
  intro heq
  have hlt := h.given hf hu
  rw [heq] at hlt
  exact Nat.lt_irrefl _ hlt

/-- **A subscription begins**: the watcher holds one more, and nothing else changes. -/
theorem watch (h : w.Registers own) {x : Source} {v : Watcher} (hfeed : w.feed? x ≠ none)
    (hfree : ∀ q id, v = .query q → ¬ own q x id) :
    (w.watch x v).1.Registers fun q y id =>
      own q y id ∨ (v = .query q ∧ y = x ∧ id = w.nextSubscription) where
  listed {q y id} hown := by
    rw [feed?_watch]
    rcases hown with hown | ⟨rfl, rfl, rfl⟩
    · obtain ⟨f, hf, hmem⟩ := h.listed hown
      rw [hf]
      split
      · exact ⟨_, rfl, Feed.mem_watchers_subscribe.mpr (.inl hmem)⟩
      · exact ⟨f, rfl, hmem⟩
    · obtain ⟨f, hf⟩ := Option.ne_none_iff_exists'.mp hfeed
      rw [if_pos rfl, hf]
      exact ⟨_, rfl, Feed.mem_watchers_subscribe.mpr (.inr ⟨rfl, rfl⟩)⟩
  owned hf hmem := by
    rcases feed?_modifyFeed_cases hf with ⟨-, hf⟩ | ⟨rfl, g, hg, rfl⟩
    · exact .inl (h.owned hf hmem)
    · rcases Feed.mem_watchers_subscribe.mp hmem with hmem | ⟨rfl, hv⟩
      · exact .inl (h.owned hg hmem)
      · exact .inr ⟨hv.symm, rfl, rfl⟩
  single hown hown' := by
    -- two holders would both be the new watcher, which held nothing at this source
    rcases hown with hown | ⟨hv, rfl, rfl⟩
    · rcases hown' with hown' | ⟨hv, rfl, rfl⟩
      · exact h.single hown hown'
      · exact absurd hown (hfree _ _ hv)
    · rcases hown' with hown' | ⟨-, -, rfl⟩
      · exact absurd hown' (hfree _ _ hv)
      · rfl
  nodup hf := by
    rcases feed?_modifyFeed_cases hf with ⟨-, hf⟩ | ⟨rfl, g, hg, rfl⟩
    · exact h.nodup hf
    · show ((g.watchers ++ [(w.nextSubscription, v)]).map Prod.fst).Nodup
      rw [List.map_append, List.map_singleton, ← List.concat_eq_append]
      -- the new identity has not been given out before
      refine (h.nodup hg).concat ?_
      intro hmem
      obtain ⟨u, hu, heq⟩ := List.mem_map.mp hmem
      exact h.fresh hg hu heq
  given {y f u} hf hu := by
    rw [nextSubscription_watch]
    rcases feed?_modifyFeed_cases hf with ⟨-, hf⟩ | ⟨rfl, g, hg, rfl⟩
    · exact Nat.lt_succ_of_lt (h.given hf hu)
    · obtain ⟨i, u⟩ := u
      rcases Feed.mem_watchers_subscribe.mp hu with hu | ⟨rfl, -⟩
      · exact Nat.lt_succ_of_lt (h.given hg hu)
      · exact Nat.lt_succ_self _
  paired hf := by
    rcases feed?_modifyFeed_cases hf with ⟨-, hf⟩ | ⟨rfl, g, hg, rfl⟩
    · exact h.paired hf
    · have hpaired := h.paired hg
      simp only [Feed.subscribe, List.length_append, List.length_singleton]
      omega

/-- A tap that subscribes changes nothing for the queries. -/
theorem watch_tap (h : w.Registers own) {x : Source} {t : TapId} (hfeed : w.feed? x ≠ none) :
    (w.watch x (.tap t)).1.Registers own :=
  (h.watch hfeed fun _ _ hv => by cases hv).of_iff fun q y id => by simp

/-! ### Ending subscriptions -/

/-- **A subscription ends**: the request reaches the feed that lists it. -/
theorem unwatch (h : w.Registers own) {q : QueryId} {x : Source} {id : SubscriptionId}
    (hown : own q x id) :
    (w.unwatch x id).Registers fun p y i => own p y i ∧ ¬ (y = x ∧ i = id) where
  listed hand := by
    obtain ⟨howned, hne⟩ := hand
    obtain ⟨f, hf, hmem⟩ := h.listed howned
    rw [feed?_unwatch, hf]
    split
    · next heq =>
      refine ⟨_, rfl, (Feed.mem_watchers_unsubscribe (h.nodup hf)).mpr ⟨hmem, ?_⟩⟩
      exact fun hid => hne ⟨heq.symm, hid⟩
    · exact ⟨f, rfl, hmem⟩
  owned hf hmem := by
    rcases feed?_modifyFeed_cases hf with ⟨hne, hf⟩ | ⟨rfl, g, hg, rfl⟩
    · exact ⟨h.owned hf hmem, fun hand => hne hand.1.symm⟩
    · obtain ⟨hmem, hne⟩ := (Feed.mem_watchers_unsubscribe (h.nodup hg)).mp hmem
      exact ⟨h.owned hg hmem, fun hand => hne hand.2⟩
  single hown hown' := h.single hown.1 hown'.1
  nodup hf := by
    rcases feed?_modifyFeed_cases hf with ⟨-, hf⟩ | ⟨rfl, g, hg, rfl⟩
    · exact h.nodup hf
    · rw [Feed.watchers_unsubscribe (h.nodup hg)]
      exact (h.nodup hg).sublist (List.filter_sublist.map Prod.fst)
  given {y f u} hf hu := by
    rw [nextSubscription_unwatch]
    rcases feed?_modifyFeed_cases hf with ⟨-, hf⟩ | ⟨rfl, g, hg, rfl⟩
    · exact h.given hf hu
    · exact h.given hg ((Feed.mem_watchers_unsubscribe (h.nodup hg)).mp hu).1
  paired hf := by
    rcases feed?_modifyFeed_cases hf with ⟨-, hf⟩ | ⟨rfl, g, hg, rfl⟩
    · exact h.paired hf
    · -- the one that is taken out is there: it is held by `q`
      obtain ⟨g', hg', hmem⟩ := h.listed hown
      cases Option.some.inj (hg.symm.trans hg')
      have hlen : (g.unsubscribe id).watchers.length = g.watchers.length - 1 :=
        List.length_eraseP_of_mem hmem (by simp)
      have hpos : 0 < g.watchers.length := List.length_pos_of_mem hmem
      have hpaired := h.paired hg
      rw [hlen]
      simp only [Feed.unsubscribe]
      omega

end Registers

/-- Ends several subscriptions, one after the other. -/
def unwatchAll (w : World) (held : List (Source × SubscriptionId)) : World :=
  held.foldl (fun w h => w.unwatch h.1 h.2) w

@[simp] theorem query?_unwatchAll (w : World) (held : List (Source × SubscriptionId))
    (q : QueryId) : (w.unwatchAll held).query? q = w.query? q := by
  induction held generalizing w with
  | nil => rfl
  | cons h rest ih => rw [unwatchAll, List.foldl_cons, ← unwatchAll, ih, query?_unwatch]

namespace Registers

variable {w : World} {own : Ownership}

/-- **Several subscriptions of a query end**, each of them being listed when its turn comes. -/
theorem unwatchAll (h : w.Registers own) {q : QueryId} {held : List (Source × SubscriptionId)}
    (hnodup : held.Nodup) (hown : ∀ s ∈ held, own q s.1 s.2) :
    (w.unwatchAll held).Registers fun p y i => own p y i ∧ (y, i) ∉ held := by
  induction held generalizing w own with
  | nil => exact h.of_iff (by simp)
  | cons s rest ih =>
    obtain ⟨x, id⟩ := s
    rw [List.nodup_cons] at hnodup
    have hstep := h.unwatch (hown (x, id) List.mem_cons_self)
    refine (ih hstep hnodup.2 fun s hs => ⟨hown s (List.mem_cons_of_mem _ hs), ?_⟩).of_iff ?_
    · rintro ⟨hx, hid⟩
      exact hnodup.1 ((Prod.ext hx hid : s = (x, id)) ▸ hs)
    · intro p y i
      simp only [List.mem_cons, Prod.mk.injEq, not_or, and_assoc]

/-! ### Counting -/

/-- **A query is found on a feed once**, if it holds a subscription to its source, and otherwise
not at all. -/
theorem count_audience (h : w.Registers own) {x : Source} {f : Feed Watcher}
    (hf : w.feed? x = some f) (q : QueryId) :
    f.audience.count (.query q) = 1 ∧ (∃ id, own q x id) ∨
      f.audience.count (.query q) = 0 ∧ ¬ ∃ id, own q x id := by
  by_cases hex : ∃ id, own q x id
  · refine .inl ⟨?_, hex⟩
    obtain ⟨id, hown⟩ := hex
    obtain ⟨g, hg, hmem⟩ := h.listed hown
    cases Option.some.inj (hf.symm.trans hg)
    have hpos : 0 < f.audience.count (.query q) :=
      List.count_pos_iff.mpr (List.mem_map.mpr ⟨_, hmem, rfl⟩)
    have hle : f.audience.count (.query q) ≤ 1 :=
      Feed.count_audience_le_one (h.nodup hf) fun i hi => h.single (h.owned hf hi) hown
    omega
  · refine .inr ⟨List.count_eq_zero.mpr fun hin => hex ?_, hex⟩
    obtain ⟨⟨i, u⟩, hu, rfl⟩ := List.mem_map.mp hin
    exact ⟨i, h.owned hf hu⟩

end Registers

end World

end RoomSearch
