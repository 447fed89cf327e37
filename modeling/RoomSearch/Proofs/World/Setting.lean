import RoomSearch.Proofs.World.Moves
import RoomSearch.Proofs.World.Release
import RoomSearch.Proofs.World.Access

/-!
# What queries and subscriptions do not show in

Queries follow their sources as they like, and much of a world is the same whatever they do.  A view
of worlds that overlooks single queries, feeds and the identities given out overlooks all that
queries do, since nothing they do is made of anything else.

The setting is such a view: how queries are made, the directory, the registered services, which
queries are kept track of, and how many buses there are.  A task changes it only by taking a service
out of the registry.

## Main definitions

* `World.Overlooks` — a view that queries and subscriptions do not show in.
* `Setting`, `World.setting` — the setting of a world.

## Main results

* `World.Overlooks.release`, `World.Overlooks.advance` — **letting go and tasks** do not show in
  such a view.
* `World.setting_advance` — what a task does to the setting.
-/

namespace RoomSearch

/-- What a world has besides queries and subscriptions. -/
structure Setting where
  /-- How queries are made. -/
  config : Config
  /-- The greatest capacity that a bus can be built with. -/
  busLimit : Nat
  /-- The rooms of all providers. -/
  directory : Directory
  /-- The registered services. -/
  registry : List ServiceId
  /-- The queries that are canceled together. -/
  tracked : List QueryId
  /-- How many buses have been made. -/
  busCount : Nat

/-- The setting after a task. -/
def Setting.after (s : Setting) : Task → Setting
  | .withdraw service => { s with registry := s.registry.filter fun other => other != service }
  | _ => s

namespace World

/-- The setting of a world. -/
def setting (w : World) : Setting where
  config := w.config
  busLimit := w.busLimit
  directory := w.directory
  registry := w.registry
  tracked := w.tracked
  busCount := w.buses.length

/-- A view of worlds that queries and subscriptions do not show in. -/
structure Overlooks {α : Type} (view : World → α) : Prop where
  modifyQuery : ∀ w q f, view (w.modifyQuery q f) = view w
  modifyFeed : ∀ w x f, view (w.modifyFeed x f) = view w
  fresh : ∀ w : World, view w.freshSubscription.1 = view w
  publish : ∀ w b event, view (w.publish b event) = view w
  releaseBuses : ∀ w inUse, view (w.releaseBuses inUse) = view w

/-- **The setting** is such a view. -/
theorem overlooks_setting : Overlooks setting where
  modifyQuery _ _ _ := rfl
  modifyFeed w x f := by cases x <;> rfl
  fresh _ := rfl
  publish w b event := by
    have hbuses : (w.publish b event).buses.length = w.buses.length := List.length_modify ..
    show Setting.mk _ _ _ _ _ _ = _
    rw [hbuses]
    rfl
  releaseBuses _ _ := rfl

namespace Overlooks

variable {α : Type} {view : World → α}

/-! ### Subscriptions -/

theorem watch (h : Overlooks view) (w : World) (x : Source) (v : Watcher) :
    view (w.watch x v).1 = view w :=
  (h.modifyFeed w.freshSubscription.1 x fun feed => feed.subscribe w.nextSubscription v).trans
    (h.fresh w)

theorem unwatch (h : Overlooks view) (w : World) (x : Source) (id : SubscriptionId) :
    view (w.unwatch x id) = view w := h.modifyFeed ..

theorem foldl_unwatchLink (h : Overlooks view) (w : World) (links : List PresenceLink) :
    view (links.foldl unwatchLink w) = view w := by
  induction links generalizing w with
  | nil => rfl
  | cons link rest ih => rw [List.foldl_cons, ih, unwatchLink, h.unwatch]

theorem linkPresence (h : Overlooks view) (w : World) (q : QueryId) (a : Attachment)
    (s : ServiceId) : view (w.linkPresence q a s).1 = view w := by
  unfold World.linkPresence
  split
  · rfl
  · split
    · rfl
    · split
      · rfl
      · exact h.watch w (.presence s) (.query q)

theorem linkPresences (h : Overlooks view) (w : World) (q : QueryId) (a : Attachment)
    (services : List ServiceId) : view (w.linkPresences q a services).1 = view w := by
  induction services generalizing w a with
  | nil => rfl
  | cons s rest ih => rw [World.linkPresences, ih, h.linkPresence]

theorem unlinkPresence (h : Overlooks view) (w : World) (a : Attachment) (provider : ProviderId) :
    view (w.unlinkPresence a provider).1 = view w := by
  unfold World.unlinkPresence
  split
  · rfl
  · rw [unwatchLink, h.unwatch]

theorem attach (h : Overlooks view) (w : World) (q : QueryId) : view (w.attach q) = view w := by
  unfold World.attach
  split
  · rfl
  · rw [h.modifyQuery, h.linkPresences, h.watch, h.watch, h.watch]

theorem detach (h : Overlooks view) (w : World) (q : QueryId) : view (w.detach q) = view w := by
  unfold World.detach
  split
  · rfl
  · rw [h.modifyQuery, h.unwatch, h.unwatch, h.unwatch, h.foldl_unwatchLink]

theorem subscribe (h : Overlooks view) (w : World) (q : QueryId) (subscriber : Subscriber) :
    view (w.subscribe q subscriber).1 = view w := by
  unfold World.subscribe
  dsimp only
  split
  · rw [h.modifyQuery, h.fresh]
  · split
    · rw [h.attach, h.modifyQuery, h.fresh]
    · rw [h.modifyQuery, h.fresh]

theorem unsubscribe (h : Overlooks view) (w : World) (q : QueryId) (id : SubscriptionId) :
    view (w.unsubscribe q id).1 = view w := by
  unfold World.unsubscribe
  split
  · rfl
  · split
    · dsimp only
      split
      · rw [h.detach, h.modifyQuery]
      · rw [h.modifyQuery]
    · rfl

/-! ### Letting go -/

theorem retire (h : Overlooks view) (w : World) (q : QueryId) : view (w.retire q) = view w := by
  rw [World.retire, h.modifyQuery, h.detach]

/-- **Letting go** does not show. -/
theorem release (h : Overlooks view) (w : World) (queryInUse : QueryId → Bool)
    (busInUse : BusId → Bool) : view (w.release queryInUse busInUse) = view w := by
  rw [World.release, h.releaseBuses]
  show view ((List.range w.queries.length).foldl (releaseIndex queryInUse) w) = view w
  generalize List.range w.queries.length = indices
  induction indices generalizing w with
  | nil => rfl
  | cons i rest ih =>
    rw [List.foldl_cons, ih, releaseIndex]
    split
    · exact h.retire w ⟨i⟩
    · rfl

/-! ### Tasks -/

theorem change (h : Overlooks view) (w : World) (q : QueryId) (outcome : List News × ResultSet) :
    view (w.change q outcome).world = view w := by
  rw [World.change, world_commit, h.modifyQuery]

theorem moveTo (h : Overlooks view) (w : World) (q : QueryId) (status : Status) :
    view (w.moveTo q status).world = view w := by
  rw [World.moveTo, world_commit, h.modifyQuery]

theorem cancel (h : Overlooks view) (w : World) (q : QueryId) :
    view (w.cancel q).world = view w := by
  unfold World.cancel
  split
  · rfl
  · split
    · exact h.detach w q
    · exact (h.moveTo ..).trans (h.detach w q)

theorem followRegistry (h : Overlooks view) (w : World) (q : QueryId) (query : Query)
    (notice : RegistrationNotice ServiceId) :
    view (w.followRegistry q query notice).world = view w := by
  unfold World.followRegistry
  split
  · split
    · rfl
    · dsimp only [Move.still]
      rw [h.modifyQuery]
      split
      · exact h.linkPresence ..
      · exact h.unlinkPresence ..
  · rfl

theorem follow (h : Overlooks view) (w : World) (q : QueryId) (notice : Notice) :
    view (w.follow q notice).world = view w := by
  rcases follow_spec w q notice with hstill | ⟨query, hq, hfollows⟩
  · rw [hstill]
    rfl
  · revert hfollows
    generalize w.follow q notice = m
    intro hfollows
    cases hfollows with
    | still | joined => rfl
    | entered => exact h.modifyQuery ..
    | presence => exact h.change ..
    | rooms | gone => exact (h.change ..).trans (h.modifyQuery ..)
    | registration notice => exact h.followRegistry ..

/-- **A task** does not show, unless it takes a service out of the registry. -/
theorem advance (h : Overlooks view) (w : World) {t : Task} (ht : ∀ s, t ≠ .withdraw s) :
    view (w.advance t).world = view w := by
  have hadvances := advances_advance w t
  revert hadvances
  generalize w.advance t = m
  intro hadvances
  cases hadvances with
  | spent | dropped | tap | scan | rescan | search | hear => rfl
  | tell notice q rest => exact h.follow w q notice
  | withdraw s => exact absurd rfl (ht s)
  | mergeJoined | merge => exact h.change ..
  | complete => exact h.moveTo ..
  | publish => exact h.publish ..
  | cancelEach q rest => exact h.cancel w q

end Overlooks

/-- **What a task does to the setting**: a service may be taken out of the registry. -/
theorem setting_advance (w : World) (t : Task) :
    (w.advance t).world.setting = w.setting.after t := by
  cases t with
  | withdraw => rfl
  | _ => exact overlooks_setting.advance w nofun

end World

end RoomSearch
