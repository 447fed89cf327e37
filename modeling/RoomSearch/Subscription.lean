/-!
# Subscriptions and feeds

Every subscription, to whatever it is, has an identity of its own, which the subscriber gives back
to end it.  A feed is one source of announcements: it knows who is subscribed, in the order of
subscription, and counts how often it has been asked to begin and to end a subscription.

## Main definitions

* `SubscriptionId` — the identity of a subscription.
* `Feed` — the subscriptions of one source, with its counts.
-/

namespace RoomSearch

/-- The identity of a subscription. -/
structure SubscriptionId where
  /-- The number of the subscription; the first one is 1. -/
  number : Nat
deriving DecidableEq, Repr

namespace SubscriptionId

/-- The first identity. -/
def first : SubscriptionId := ⟨1⟩

/-- The identity after this one. -/
def next (s : SubscriptionId) : SubscriptionId := ⟨s.number + 1⟩

/-- So many identities, from this one on. -/
def following (s : SubscriptionId) : Nat → List SubscriptionId
  | 0 => []
  | count + 1 => s :: following s.next count

end SubscriptionId

/-- The subscriptions of one source; `ω` is what can be subscribed. -/
structure Feed (ω : Type) where
  /-- Who is subscribed, in the order of subscription. -/
  watchers : List (SubscriptionId × ω)
  /-- How often a subscription was asked for. -/
  subscribed : Nat
  /-- How often the end of a subscription was asked for. -/
  unsubscribed : Nat
deriving DecidableEq, Repr

namespace Feed

variable {ω : Type}

/-- A feed that nobody was ever subscribed to. -/
def empty : Feed ω := ⟨[], 0, 0⟩

instance : Inhabited (Feed ω) := ⟨empty⟩

/-- Begins a subscription. -/
def subscribe (f : Feed ω) (id : SubscriptionId) (watcher : ω) : Feed ω where
  watchers := f.watchers ++ [(id, watcher)]
  subscribed := f.subscribed + 1
  unsubscribed := f.unsubscribed

/-- Ends a subscription; the request counts even if there is no such subscription. -/
def unsubscribe (f : Feed ω) (id : SubscriptionId) : Feed ω where
  watchers := f.watchers.eraseP fun w => w.1 == id
  subscribed := f.subscribed
  unsubscribed := f.unsubscribed + 1

/-- Who an announcement made now goes to. -/
def audience (f : Feed ω) : List ω := f.watchers.map (·.2)

@[simp] theorem audience_empty : (empty : Feed ω).audience = [] := rfl

/-- A new subscriber comes last. -/
@[simp] theorem audience_subscribe (f : Feed ω) (id : SubscriptionId) (watcher : ω) :
    (f.subscribe id watcher).audience = f.audience ++ [watcher] := by
  simp [subscribe, audience]

end Feed

end RoomSearch
