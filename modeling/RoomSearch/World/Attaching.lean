import RoomSearch.World

/-!
# Attaching queries to their sources

A query is attached when its first subscriber comes and detached when its last one goes, when it is
canceled, and when nothing refers to it any more.  A canceled query is not attached again.

## Main definitions

* `World.attach`, `World.detach` — all subscriptions of a query at once.
* `World.linkPresence`, `World.unlinkPresence` — the subscription to one presence channel.
* `World.subscribe`, `World.unsubscribe` — subscribers of a query.
* `World.retire` — a query that nothing refers to.
-/

namespace RoomSearch.World

/-- Subscribes a query to the presence channel of a service, unless the service has none or the
query follows a channel of the same provider already. -/
def linkPresence (w : World) (q : QueryId) (attachment : Attachment) (s : ServiceId) :
    World × Attachment :=
  match w.service? s with
  | none => (w, attachment)
  | some service =>
    -- links go by provider: a second service of a provider is passed over
    if attachment.presence.any fun link => link.provider == service.provider then (w, attachment)
    else if service.channel.isNone then (w, attachment)
    else
      let (w, id) := w.watch (.presence s) (.query q)
      (w, { attachment with presence := attachment.presence ++ [⟨service.provider, s, id⟩] })

/-- Subscribes a query to the presence channels of services one after the other. -/
def linkPresences (w : World) (q : QueryId) (attachment : Attachment) :
    List ServiceId → World × Attachment
  | [] => (w, attachment)
  | s :: rest =>
    let (w, attachment) := w.linkPresence q attachment s
    w.linkPresences q attachment rest

/-- Ends a subscription to a presence channel. -/
def unwatchLink (w : World) (link : PresenceLink) : World :=
  w.unwatch (.presence link.service) link.subscription

/-- Ends the subscription to the presence channel of a provider, if there is one. -/
def unlinkPresence (w : World) (attachment : Attachment) (provider : ProviderId) :
    World × Attachment :=
  match attachment.presence.find? fun link => link.provider == provider with
  | none => (w, attachment)
  | some link =>
    (w.unwatchLink link,
      { attachment with
        presence := attachment.presence.filter fun link => link.provider != provider })

/-- Subscribes a query to all its sources: the lists of rooms, the list of providers, the registry,
and the presence channels of the registered services.  A query that is attached stays as it is. -/
def attach (w : World) (q : QueryId) : World :=
  if (w.query? q).any Query.isAttached then w
  else
    let (w, rooms) := w.watch .rooms (.query q)
    let (w, providers) := w.watch .providers (.query q)
    let (w, registrations) := w.watch .registrations (.query q)
    let (w, attachment) := w.linkPresences q ⟨rooms, providers, registrations, []⟩ w.registry
    w.modifyQuery q fun query => { query with attachment := some attachment }

/-- Ends all subscriptions of a query. -/
def detach (w : World) (q : QueryId) : World :=
  match (w.query? q).bind Query.attachment with
  | none => w
  | some attachment =>
    let w := attachment.presence.foldl unwatchLink w
    let w := w.unwatch .rooms attachment.rooms
    let w := w.unwatch .providers attachment.providers
    let w := w.unwatch .registrations attachment.registrations
    w.modifyQuery q fun query => { query with attachment := none }

/-- Subscribes to a query.  The first subscriber attaches it, unless it has been canceled. -/
def subscribe (w : World) (q : QueryId) (subscriber : Subscriber) : World × SubscriptionId :=
  let (w, id) := w.freshSubscription
  let w := w.modifyQuery q fun query =>
    { query with
      subscribers := query.subscribers ++ [(id, subscriber)]
      subscriberCount := query.subscriberCount + 1 }
  match w.query? q with
  | none => (w, id)
  | some query =>
    -- the query is seen with its new subscriber here
    if query.subscriberCount = 1 ∧ query.status ≠ .canceled then (w.attach q, id) else (w, id)

/-- Ends a subscription to a query, and says whether there was one.  The last subscriber to go
detaches the query. -/
def unsubscribe (w : World) (q : QueryId) (id : SubscriptionId) : World × Bool :=
  match w.query? q with
  | none => (w, false)
  | some query =>
    if query.subscribers.any fun s => s.1 == id then
      let rest := query.subscribers.eraseP fun s => s.1 == id
      let count := query.subscriberCount - 1
      let w := w.modifyQuery q fun query =>
        { query with subscribers := rest, subscriberCount := count }
      (if count = 0 then w.detach q else w, true)
    else (w, false)

/-- Lets go of a query that nothing refers to: it is detached and has no subscribers. -/
def retire (w : World) (q : QueryId) : World :=
  (w.detach q).modifyQuery q fun query =>
    { query with subscribers := [], subscriberCount := 0, alive := false }

end RoomSearch.World
