import RoomSearch.Room

/-!
# What the sources of rooms announce

A query follows four sources: the directory's lists of rooms, its list of providers, the registry
of provider services, and the presence channel of each registered service.  Each announces changes
of its own kind.

## Main definitions

* `PresenceChange`, `RoomChange`, `ProviderChange`, `RegistrationChange` — the kinds of changes.
* `PresenceNotice`, `RoomNotice`, `ProviderNotice`, `RegistrationNotice` — the announcements.
-/

namespace RoomSearch

/-- How the local user's presence in a room changes. -/
inductive PresenceChange where
  /-- The user has joined. -/
  | joined
  /-- The user has left. -/
  | left
  /-- The user was sent out. -/
  | kicked
  /-- The user has lost the connection. -/
  | dropped
deriving DecidableEq, Repr

instance : Named PresenceChange where
  name
    | .joined => "joined"
    | .left => "left"
    | .kicked => "kicked"
    | .dropped => "dropped"
  all := [.joined, .left, .kicked, .dropped]
  find?_name a := by cases a <;> rfl

/-- Whether the local user is in the room after the change. -/
def PresenceChange.isJoin : PresenceChange → Bool
  | .joined => true
  | _ => false

/-- The presence after the change. -/
def PresenceChange.presence (c : PresenceChange) : Presence :=
  if c.isJoin then .online else .offline

/-- How a provider's list of rooms changes. -/
inductive RoomChange where
  /-- The room is new in the list. -/
  | added
  /-- The room is no longer in the list. -/
  | removed
  /-- The settings of the room are different. -/
  | changed
deriving DecidableEq, Repr

instance : Named RoomChange where
  name
    | .added => "added"
    | .removed => "removed"
    | .changed => "changed"
  all := [.added, .removed, .changed]
  find?_name a := by cases a <;> rfl

/-- How the directory's list of providers changes. -/
inductive ProviderChange where
  /-- The provider is new in the directory. -/
  | added
  /-- The provider is no longer in the directory. -/
  | removed
deriving DecidableEq, Repr

instance : Named ProviderChange where
  name
    | .added => "added"
    | .removed => "removed"
  all := [.added, .removed]
  find?_name a := by cases a <;> rfl

/-- How the registry of provider services changes. -/
inductive RegistrationChange where
  /-- The service has been registered. -/
  | registered
  /-- The service is about to be taken out. -/
  | unregistering
deriving DecidableEq, Repr

instance : Named RegistrationChange where
  name
    | .registered => "registered"
    | .unregistering => "unregistering"
  all := [.registered, .unregistering]
  find?_name a := by cases a <;> rfl

/-- The local user's presence in a room has changed. -/
structure PresenceNotice where
  /-- The provider of the room. -/
  provider : ProviderId
  /-- The name of the room. -/
  room : String
  /-- The identifier of the room. -/
  identifier : String
  /-- What has happened. -/
  change : PresenceChange
deriving DecidableEq, Repr

/-- A provider's list of rooms has changed. -/
structure RoomNotice where
  /-- The provider. -/
  provider : ProviderId
  /-- The room as it is now, or as it was. -/
  room : Room
  /-- What has happened. -/
  change : RoomChange
deriving DecidableEq, Repr

/-- The directory's list of providers has changed. -/
structure ProviderNotice where
  /-- The provider. -/
  provider : ProviderId
  /-- What has happened. -/
  change : ProviderChange
deriving DecidableEq, Repr

/-- The registry of provider services changes.  `σ` tells services apart. -/
structure RegistrationNotice (σ : Type) where
  /-- The service. -/
  service : σ
  /-- What happens. -/
  change : RegistrationChange
  /-- Whether the unit that owns the service is being stopped. -/
  ownerStopping : Bool
deriving DecidableEq, Repr

end RoomSearch
