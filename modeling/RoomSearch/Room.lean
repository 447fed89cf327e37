import RoomSearch.Named

/-!
# Rooms and their providers

A provider is an account or connection that hosts chat rooms.  It lists its rooms under their
names; the second name a room may have, its identifier, counts for searching only.

## Main definitions

* `ProviderId` — the identity of a provider.
* `Room` — a room as its provider lists it.
* `Presence` — whether the local user is in a room.
-/

namespace RoomSearch

/-- The identity of a provider. -/
@[ext] structure ProviderId where
  /-- The text that tells the provider from the others. -/
  text : String
deriving DecidableEq, Repr

/-- A room as its provider lists it. -/
structure Room where
  /-- The name of the room, which is its address. -/
  name : String
  /-- The second name of the room. -/
  identifier : String
  /-- Whether the room is rejoined automatically. -/
  autoJoin : Bool
deriving DecidableEq, Repr

/-- Whether the local user is in a room. -/
inductive Presence where
  /-- The local user is in the room. -/
  | online
  /-- The local user is not in the room. -/
  | offline
deriving DecidableEq, Repr

instance : Inhabited Presence := ⟨.offline⟩

instance : Named Presence where
  name
    | .online => "online"
    | .offline => "offline"
  all := [.online, .offline]
  find?_name a := by cases a <;> rfl

end RoomSearch
