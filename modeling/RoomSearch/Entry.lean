import RoomSearch.Keyed
import RoomSearch.Room

/-!
# Entries: the rooms a search has found

An entry is identified by its address alone: two entries with one address are the same result in
different states.  So entries are equal, ordered, and hashed, by their addresses, and a collection
of results holds one entry for each address.  Whether two entries are in the same state as well is a
comparison of its own.

## Main definitions

* `Entry` — a room found by a search.
* `Entry.ofRoom` — the entry of a listed room.
* `Entry.sameAddress`, `Entry.compareAddress` — the equality and the order of entries.
* `Hasher`, `Entry.feed`, `Entry.identityHash` — what is hashed of an entry.
* `Entry.sameState` — the comparison of all fields.
* `Entry.sorted` — entries in order, those with one address as they came.
* `Entry.lastOfEach` — the last entry of each address, in order.
* `Entry.distinctCount` — the number of different addresses.
-/

namespace RoomSearch

/-- A room found by a search. -/
structure Entry where
  /-- The name of the room. -/
  address : String
  /-- The second name of the room. -/
  identifier : String
  /-- The provider that the room was last listed by. -/
  provider : ProviderId
  /-- Whether the local user is in the room. -/
  presence : Presence
  /-- Whether the room is rejoined automatically. -/
  autoJoin : Bool
deriving DecidableEq, Repr

/-- What turns texts into a hash: they are written into a state one after the other. -/
structure Hasher where
  /-- The states. -/
  State : Type
  /-- The state before anything is written. -/
  start : State
  /-- The state once a text has been written into it. -/
  write : State → String → State
  /-- The hash of what has been written. -/
  finish : State → UInt64

namespace Entry

/-- The entry of a room that a provider lists; nobody is known to be in it. -/
def ofRoom (provider : ProviderId) (room : Room) : Entry where
  address := room.name
  identifier := room.identifier
  provider := provider
  presence := default
  autoJoin := room.autoJoin

/-- The name shown to users. -/
def displayName (e : Entry) : String := e.address

/-- Whether two entries are equal: they are if they have one address. -/
def sameAddress (a b : Entry) : Bool := a.address == b.address

/-- The order of entries: by address, code point by code point. -/
def compareAddress (a b : Entry) : Ordering := compare a.address b.address

/-- Writes an entry into the state of a hasher: its address and nothing else. -/
def feed (h : Hasher) (state : h.State) (e : Entry) : h.State := h.write state e.address

/-- The hash of an entry by itself. -/
def identityHash (h : Hasher) (e : Entry) : UInt64 := h.finish (e.feed h h.start)

/-- Whether two entries agree in every field and not only in their addresses. -/
def sameState (a b : Entry) : Bool :=
  a.address == b.address && a.identifier == b.identifier && a.provider == b.provider &&
    a.presence == b.presence && a.autoJoin == b.autoJoin

/-- The entries in order of their addresses; entries with one address stay as they came. -/
def sorted (entries : List Entry) : List Entry := entries.mergeSort fun a b => a.address ≤ b.address

/-- The last entry of each address, in order of the addresses. -/
def lastOfEach (entries : List Entry) : List Entry :=
  entries.foldl (fun found e => Keyed.insert address e found) []

/-- The number of different addresses. -/
def distinctCount (entries : List Entry) : Nat := (entries.map address).eraseDups.length

end Entry

end RoomSearch
