import RoomSearch.Event
import RoomSearch.Matcher
import RoomSearch.Notice
import RoomSearch.ResultSet

/-!
# How results change

Each rule takes a result set and gives the changed set with the news of what has changed.  There is
no news without a change, and what is told is told in the order in which the set changes.

* A room that is listed becomes a result; if its address is a result already, that one takes over
  everything from the listing but keeps its presence.
* A room that is no longer listed stops being a result.
* A change of a room's settings changes the flag of the result it has, and nothing else.
* A presence changes the presence of the result with the room's address, and nothing else.

## Main definitions

* `ResultSet.mergeRoom`, `ResultSet.mergeRooms` — listed rooms.
* `ResultSet.dropRoom`, `ResultSet.dropProvider` — rooms that are no longer listed.
* `ResultSet.setAutoJoin` — changed settings.
* `ResultSet.setPresence?` — presence in a room that is a result.
* `ResultSet.mergeJoined` — a joined room that is no result yet.
-/

namespace RoomSearch.ResultSet

/-- Merges a listed room.  A result with its address keeps its presence, and if nothing else is
different there is no news. -/
def mergeRoom (s : ResultSet) (provider : ProviderId) (room : Room) : List News × ResultSet :=
  let listed := Entry.ofRoom provider room
  match s.find? room.name with
  | none => ([.found listed], s.insert listed)
  | some old =>
    let merged := { listed with presence := old.presence }
    if old = merged then ([], s) else ([.changed merged], s.insert merged)

/-- Merges listed rooms one after the other. -/
def mergeRooms (s : ResultSet) (provider : ProviderId) : List Room → List News × ResultSet
  | [] => ([], s)
  | room :: rest =>
    let (news, s) := s.mergeRoom provider room
    let (later, s) := s.mergeRooms provider rest
    (news ++ later, s)

/-- Drops the result with the given address. -/
def dropRoom (s : ResultSet) (address : String) : List News × ResultSet :=
  match s.find? address with
  | none => ([], s)
  | some old => ([.removed old], s.erase address)

/-- Drops all results of a provider. -/
def dropProvider (s : ResultSet) (provider : ProviderId) : List News × ResultSet :=
  let (removed, s) := s.removeProvider provider
  (removed.map .removed, s)

/-- Sets the flag of the result with the given address, if it is different. -/
def setAutoJoin (s : ResultSet) (address : String) (autoJoin : Bool) : List News × ResultSet :=
  match s.find? address with
  | none => ([], s)
  | some old =>
    if old.autoJoin = autoJoin then ([], s)
    else
      let changed := { old with autoJoin }
      ([.changed changed], s.insert changed)

/-- Sets the presence of the result with the given address, if it is different; nothing is given
if there is no such result. -/
def setPresence? (s : ResultSet) (address : String) (presence : Presence) :
    Option (List News × ResultSet) :=
  match s.find? address with
  | none => none
  | some old =>
    if old.presence = presence then some ([], s)
    else
      let changed := { old with presence }
      some ([.changed changed], s.insert changed)

/-- Sets the presence of a joined room, which becomes a result if it is none. -/
def mergeJoined (s : ResultSet) (notice : PresenceNotice) (autoJoin : Bool) :
    List News × ResultSet :=
  match s.setPresence? notice.room .online with
  | some change => change
  | none =>
    let e : Entry := ⟨notice.room, notice.identifier, notice.provider, .online, autoJoin⟩
    ([.found e], s.insert e)

end RoomSearch.ResultSet
