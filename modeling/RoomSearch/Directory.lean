import RoomSearch.Keyed
import RoomSearch.Room

/-!
# The directory of rooms

The directory knows a list of rooms for each of its providers.  The providers are in increasing
order; the rooms of a provider are in the order in which they were listed, and a name may be listed
more than once, in which case the first room of that name is the one that is meant.

## Main definitions

* `Listing` — a provider with its rooms.
* `Directory` — the listings, in order.
* `Directory.rooms`, `Directory.findRoom?` — what is listed.
* `Directory.addRoom`, `Directory.removeRoom`, `Directory.setAutoJoin`, `Directory.setRooms`,
  `Directory.removeProvider` — changes.

## Main results

* `Directory.rooms_setRooms`, `Directory.rooms_removeProvider` — what is listed after a change.
-/

namespace RoomSearch

/-- A provider with its rooms. -/
structure Listing where
  /-- The provider. -/
  provider : ProviderId
  /-- Its rooms, in the order in which they were listed. -/
  rooms : List Room
deriving DecidableEq, Repr

/-- The text that a listing is ordered by. -/
def Listing.key (l : Listing) : String := l.provider.text

/-- The listings of all providers, in order. -/
structure Directory where
  /-- One listing for each provider, in increasing order. -/
  listings : List Listing
deriving DecidableEq, Repr

namespace Directory

/-- The directory without providers. -/
def empty : Directory := ⟨[]⟩

instance : Inhabited Directory := ⟨empty⟩

/-- The providers, in order. -/
def providers (d : Directory) : List ProviderId := d.listings.map Listing.provider

/-- The rooms of a provider; an unknown one has none. -/
def rooms (d : Directory) (provider : ProviderId) : List Room :=
  match Keyed.find? Listing.key provider.text d.listings with
  | some listing => listing.rooms
  | none => []

/-- The first room with the given name in a list. -/
def roomNamed? (name : String) (rooms : List Room) : Option Room :=
  rooms.find? fun room => room.name == name

/-- The room that a provider lists under a name. -/
def findRoom? (d : Directory) (provider : ProviderId) (name : String) : Option Room :=
  roomNamed? name (d.rooms provider)

/-- Replaces the rooms of a provider, which becomes known if it was not. -/
def setRooms (d : Directory) (provider : ProviderId) (rooms : List Room) : Directory :=
  ⟨Keyed.insert Listing.key ⟨provider, rooms⟩ d.listings⟩

/-- Lists one more room of a provider. -/
def addRoom (d : Directory) (provider : ProviderId) (room : Room) : Directory :=
  d.setRooms provider (d.rooms provider ++ [room])

/-- Takes the first room with the given name out of a provider's list. -/
def removeRoom (d : Directory) (provider : ProviderId) (name : String) : Directory :=
  d.setRooms provider ((d.rooms provider).eraseP fun room => room.name == name)

/-- Sets the flag of the first room with the given name. -/
def flagged (name : String) (autoJoin : Bool) : List Room → List Room
  | [] => []
  | room :: rest =>
    if room.name = name then { room with autoJoin } :: rest
    else room :: flagged name autoJoin rest

/-- Sets the flag of the first room with the given name in a provider's list. -/
def setAutoJoin (d : Directory) (provider : ProviderId) (name : String) (autoJoin : Bool) :
    Directory :=
  d.setRooms provider (flagged name autoJoin (d.rooms provider))

/-- Forgets a provider. -/
def removeProvider (d : Directory) (provider : ProviderId) : Directory :=
  ⟨Keyed.erase Listing.key provider.text d.listings⟩

/-! ### What is listed after a change -/

@[simp] theorem rooms_empty (provider : ProviderId) : empty.rooms provider = [] := rfl

/-- The rooms of a provider are those it was given last; the others keep theirs. -/
theorem rooms_setRooms (d : Directory) (changed provider : ProviderId) (rooms : List Room) :
    (d.setRooms changed rooms).rooms provider =
      if changed = provider then rooms else d.rooms provider := by
  simp only [Directory.rooms, setRooms, Keyed.find?_insert]
  by_cases h : changed = provider
  · have hkey : Listing.key ⟨changed, rooms⟩ = provider.text := congrArg ProviderId.text h
    rw [if_pos h, if_pos hkey]
  · have hkey : Listing.key ⟨changed, rooms⟩ ≠ provider.text := fun htext =>
      h (ProviderId.ext htext)
    rw [if_neg h, if_neg hkey]

/-- A provider that is forgotten has no rooms; the others keep theirs. -/
theorem rooms_removeProvider (d : Directory) (removed provider : ProviderId) :
    (d.removeProvider removed).rooms provider =
      if provider = removed then [] else d.rooms provider := by
  simp only [Directory.rooms, removeProvider, Keyed.find?_erase]
  by_cases h : provider = removed
  · rw [if_pos h, if_pos (congrArg ProviderId.text h)]
  · rw [if_neg h, if_neg fun htext => h (ProviderId.ext htext)]

end Directory

end RoomSearch
