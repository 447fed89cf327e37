import RoomSearch.Matcher
import RoomSearch.ResultSet

/-!
# Filters with a memory

A filter states conditions on entries.  One of them depends on the order in which entries are shown
to it: it holds for every so many entries only.

## Main definitions

* `EntryFilter` — the conditions.
* `EntryFilter.ask` — the filter as a predicate that remembers the addresses it was shown.
-/

namespace RoomSearch

/-- Conditions on entries; those that are absent always hold. -/
structure EntryFilter where
  /-- The provider of the entry. -/
  provider : Option ProviderId
  /-- What the address of the entry begins with. -/
  start : Option String
  /-- The flag of the entry. -/
  autoJoin : Option Bool
  /-- The presence of the entry. -/
  presence : Option Presence
  /-- The number that the visits must be a multiple of, the first one being visit 1. -/
  every : Option Nat

namespace EntryFilter

/-- Whether the conditions hold for an entry shown at the given visit. -/
def holds (f : EntryFilter) (visit : Nat) (e : Entry) : Bool :=
  (f.provider.elim true fun p => p == e.provider) &&
    (f.start.elim true fun start => begins start e.address) &&
    (f.autoJoin.elim true fun flag => flag == e.autoJoin) &&
    (f.presence.elim true fun p => p == e.presence) &&
    (f.every.elim true fun n => visit % n == 0)

/-- The filter as a predicate with a memory: the addresses it was shown, the latest first. -/
def ask (f : EntryFilter) (seen : List String) (e : Entry) : Bool × List String :=
  (f.holds (seen.length + 1) e, e.address :: seen)

end EntryFilter

end RoomSearch
