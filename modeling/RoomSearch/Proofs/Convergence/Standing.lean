import RoomSearch.Proofs.Convergence.Current

/-!
# How a query stands with the directory

What a query has found can be compared with the directory in more than one respect: all of its
results may be at stake, or those at one address only.  Whatever the respect is, it has to outlast
the same events: the query does its errands, and it hears of what has changed.

## Main definitions

* `Standing` — a respect in which a query is compared with the directory.
* `Standing.Upheld` — it outlasts whatever the query does, and whatever it hears of.

## Main results

* `Current.upheld` — a query that keeps up with the directory in all respects goes on doing so.
-/

namespace RoomSearch

/-- A respect in which a query is compared with the directory, its errands considered. -/
abbrev Standing := Directory → Query → List Errand → Prop

/-- What a query does, and what it hears of when the directory changes, leaves it in good
standing. -/
structure Standing.Upheld (S : Standing) : Prop where
  course : ∀ {d query query' errands}, S d query errands → query.SameCourse query' →
    S d query' errands
  /-- Rooms are read. -/
  scan : ∀ {d query p below}, S d query (.scan p :: below) →
    S d query (.merge p query.epoch (d.rooms p) :: below)
  /-- Rooms are not merged, but read again. -/
  rescan : ∀ {d query p epoch rooms below}, S d query (.merge p epoch rooms :: below) →
    S d query (.scan p :: below)
  /-- Rooms are merged in the epoch in which they were read. -/
  merge : ∀ {d query p rooms below}, S d query (.merge p query.epoch rooms :: below) →
    d.Distinct → S d { query with results := (query.results.mergeRooms p
      (rooms.filter fun room => query.accepts room.name room.identifier)).2 } below
  /-- A new provider is heard of. -/
  hear : ∀ {d query p below}, S d query (.hear p :: below) →
    S d query.advanceEpoch (.scan p :: below)
  /-- The first search begins. -/
  start : ∀ {d query errands}, S d query errands →
    S d { query with started := true } (d.providers.map .scan ++ errands)
  /-- A provider is new, and is going to be heard of. -/
  enter : ∀ {d d' query errands p}, ∀ {rooms : List Room}, S d query errands →
    (∀ p' r, r ∈ d'.rooms p' ↔ r ∈ d.rooms p' ∨ p' = p ∧ r ∈ rooms) →
    S d' query (.hear p :: errands)
  /-- A new room is passed over. -/
  passed : ∀ {d d' query errands p room}, S d query errands →
    (∀ p' r, r ∈ d'.rooms p' ↔ r ∈ d.rooms p' ∨ p' = p ∧ r = room) →
    query.accepts room.name room.identifier = false → S d' query errands
  /-- A new room becomes a result. -/
  added : ∀ {d d' query errands p room}, S d query errands → d'.Distinct →
    (∀ p' r, r ∈ d'.rooms p' ↔ r ∈ d.rooms p' ∨ p' = p ∧ r = room) →
    query.accepts room.name room.identifier = true →
    S d' { query.advanceEpoch with results := (query.results.mergeRoom p room).2 } errands
  /-- A room is gone. -/
  removed : ∀ {d d' query errands}, ∀ {room : Room}, S d query errands →
    (∀ p' r, r ∈ d'.rooms p' ↔ r ∈ d.rooms p' ∧ r.name ≠ room.name) →
    S d' { query.advanceEpoch with results := (query.results.dropRoom room.name).2 } errands
  /-- A room has another flag. -/
  changed : ∀ {d d' query errands p room autoJoin}, S d query errands → d.Distinct →
    room ∈ d.rooms p →
    (∀ p' r, r ∈ d'.rooms p' ↔
      r ∈ d.rooms p' ∧ r.name ≠ room.name ∨ p' = p ∧ r = { room with autoJoin }) →
    S d' { query.advanceEpoch with results := (query.results.setAutoJoin room.name autoJoin).2 }
      errands
  /-- A provider is gone. -/
  gone : ∀ {d d' query errands p}, S d query errands → query.results.Sorted →
    (∀ p' r, r ∈ d'.rooms p' ↔ r ∈ d.rooms p' ∧ p' ≠ p) →
    S d' { query.advanceEpoch with results := (query.results.dropProvider p).2 } errands

/-- **A query that keeps up** with the directory, in respect of all that it finds, goes on doing
so. -/
theorem Current.upheld : Standing.Upheld Current where
  course := of_sameCourse
  scan := scan
  rescan := rescan
  merge := merge
  hear := hear
  start := start
  enter := enter
  passed := passed
  added := added
  removed := removed
  changed := changed
  gone := gone

end RoomSearch
