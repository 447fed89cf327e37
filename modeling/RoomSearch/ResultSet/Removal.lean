import RoomSearch.ResultSet.Operations

/-!
# The course of a removal

A predicate that decides what is taken out of a set is asked first, for all entries in order, and
only the addresses of those for which it holds are marked.  Then the marked addresses are looked up
again, one after the other, and what is found is taken out.  The predicate may remember what it has
been asked, so that a record of the calls belongs to the course.

## Main definitions

* `ResultSet.Inquiry` — a call of the predicate.
* `ResultSet.Removal` — a removal in progress; `ResultSet.Removal.inquire` and
  `ResultSet.Removal.takeOut` are its steps.
* `ResultSet.removal` — both passes over a set.
-/

namespace RoomSearch.ResultSet

/-- A call of a predicate. -/
structure Inquiry where
  /-- The set as it stood. -/
  stood : ResultSet
  /-- The entry that the predicate was asked for. -/
  entry : Entry
  /-- What it answered. -/
  answer : Bool
deriving DecidableEq, Repr

/-- A removal in progress. -/
structure Removal (σ : Type) where
  /-- The set as it stands. -/
  set : ResultSet
  /-- What the predicate remembers. -/
  memory : σ
  /-- The calls of the predicate, in order. -/
  inquiries : List Inquiry
  /-- The addresses that have been marked, in order. -/
  marked : List String
  /-- The entries that have been taken out, in order. -/
  removed : List Entry
deriving DecidableEq, Repr

namespace Removal

variable {σ : Type}

/-- A removal before its first step. -/
def start (s : ResultSet) (memory : σ) : Removal σ := ⟨s, memory, [], [], []⟩

/-- Asks the predicate for an entry, and marks the address of the entry if it holds. -/
def inquire (ask : σ → Entry → Bool × σ) (r : Removal σ) (e : Entry) : Removal σ :=
  let (answer, memory) := ask r.memory e
  { r with
    memory
    inquiries := r.inquiries ++ [⟨r.set, e, answer⟩]
    marked := if answer then r.marked ++ [e.address] else r.marked }

/-- Looks an address up and takes out the entry that is there. -/
def takeOut (r : Removal σ) (address : String) : Removal σ :=
  let (former, set) := r.set.remove address
  { r with set, removed := r.removed ++ former.toList }

/-- The first pass: the predicate is asked for all entries. -/
def inquireAll (ask : σ → Entry → Bool × σ) (r : Removal σ) : Removal σ :=
  r.set.entries.foldl (inquire ask) r

/-- The second pass: what stands at the marked addresses is taken out. -/
def takeOutAll (r : Removal σ) : Removal σ := r.marked.foldl takeOut r

end Removal

/-- Takes out the entries for which a predicate with a memory holds, in two passes. -/
def removal {σ : Type} (s : ResultSet) (ask : σ → Entry → Bool × σ) (memory : σ) : Removal σ :=
  ((Removal.start s memory).inquireAll ask).takeOutAll

end RoomSearch.ResultSet
