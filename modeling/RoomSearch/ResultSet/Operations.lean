import RoomSearch.ResultSet

/-!
# Work on a result set

The owner of a set edits it, puts copies of it aside and goes back to them.  Putting an entry in and
taking one out hand over the entry that was at the address, and taking out by a predicate hands over
all that it takes out.

What an edit does is a parameter of the work, so that anything that can be edited can be worked on
in the same way.

## Main definitions

* `ResultSet.upsert`, `ResultSet.remove` — the changes at one address, with the entry that was there.
* `ResultSet.Edit`, `ResultSet.edit` — the edits, and what they do to a set.
* `Shelf` — what is worked on, with the copies put aside; `Shelf.perform`, `Shelf.performAll` — the
  work.
-/

namespace RoomSearch

namespace ResultSet

/-- Puts an entry in; the result has the one that gave way. -/
def upsert (s : ResultSet) (e : Entry) : Option Entry × ResultSet := (s.find? e.address, s.insert e)

/-- Takes the entry with the given address out; the result has the one that was there. -/
def remove (s : ResultSet) (address : String) : Option Entry × ResultSet :=
  (s.find? address, s.erase address)

/-- An edit of a set of entries. -/
inductive Edit : Type 1
  /-- Put an entry in. -/
  | upsert (e : Entry)
  /-- Take an entry out. -/
  | remove (address : String)
  /-- Take out the entries for which a predicate with a memory holds. -/
  | removeWhere {σ : Type} (ask : σ → Entry → Bool × σ) (memory : σ)

/-- What an operation hands over. -/
inductive Outcome
  /-- The entry that was at the address. -/
  | former (e : Option Entry)
  /-- The entries that were taken out, in order. -/
  | removed (entries : List Entry)
  /-- Nothing. -/
  | nothing
deriving DecidableEq, Repr

/-- What an edit hands over, and the set after it. -/
def edit (s : ResultSet) : Edit → Outcome × ResultSet
  | .upsert e => (.former (s.upsert e).1, (s.upsert e).2)
  | .remove address => (.former (s.remove address).1, (s.remove address).2)
  | .removeWhere ask memory =>
    let (removed, _, rest) := s.removeWhere ask memory
    (.removed removed, rest)

/-- A piece of work on a set of entries. -/
inductive Operation : Type 1
  /-- Edit the set. -/
  | edit (edit : Edit)
  /-- Put a copy of the set aside, behind the earlier ones. -/
  | setAside
  /-- Go back to the copy at a place; where there is none the set stays. -/
  | restore (place : Nat)

end ResultSet

open ResultSet (Edit Outcome Operation)

/-- What is worked on, and the copies of it. -/
structure Shelf (α : Type) where
  /-- What is worked on. -/
  current : α
  /-- The copies that were put aside, in order. -/
  aside : List α
deriving DecidableEq, Repr

namespace Shelf

variable {α : Type}

/-- What a piece of work hands over and the shelf after it, where `edit` says what edits do. -/
def perform (edit : α → Edit → Outcome × α) (shelf : Shelf α) : Operation → Outcome × Shelf α
  | .edit e =>
    let (outcome, current) := edit shelf.current e
    (outcome, { shelf with current })
  | .setAside => (.nothing, { shelf with aside := shelf.aside ++ [shelf.current] })
  | .restore place => (.nothing, { shelf with current := shelf.aside[place]?.getD shelf.current })

/-- What pieces of work hand over one after the other, and the shelf after them. -/
def performAll (edit : α → Edit → Outcome × α) (shelf : Shelf α) :
    List Operation → List Outcome × Shelf α
  | [] => ([], shelf)
  | operation :: rest =>
    let (outcome, shelf) := shelf.perform edit operation
    let (later, shelf) := shelf.performAll edit rest
    (outcome :: later, shelf)

end Shelf

/-- The shelf of an owner that begins with the empty set. -/
def ResultSet.worked (operations : List Operation) : List Outcome × Shelf ResultSet :=
  Shelf.performAll ResultSet.edit ⟨.empty, []⟩ operations

end RoomSearch
