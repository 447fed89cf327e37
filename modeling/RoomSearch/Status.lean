import RoomSearch.Named
import RoomSearch.Uuid

/-!
# The life of a query

A query runs until its first search is done; it is then completed, though it keeps its results up
to date.  From either state it can be canceled, which ends it.

## Main definitions

* `Status` — the states of a query.
* `Status.isTerminal` — whether the first search is over.
* `QueryError` — why a call on a query fails.
* `QueryError.message` — the message of an error.
-/

namespace RoomSearch

/-- The states of a query. -/
inductive Status where
  /-- The first search is not done. -/
  | running
  /-- The first search is done. -/
  | completed
  /-- The query has ended. -/
  | canceled
deriving DecidableEq, Repr

instance : Inhabited Status := ⟨.running⟩

instance : Named Status where
  name
    | .running => "running"
    | .completed => "completed"
    | .canceled => "canceled"
  all := [.running, .completed, .canceled]
  find?_name a := by cases a <;> rfl

/-- Whether the first search is over. -/
def Status.isTerminal : Status → Bool
  | .running => false
  | .completed => true
  | .canceled => true

/-- Why a call on a query fails.  `ι` tells queries apart. -/
inductive QueryError (ι : Type) where
  /-- The first search of this query was asked for before. -/
  | alreadyStarted (query : ι)
  /-- The query cannot move from the one state to the other. -/
  | invalidMove (current requested : Status)
deriving DecidableEq, Repr

/-- The message of an error, `text` being how queries are named in it. -/
def QueryError.message {ι : Type} (text : ι → String) : QueryError ι → String
  | .alreadyStarted query => "query " ++ text query ++ " has already been started"
  | .invalidMove current requested =>
    "invalid query status transition from " ++ Named.name current ++ " to " ++ Named.name requested

end RoomSearch
