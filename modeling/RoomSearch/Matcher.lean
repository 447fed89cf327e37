import RoomSearch.Named
import RoomSearch.Text.LowerCase

/-!
# Matching rooms with a query

A room matches a query if its name or its identifier begins with it; the empty query matches every
room.  In the relaxed mode the query, the name and the identifier are lowered first, each on its
own.

## Main definitions

* `MatchMode` — whether case counts.
* `begins` — one text begins with another.
* `Matcher` — a query with its mode.
* `Matcher.accepts` — whether a room matches.
-/

namespace RoomSearch

/-- How a query is compared with names. -/
inductive MatchMode where
  /-- As it stands. -/
  | exact
  /-- In lower case. -/
  | ignoreCase
deriving DecidableEq, Repr

instance : Inhabited MatchMode := ⟨.exact⟩

instance : Named MatchMode where
  name
    | .exact => "prefix"
    | .ignoreCase => "prefix_ignore_case"
  all := [.exact, .ignoreCase]
  find?_name a := by cases a <;> rfl

/-- Whether `s` begins with `start`. -/
def begins (start s : String) : Bool := start.toList.isPrefixOf s.toList

/-- Whether the query is empty or one of the two names begins with it. -/
def matchesExactly (query name identifier : String) : Bool :=
  query.isEmpty || begins query name || begins query identifier

/-- A query with the mode in which it is compared. -/
structure Matcher where
  /-- The query as it was given. -/
  query : String
  /-- The mode. -/
  mode : MatchMode
deriving DecidableEq, Repr

namespace Matcher

/-- The text in the form in which it is compared. -/
def folded (m : Matcher) (s : String) : String :=
  match m.mode with
  | .exact => s
  | .ignoreCase => Text.lowered s

/-- Whether a room with this name and identifier matches. -/
def accepts (m : Matcher) (name identifier : String) : Bool :=
  matchesExactly (m.folded m.query) (m.folded name) (m.folded identifier)

end Matcher

end RoomSearch
