import RoomSearch.Entry
import RoomSearch.Status

/-!
# What a query tells its subscribers

A query tells of each result that it has found, that has changed or that is gone, and of each move
of its status.

## Main definitions

* `News` — what has happened.
* `Event` — news with the query it comes from.
-/

namespace RoomSearch

/-- What has happened to a query. -/
inductive News where
  /-- A result has been found. -/
  | found (entry : Entry)
  /-- A result has changed to this. -/
  | changed (entry : Entry)
  /-- A result, which was this, is gone. -/
  | removed (entry : Entry)
  /-- The status has moved to this. -/
  | moved (status : Status)
deriving DecidableEq, Repr

namespace News

/-- The name of the kind of news. -/
def kind : News → String
  | .found _ => "result_found"
  | .changed _ => "result_changed"
  | .removed _ => "result_removed"
  | .moved _ => "status_changed"

/-- The result that the news are about. -/
def entry? : News → Option Entry
  | .found e => some e
  | .changed e => some e
  | .removed e => some e
  | .moved _ => none

end News

/-- News with the query they come from; `ι` tells queries apart. -/
structure Event (ι : Type) where
  /-- The query. -/
  query : ι
  /-- What has happened to it. -/
  news : News
deriving DecidableEq, Repr

end RoomSearch
