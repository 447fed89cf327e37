import RoomSearch.Session.Settling

/-!
# Reports of sessions

## Main definitions

* `Line.isShown` — the lines of the journal that are reported.
* `Session.execute` — performs an action with all that it leads to, and reports it.
-/

namespace RoomSearch

/-- Whether a line of the journal is reported: deliveries to listeners and to observers, and the
answers of actions. -/
def Line.isShown : Line → Bool
  | .noted (.delivered _ ⟨_, .listener _, _⟩) => true
  | .noted (.tapped ..) => true
  | .answered .. => true
  | .noted _ => false

/-- What came of an action. -/
structure Report where
  /-- Its answer. -/
  reply : Reply
  /-- What happened meanwhile, in order. -/
  lines : List Line

namespace Session

/-- Performs an action and everything that it leads to.  The answer of the action is the last line
of the journal. -/
def execute (s : Session) (a : Action) : Session × Report :=
  let s := { s with calls := [.script [a]], journal := [] }.settle
  match s.journal with
  | .answered _ reply :: earlier => (s, ⟨reply, (earlier.filter Line.isShown).reverse⟩)
  | lines => (s, ⟨.done, (lines.filter Line.isShown).reverse⟩)

end Session

end RoomSearch
