import RoomSearch.Matcher

/-!
# Configuration of searches

A configuration says how queries are compared with rooms, how many events an event bus keeps, and
under what name the searches are shown.  Everything has a default.  The number of events is a
machine word; zero is refused when a configuration is read.

## Main definitions

* `Config` — a configuration; `Config.default` has the defaults.
* `ConfigError` — why a configuration cannot be had.
-/

namespace RoomSearch

/-- A configuration of searches. -/
structure Config where
  /-- How queries are compared with rooms. -/
  matchMode : MatchMode
  /-- How many events an event bus is to keep. -/
  busCapacity : UInt64
  /-- The name under which searches are shown. -/
  displayName : String
deriving DecidableEq, Repr

namespace Config

/-- The defaults. -/
def default : Config := ⟨.exact, 256, "Chat rooms"⟩

instance : Inhabited Config := ⟨default⟩

/-- The configuration with another mode of comparison. -/
def withMatchMode (config : Config) (mode : MatchMode) : Config := { config with matchMode := mode }

end Config

/-- Why a configuration cannot be had. -/
inductive ConfigError where
  /-- The text is not the text of a configuration. -/
  | malformed
  /-- An event bus would keep no event at all. -/
  | zeroCapacity
  /-- The file with this name cannot be read, or its bytes are no text. -/
  | unreadable (file : String)
  /-- The text of the file with this name is refused. -/
  | invalid (file : String) (cause : ConfigError)
deriving DecidableEq, Repr

end RoomSearch
