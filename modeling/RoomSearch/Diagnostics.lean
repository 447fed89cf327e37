import RoomSearch.Config
import RoomSearch.Notice
import RoomSearch.Text.Quoted

/-!
# Diagnostic texts

## Main definitions

* `ConfigError.contexts` — what an error of a configuration says, from the outside inwards.
* `RegistrationNotice.line`, `RegistrationNotice.outline` — a registration notice on one line, or
  with a line for each field.
-/

namespace RoomSearch

open Text

/-- What an error says, from the outermost context inwards. -/
def ConfigError.contexts : ConfigError → List String
  | .malformed => ["Failed to parse query config"]
  | .zeroCapacity => ["event_bus_capacity must be greater than zero"]
  | .unreadable file => ["Failed to read query config: " ++ quoted file]
  | .invalid file cause => ("Invalid query config: " ++ quoted file) :: cause.contexts

/-- What an error says first. -/
def ConfigError.message (e : ConfigError) : String := e.contexts.headD ""

/-- The word for a change of a registration. -/
def RegistrationChange.word : RegistrationChange → String
  | .registered => "Registered"
  | .unregistering => "Unregistering"

namespace RegistrationNotice

/-- A notice about the service of a provider, on one line. -/
def line (notice : RegistrationNotice ProviderId) : String :=
  "RegistrationEvent \x7b provider: ProviderId(" ++ quoted notice.service.text ++
    "), change: " ++ notice.change.word ++
    ", owner_stopping: " ++ toString notice.ownerStopping ++ " \x7d"

/-- A notice about the service of a provider, a line for each field. -/
def outline (notice : RegistrationNotice ProviderId) : String :=
  "RegistrationEvent \x7b\n" ++
    "    provider: ProviderId(\n        " ++ quoted notice.service.text ++ ",\n    ),\n" ++
    "    change: " ++ notice.change.word ++ ",\n" ++
    "    owner_stopping: " ++ toString notice.ownerStopping ++ ",\n\x7d"

end RegistrationNotice

end RoomSearch
