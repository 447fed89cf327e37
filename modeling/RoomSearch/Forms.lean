import RoomSearch.Config
import RoomSearch.Event
import RoomSearch.Json.Record
import RoomSearch.Json.Text
import RoomSearch.Notice

/-!
# Written forms of rooms, entries, configurations and events

Each of these is written as an object with its fields in the order of their declaration.  Rooms,
entries and configurations are read from such an object or from the array of the values; in a
configuration every field may be left out.

An event carries its kind under the key `type`, next to the fields that its kind has.  Since the
kind may come last, an event is set aside whole before its fields are read, which asks more of the
values that are passed over: see `Json.Value.isPlain`.

## Main definitions

* `Named.toJson`, `Named.ofJson?` — members of finite kinds.
* `Room.toJson`, `Room.ofJson?` — rooms; likewise `Entry`, `Config`, `Event`.
* `Config.ofText?` — a configuration from its text, and `Config.ofFile?` from a file's bytes.
-/

namespace RoomSearch

open Json

/-- An object with the given fields. -/
def record (fields : List (String × Value)) : Value :=
  .object (fields.map fun (key, value) => (some key, value))

/-- A proper text. -/
def properText (s : String) : Value := .text (some s)

/-! ### Finite kinds and providers -/

/-- A member of a finite kind is written as its name. -/
def Named.toJson {α : Type} [Named α] (a : α) : Value := properText (Named.name a)

/-- Reads a member of a finite kind, `aside` if the value was set aside before. -/
def Named.ofJson? {α : Type} [Named α] (aside : Bool) (v : Value) : Option α :=
  (v.name? aside).bind Named.ofName?

/-- A provider is written as its text. -/
def ProviderId.toJson (p : ProviderId) : Value := properText p.text

/-- Reads a provider. -/
def ProviderId.ofJson? (v : Value) : Option ProviderId := v.text?.map ProviderId.mk

/-! ### Rooms -/

/-- The fields of a room. -/
def Room.fieldNames : List String := ["name", "identifier", "auto_join"]

/-- The written form of a room. -/
def Room.toJson (r : Room) : Value :=
  record [("name", properText r.name), ("identifier", properText r.identifier),
    ("auto_join", .bool r.autoJoin)]

/-- Reads a room; no field may be missing. -/
def Room.ofJson? (v : Value) : Option Room := do
  let fields ← v.fields? Room.fieldNames
  let name ← (← fields.lookup "name").text?
  let identifier ← (← fields.lookup "identifier").text?
  let autoJoin ← (← fields.lookup "auto_join").bool?
  some ⟨name, identifier, autoJoin⟩

/-! ### Entries -/

/-- The fields of an entry. -/
def Entry.fieldNames : List String := ["address", "identifier", "provider", "presence", "auto_join"]

/-- The written form of an entry. -/
def Entry.toJson (e : Entry) : Value :=
  record [("address", properText e.address), ("identifier", properText e.identifier),
    ("provider", e.provider.toJson), ("presence", Named.toJson e.presence),
    ("auto_join", .bool e.autoJoin)]

/-- Reads an entry; no field may be missing. -/
def Entry.ofJson? (aside : Bool) (v : Value) : Option Entry := do
  let fields ← v.fields? Entry.fieldNames
  let address ← (← fields.lookup "address").text?
  let identifier ← (← fields.lookup "identifier").text?
  let provider ← ProviderId.ofJson? (← fields.lookup "provider")
  let presence ← Named.ofJson? aside (← fields.lookup "presence")
  let autoJoin ← (← fields.lookup "auto_join").bool?
  some ⟨address, identifier, provider, presence, autoJoin⟩

/-! ### Configurations -/

/-- The fields of a configuration. -/
def Config.fieldNames : List String := ["match_mode", "event_bus_capacity", "source_display_name"]

/-- The written form of a configuration. -/
def Config.toJson (c : Config) : Value :=
  record [("match_mode", Named.toJson c.matchMode),
    ("event_bus_capacity", .number (.ofNat c.busCapacity.toNat)),
    ("source_display_name", properText c.displayName)]

/-- The machine word with the given value. -/
def word? (n : Nat) : Option UInt64 := if n < UInt64.size then some (UInt64.ofNat n) else none

/-- Reads the field with the given name, if it is given; otherwise there is a default. -/
def fieldOr {α : Type} (fields : List (String × Value)) (name : String) (default : α)
    (read : Value → Option α) : Option α :=
  match fields.lookup name with
  | none => some default
  | some v => read v

/-- Reads a configuration; fields that are missing have their defaults. -/
def Config.ofJson? (v : Value) : Option Config := do
  let fields ← v.fields? Config.fieldNames
  let matchMode ← fieldOr fields "match_mode" Config.default.matchMode (Named.ofJson? false)
  let busCapacity ← fieldOr fields "event_bus_capacity" Config.default.busCapacity
    fun v => v.natural?.bind word?
  let displayName ← fieldOr fields "source_display_name" Config.default.displayName Value.text?
  some ⟨matchMode, busCapacity, displayName⟩

/-- The configuration that a text stands for, if an event bus can keep an event. -/
def Config.ofText? (text : String) : Except ConfigError Config :=
  match (Value.parse? text).bind Config.ofJson? with
  | none => .error .malformed
  | some config => if config.busCapacity = 0 then .error .zeroCapacity else .ok config

/-- The configuration in a file, given the file's bytes if there is such a file. -/
def Config.ofFile? (file : String) (bytes : Option ByteArray) : Except ConfigError Config :=
  match bytes.bind String.fromUTF8? with
  | none => .error (.unreadable file)
  | some text => (Config.ofText? text).mapError (.invalid file)

/-! ### Events -/

/-- The written form of an event, `text` being how the query is named in it. -/
def Event.toJson {ι : Type} (text : ι → String) (event : Event ι) : Value :=
  record (("type", properText event.news.kind) :: ("query_id", properText (text event.query)) ::
    match event.news with
    | .found e => [("entry", e.toJson)]
    | .changed e => [("entry", e.toJson)]
    | .removed e => [("entry", e.toJson)]
    | .moved status => [("status", Named.toJson status)])

/-- The greatest number of arrays and objects open at once in an event. -/
def Event.maxDepth : Nat := 127

/-- Takes the kind off: the kind, and the other fields as an object or an array. -/
def Event.untag? (v : Value) : Option (String × Value) :=
  match v with
  | .array (tag :: rest) => tag.text?.map (·, .array rest)
  | .object members =>
    match members.filter (fun member => member.1 == some "type") with
    | [(_, tag)] =>
      tag.text?.map (·, .object (members.filter fun member => member.1 != some "type"))
    | _ => none
  | _ => none

/-- Reads the query of an event and what its second field holds. -/
def Event.body? {α : Type} (name : String) (read : Value → Option α) (v : Value) :
    Option (Uuid × α) := do
  let fields ← v.fields? ["query_id", name]
  let query ← Uuid.ofText? (← (← fields.lookup "query_id").text?)
  let body ← read (← fields.lookup name)
  some (query, body)

/-- Reads an event. -/
def Event.ofJson? (v : Value) : Option (Event Uuid) := do
  if !v.isPlain Event.maxDepth then none
  let (kind, rest) ← Event.untag? v
  match kind with
  | "result_found" =>
    (Event.body? "entry" (Entry.ofJson? true) rest).map fun (q, e) => ⟨q, .found e⟩
  | "result_changed" =>
    (Event.body? "entry" (Entry.ofJson? true) rest).map fun (q, e) => ⟨q, .changed e⟩
  | "result_removed" =>
    (Event.body? "entry" (Entry.ofJson? true) rest).map fun (q, e) => ⟨q, .removed e⟩
  | "status_changed" =>
    (Event.body? "status" (Named.ofJson? true) rest).map fun (q, s) => ⟨q, .moved s⟩
  | _ => none

end RoomSearch
