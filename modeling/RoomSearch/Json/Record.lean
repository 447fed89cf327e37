import RoomSearch.Json.Value

/-!
# Reading records and alternatives

A record with named fields is written as an object, or as an array of the values of its fields in
the order of their declaration.  In an object the order of the members does not matter, members
with other keys are passed over, and no field may be given twice; every key must be a proper text.
An array may be shorter than the record, never longer.  Which fields may be left out is up to the
reader of the record.

An alternative without contents is written as its name, or as an object whose only key is the name
with an absent value.

## Main definitions

* `Value.fields?` — the fields that a record gives.
* `Value.name?` — the name of an alternative.
* `Value.text?`, `Value.bool?`, `Value.natural?` — scalars.
* `Value.isPlain` — values that can be set aside before it is known what they are read as.
-/

namespace RoomSearch.Json.Value

/-- The text of a proper text. -/
def text? : Value → Option String
  | .text s => s
  | _ => none

/-- The truth value. -/
def bool? : Value → Option Bool
  | .bool b => some b
  | _ => none

/-- The number, if it is written with digits alone. -/
def natural? : Value → Option Nat
  | .number n => n.natural?
  | _ => none

/-- The fields that a record gives, each at most once. -/
def fields? (names : List String) (v : Value) : Option (List (String × Value)) :=
  match v with
  | .array items => if items.length ≤ names.length then some (names.zip items) else none
  | .object members => do
    -- a key has to be a proper text even if its member is passed over
    let named ← members.mapM fun (key, value) => key.map (·, value)
    let given := named.filter fun (key, _) => names.contains key
    if (given.map Prod.fst).Nodup then some given else none
  | _ => none

/-- Whether the value may stand behind the name of an alternative without contents.  A value that
was set aside before it was read may also be an empty object. -/
def isNothing (aside : Bool) : Value → Bool
  | .null => true
  | .object [] => aside
  | _ => false

/-- The name of an alternative without contents. -/
def name? (aside : Bool) (v : Value) : Option String :=
  match v with
  | .text s => s
  | .object [(some key, value)] => if value.isNothing aside then some key else none
  | _ => none

/-- Whether the value can be set aside whole: every text in it is proper, every number is finite,
and at most `depth` arrays and objects are open at once. -/
def isPlain (depth : Nat) (v : Value) : Bool :=
  match depth, v with
  | _, .null => true
  | _, .bool _ => true
  | _, .number n => n.isFinite
  | _, .text s => s.isSome
  | 0, .array _ => false
  | 0, .object _ => false
  | depth + 1, .array items => items.all (isPlain depth)
  | depth + 1, .object members =>
    members.all fun (key, value) => key.isSome && isPlain depth value

end RoomSearch.Json.Value
