import RoomSearch.Json.Token

/-!
# Values of the data format

A value is a scalar, an array of items or an object of members.  Members are kept in the order in
which they are written, and a key may occur more than once: what that means is up to the reader of
the record.

A value is recognised from its tokens by a machine that reads one token at a time and keeps the
arrays and objects that are still open on a stack, so that no depth of nesting is too great.

## Main definitions

* `Value` — the values.
* `Value.tokens` — the tokens a value is written with.
* `Frame`, `State` — the open arrays and objects, and what may come next.
* `State.feed` — the machine's step on one token.
* `Value.ofTokens?`, `Value.parse?` — the value that tokens, or a text, stand for.

## Main results

* `Value.ofTokens?_tokens` — the tokens of a value stand for that value.
-/

namespace RoomSearch.Json

/-- A value.  The payload of a text or a key is absent if it holds an unpaired surrogate. -/
inductive Value where
  /-- The absent value. -/
  | null
  /-- A truth value. -/
  | bool (value : Bool)
  /-- A number. -/
  | number (value : Number)
  /-- A text. -/
  | text (value : Option String)
  /-- A sequence of values. -/
  | array (items : List Value)
  /-- A sequence of keys with their values. -/
  | object (members : List (Option String × Value))

/-! ### The tokens of a value -/

mutual

/-- The tokens that a value is written with. -/
def Value.tokens : Value → List Token
  | .null => [.null]
  | .bool b => [.bool b]
  | .number n => [.number n]
  | .text s => [.text s]
  | .array [] => [.openArray, .closeArray]
  | .array (item :: items) => .openArray :: item.tokens ++ laterItemTokens items
  | .object [] => [.openObject, .closeObject]
  | .object ((key, value) :: members) =>
    .openObject :: .text key :: .colon :: value.tokens ++ laterMemberTokens members
termination_by structural v => v

/-- The tokens of the items after the first one, up to the closing bracket. -/
def laterItemTokens : List Value → List Token
  | [] => [.closeArray]
  | item :: items => .comma :: item.tokens ++ laterItemTokens items
termination_by structural l => l

/-- The tokens of the members after the first one, up to the closing brace. -/
def laterMemberTokens : List (Option String × Value) → List Token
  | [] => [.closeObject]
  | (key, value) :: members =>
    .comma :: .text key :: .colon :: value.tokens ++ laterMemberTokens members
termination_by structural l => l

end

/-! ### Recognising a value -/

/-- An array or object that is still open, its contents with the newest first. -/
inductive Frame where
  /-- An array with the items read so far. -/
  | items (done : List Value)
  /-- An object with the members read so far and the key whose value comes next. -/
  | members (done : List (Option String × Value)) (key : Option String)

/-- What has been read, and what may come next.  The innermost open array or object comes first. -/
inductive State where
  /-- A value must come. -/
  | value (stack : List Frame)
  /-- An array has just been opened: a value or the closing bracket comes. -/
  | firstItem (stack : List Frame)
  /-- An object has just been opened: a key or the closing brace comes. -/
  | firstKey (stack : List Frame)
  /-- A comma has been read in an object with these members: a key must come. -/
  | nextKey (done : List (Option String × Value)) (stack : List Frame)
  /-- A key has been read in an object with these members: a colon must come. -/
  | colon (done : List (Option String × Value)) (key : Option String) (stack : List Frame)
  /-- A value is complete: a comma, the end of what it stands in, or the end of the text comes. -/
  | complete (value : Value) (stack : List Frame)

namespace State

/-- Begins a value whose first token is given. -/
def begin? (token : Token) (stack : List Frame) : Option State :=
  match token with
  | .null => some (.complete .null stack)
  | .bool b => some (.complete (.bool b) stack)
  | .number n => some (.complete (.number n) stack)
  | .text s => some (.complete (.text s) stack)
  | .openArray => some (.firstItem stack)
  | .openObject => some (.firstKey stack)
  | _ => none

/-- Goes on behind a complete value. -/
def continue? (token : Token) (v : Value) (stack : List Frame) : Option State :=
  match token, stack with
  | .comma, .items done :: rest => some (.value (.items (v :: done) :: rest))
  | .closeArray, .items done :: rest => some (.complete (.array (v :: done).reverse) rest)
  | .comma, .members done key :: rest => some (.nextKey ((key, v) :: done) rest)
  | .closeObject, .members done key :: rest =>
    some (.complete (.object ((key, v) :: done).reverse) rest)
  | _, _ => none

/-- Reads one token. -/
def feed (state : State) (token : Token) : Option State :=
  match state with
  | .value stack => begin? token stack
  | .firstItem stack =>
    match token with
    | .closeArray => some (.complete (.array []) stack)
    | _ => begin? token (.items [] :: stack)
  | .firstKey stack =>
    match token with
    | .closeObject => some (.complete (.object []) stack)
    | .text key => some (.colon [] key stack)
    | _ => none
  | .nextKey done stack =>
    match token with
    | .text key => some (.colon done key stack)
    | _ => none
  | .colon done key stack =>
    match token with
    | .colon => some (.value (.members done key :: stack))
    | _ => none
  | .complete v stack => continue? token v stack

/-- Reads tokens one after the other. -/
def feedAll (state : State) (tokens : List Token) : Option State := tokens.foldlM feed state

/-- The value that has been read, if it is complete and nothing is open. -/
def result? : State → Option Value
  | .complete v [] => some v
  | _ => none

/-! ### Reading the tokens of a value -/

theorem feedAll_cons (state : State) (token : Token) (rest : List Token) :
    feedAll state (token :: rest) = (state.feed token).bind fun next => next.feedAll rest := rfl

/-- A value may come first in an array just as it may behind a comma. -/
theorem feedAll_firstItem (v : Value) (stack : List Frame) (rest : List Token) :
    feedAll (.firstItem stack) (v.tokens ++ rest) =
      feedAll (.value (.items [] :: stack)) (v.tokens ++ rest) := by
  cases v with
  | array items => cases items <;> simp [Value.tokens, feedAll_cons, feed, begin?]
  | object members => cases members <;> simp [Value.tokens, feedAll_cons, feed, begin?]
  | _ => simp [Value.tokens, feedAll_cons, feed, begin?]

mutual

/-- The tokens of a value complete that value. -/
theorem feedAll_tokens (v : Value) (stack : List Frame) (rest : List Token) :
    feedAll (.value stack) (v.tokens ++ rest) = feedAll (.complete v stack) rest := by
  cases v with
  | null | bool | number | text => simp [Value.tokens, feedAll_cons, feed, begin?]
  | array items =>
    cases items with
    | nil => simp [Value.tokens, feedAll_cons, feed, begin?]
    | cons item items =>
      simp only [Value.tokens, List.cons_append, List.append_assoc, feedAll_cons, feed, begin?,
        Option.bind_some]
      rw [feedAll_firstItem, feedAll_tokens item, feedAll_laterItemTokens]
      simp
  | object members =>
    cases members with
    | nil => simp [Value.tokens, feedAll_cons, feed, begin?]
    | cons member members =>
      obtain ⟨key, value⟩ := member
      simp only [Value.tokens, List.cons_append, List.append_assoc, feedAll_cons, feed, begin?,
        Option.bind_some]
      rw [feedAll_tokens value, feedAll_laterMemberTokens]
      simp

/-- The tokens of later items complete the array they stand in. -/
theorem feedAll_laterItemTokens (items done : List Value) (v : Value) (stack : List Frame)
    (rest : List Token) :
    feedAll (.complete v (.items done :: stack)) (laterItemTokens items ++ rest) =
      feedAll (.complete (.array ((v :: done).reverse ++ items)) stack) rest := by
  cases items with
  | nil => simp [laterItemTokens, feedAll_cons, feed, continue?]
  | cons item items =>
    simp only [laterItemTokens, List.cons_append, List.append_assoc, feedAll_cons, feed, continue?,
      Option.bind_some]
    rw [feedAll_tokens item, feedAll_laterItemTokens]
    simp

/-- The tokens of later members complete the object they stand in. -/
theorem feedAll_laterMemberTokens (members done : List (Option String × Value))
    (key : Option String) (v : Value) (stack : List Frame) (rest : List Token) :
    feedAll (.complete v (.members done key :: stack)) (laterMemberTokens members ++ rest) =
      feedAll (.complete (.object (((key, v) :: done).reverse ++ members)) stack) rest := by
  cases members with
  | nil => simp [laterMemberTokens, feedAll_cons, feed, continue?]
  | cons member members =>
    obtain ⟨key, value⟩ := member
    simp only [laterMemberTokens, List.cons_append, List.append_assoc, feedAll_cons, feed,
      continue?, Option.bind_some]
    rw [feedAll_tokens value, feedAll_laterMemberTokens]
    simp

end

end State

namespace Value

/-- The value that the tokens are written for. -/
def ofTokens? (tokens : List Token) : Option Value :=
  (State.feedAll (.value []) tokens).bind State.result?

/-- The value that a text stands for. -/
def parse? (s : String) : Option Value := (Token.scan? s.toList).bind ofTokens?

/-- **Reading what is written**: the tokens of a value stand for that value. -/
@[simp] theorem ofTokens?_tokens (v : Value) : ofTokens? v.tokens = some v := by
  have h := State.feedAll_tokens v [] []
  rw [List.append_nil] at h
  rw [ofTokens?, h]
  rfl

end Value

end RoomSearch.Json
