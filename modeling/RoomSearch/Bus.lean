/-!
# The event bus

A bus passes what is published on it to any number of readers, each of which reads at its own pace.
It keeps the last values only, as many as its window holds; the window is the capacity that was
asked for, rounded up to a power of two.  A reader that has fallen further behind loses the values
it has missed: its next read counts them as skipped and goes on with the oldest value still kept.

What is published while there is no reader is dropped, and a reader sees what is published after
its subscription.

## Main definitions

* `Bus` — the kept values and the readers.
* `Bus.windowOf` — how many values a bus of a capacity keeps.
* `Bus.ofCapacity?` — a bus of a capacity, if one can be built.
* `Bus.publish`, `Bus.subscribe`, `Bus.read`, `Bus.leave` — its operations.

## Main results

* `Bus.le_windowOf`, `Bus.windowOf_lt` — a capacity is rounded up, to less than twice as much.
-/

namespace RoomSearch

/-- The identity of a reader of a bus. -/
structure ReaderId where
  /-- The number of readers before this one. -/
  index : Nat
deriving DecidableEq, Repr

/-- How far a reader has read. -/
structure Reader where
  /-- The identity of the reader. -/
  id : ReaderId
  /-- The number of values published before the one to be read next. -/
  next : Nat
  /-- The number of values that the reader has lost. -/
  skipped : Nat
deriving DecidableEq, Repr

/-- A bus for values of type `α`. -/
structure Bus (α : Type) where
  /-- How many values are kept. -/
  window : Nat
  /-- How many values have been published while there was a reader. -/
  sent : Nat
  /-- The last of them, the oldest first. -/
  kept : List α
  /-- The readers, in the order of subscription. -/
  readers : List Reader
  /-- The identity of the reader to come. -/
  nextReader : ReaderId
deriving Repr

namespace Bus

variable {α : Type}

/-- The greatest capacity that a channel admits: half of the greatest machine word. -/
def maxCapacity : Nat := UInt64.size / 2 - 1

/-- How many values are kept for a capacity: the least power of two that is not below it. -/
def windowOf (capacity : Nat) : Nat := Nat.pow 2 (2 * capacity - 1).log2

/-- A capacity is rounded up. -/
theorem le_windowOf (capacity : Nat) : capacity ≤ windowOf capacity := by
  have : 2 * capacity - 1 < Nat.pow 2 ((2 * capacity - 1).log2 + 1) := Nat.lt_log2_self
  have : Nat.pow 2 ((2 * capacity - 1).log2 + 1) = windowOf capacity * 2 := rfl
  omega

/-- A lower power of two would be below the capacity. -/
theorem windowOf_lt {capacity : Nat} (h : 0 < capacity) : windowOf capacity < 2 * capacity := by
  have : windowOf capacity ≤ 2 * capacity - 1 := Nat.log2_self_le (by omega)
  omega

/-- A bus of the given capacity; none can be built that would keep nothing, or more than the limit.
Where memory is short, the limit may be lower than that of the channel. -/
def ofCapacity? (capacity : Nat) (limit : Nat := maxCapacity) : Option (Bus α) :=
  if capacity = 0 ∨ limit < capacity then none
  else some ⟨windowOf capacity, 0, [], [], ⟨0⟩⟩

/-- Publishes a value; without a reader it is dropped. -/
def publish (b : Bus α) (x : α) : Bus α :=
  if b.readers.isEmpty then b
  else
    -- the oldest value gives way once the window is full
    let all := b.kept ++ [x]
    { b with sent := b.sent + 1, kept := all.drop (all.length - b.window) }

/-- A new reader, which sees what is published from now on. -/
def subscribe (b : Bus α) : Bus α × ReaderId :=
  let reader := ⟨b.nextReader, b.sent, 0⟩
  ({ b with readers := b.readers ++ [reader], nextReader := ⟨b.nextReader.index + 1⟩ },
    b.nextReader)

/-- Ends a reader. -/
def leave (b : Bus α) (id : ReaderId) : Bus α :=
  { b with readers := b.readers.filter fun r => r.id != id }

/-- The reader with the given identity. -/
def reader? (b : Bus α) (id : ReaderId) : Option Reader := b.readers.find? fun r => r.id == id

/-- The number of values published before the oldest that is kept. -/
def oldest (b : Bus α) : Nat := b.sent - b.kept.length

/-- The reader after losing what is no longer kept. -/
def caughtUp (b : Bus α) (r : Reader) : Reader :=
  { r with next := max r.next b.oldest, skipped := r.skipped + (b.oldest - r.next) }

/-- The next value for a reader that has lost nothing it has not counted. -/
def upcoming? (b : Bus α) (r : Reader) : Option α := b.kept[r.next - b.oldest]?

/-- Replaces the state of a reader. -/
def setReader (b : Bus α) (r : Reader) : Bus α :=
  { b with readers := b.readers.map fun old => if old.id == r.id then r else old }

/-- Reads the next value, if one is there. -/
def read (b : Bus α) (id : ReaderId) : Option α × Bus α :=
  match b.reader? id with
  | none => (none, b)
  | some r =>
    -- what is lost is counted before anything is read
    let r := b.caughtUp r
    match b.upcoming? r with
    | none => (none, b.setReader r)
    | some x => (some x, b.setReader { r with next := r.next + 1 })

/-- How many values a reader has lost. -/
def skipped (b : Bus α) (id : ReaderId) : Nat := (b.reader? id).elim 0 Reader.skipped

end Bus

end RoomSearch
