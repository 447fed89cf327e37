import RoomSearch.Session.Performing

/-!
# How much is left to do in a session

Every session comes to rest: its scripts are finite, each reaction can be used a limited number of
times, and without scripts nothing in the world goes round in a circle.  The measure of what is left
has four parts, and each step makes the first part that it changes smaller.

1. What the scripts still hold, those in store included.
2. How many watchers, providers and queries the calls in progress still have before them.
3. How much reading is left.  A scan whose query has gone on to another epoch will read once more;
   a query goes on to another epoch only when an announcement reaches it, which makes the second
   part smaller.
4. How many deliveries and answers are left.

## Main definitions

* `total` — what the members of a list count together.
* `Action.weight`, `Listener.weight`, `Tap.weight` — what is held for later.
* `Session.scriptWeight`, `Session.spread`, `Session.reading`, `Session.remainder` — the parts.
* `Session.measure` — the measure.
-/

namespace RoomSearch

/-! ### Totals -/

/-- What the members of a list count together. -/
def total {α : Type} (count : α → Nat) : List α → Nat
  | [] => 0
  | x :: rest => count x + total count rest

@[simp] theorem total_nil {α : Type} (count : α → Nat) : total count [] = 0 := rfl

@[simp] theorem total_cons {α : Type} (count : α → Nat) (x : α) (rest : List α) :
    total count (x :: rest) = count x + total count rest := rfl

@[simp] theorem total_append {α : Type} (count : α → Nat) (l l' : List α) :
    total count (l ++ l') = total count l + total count l' := by
  induction l with
  | nil => simp
  | cons x rest ih => simp [ih, Nat.add_assoc]

@[simp] theorem total_map {α β : Type} (count : β → Nat) (f : α → β) (l : List α) :
    total count (l.map f) = total (fun x => count (f x)) l := by
  induction l with
  | nil => rfl
  | cons x rest ih => simp [ih]

/-- Members that count the same alone count the same together. -/
theorem total_congr {α : Type} {count count' : α → Nat} (h : ∀ x, count x = count' x) (l : List α) :
    total count l = total count' l := by
  rw [funext h]

/-! ### Scripts -/

mutual

/-- What an action holds: itself and all actions that it puts in store, as often as they can be
performed. -/
def Action.weight : Action → Nat
  | .listen _ _ _ reactions _ => 1 + reactionsWeight reactions
  | .afterRead steps => 2 + stepsWeight steps
  | .tap _ _ uses steps => 1 + uses * (1 + stepsWeight steps)
  | .create .. | .drop _ | .run _ | .start _ | .cancel _ | .setStatus .. | .find .. | .indexOf ..
  | .overview | .unlisten .. | .addRoom .. | .removeRoom .. | .setAutoJoin .. | .addProvider ..
  | .removeProvider _ | .announceRoom .. | .announceProvider .. | .directory | .findRoom ..
  | .register _ | .unregister .. | .announceRegistration .. | .presence .. | .source | .active
  | .cancelAll | .bus .. | .busDrop _ | .publish .. | .receiver .. | .receiverDrop _ | .receivers _
  | .tryReceive _ | .receive _ => 1
termination_by structural a => a

/-- What the actions of a script hold. -/
def stepsWeight : List Action → Nat
  | [] => 0
  | a :: rest => a.weight + stepsWeight rest
termination_by structural l => l

/-- What reactions hold. -/
def reactionsWeight : List (Reaction Action) → Nat
  | [] => 0
  | ⟨_, _, uses, steps⟩ :: rest => uses * (1 + stepsWeight steps) + reactionsWeight rest
termination_by structural l => l

end

/-- What a listener holds. -/
def Listener.weight (l : Listener) : Nat := reactionsWeight l.reactions

/-- What an observer holds. -/
def Tap.weight (t : Tap) : Nat := t.uses * (1 + stepsWeight t.steps)

/-- What a call in progress holds of a script. -/
def Call.scriptWeight : Call → Nat
  | .script rest => stepsWeight rest
  | _ => 0

/-- How many watchers, providers or queries a task has before it. -/
def Task.spread : Task → Nat
  | .deliver _ rest => rest.length + 1
  | .search _ rest => rest.length + 1
  | .cancelEach rest => rest.length + 1
  | _ => 0

/-- How many watchers, providers or queries a call has before it. -/
def Call.spread : Call → Nat
  | .task t => t.spread
  | .listing _ _ rest => rest.length + 1
  | _ => 0

/-- How much reading a task has before it. -/
def Task.reading (w : World) : Task → Nat
  | .scan .. => 2
  | .merge q _ epoch _ => if w.epoch q = epoch then 1 else 3
  | .mergeJoined .. => 1
  | _ => 0

/-- How much reading a call has before it. -/
def Call.reading (w : World) : Call → Nat
  | .task t => t.reading w
  | _ => 0

/-- How many deliveries a task has before it. -/
def Task.remainder : Task → Nat
  | .notify _ _ rest => rest.length + 1
  | .withdraw _ => 1
  | _ => 0

/-- How many deliveries and answers a call has before it. -/
def Call.remainder : Call → Nat
  | .task t => t.remainder
  | .script _ => 1
  | .answer .. => 1
  | .listing .. => 0

namespace Session

/-- What the scripts of a session hold. -/
def scriptWeight (s : Session) : Nat :=
  s.hook.elim 0 (fun steps => 1 + stepsWeight steps) +
    total Listener.weight s.listeners + total Tap.weight s.taps + total Call.scriptWeight s.calls

/-- How many watchers, providers and queries the calls have before them. -/
def spread (s : Session) : Nat := total Call.spread s.calls

/-- How much reading is left. -/
def reading (s : Session) : Nat := total (Call.reading s.world) s.calls

/-- How many deliveries and answers are left. -/
def remainder (s : Session) : Nat := total Call.remainder s.calls

/-- How much is left to do. -/
def measure (s : Session) : Nat × Nat × Nat × Nat :=
  (s.scriptWeight, s.spread, s.reading, s.remainder)

end Session

end RoomSearch
