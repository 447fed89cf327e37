/-!
# Finite kinds with names

Kinds of rooms, changes and states are finite, and each of their members has a fixed name under
which it is written.

## Main definitions

* `Named` — a finite kind whose members have names.
* `Named.ofName?` — the member with a given name.
-/

namespace RoomSearch

/-- A finite kind whose members have names that tell them apart. -/
class Named (α : Type) where
  /-- The name of a member. -/
  name : α → String
  /-- The members. -/
  all : List α
  /-- The first member with the name of `a` is `a`. -/
  find?_name : ∀ a, all.find? (fun b => name b == name a) = some a

namespace Named

/-- The member with the given name. -/
def ofName? {α : Type} [Named α] (s : String) : Option α :=
  (all : List α).find? fun a => name a == s

/-- The name of a member names that member. -/
@[simp] theorem ofName?_name {α : Type} [Named α] (a : α) : ofName? (name a) = some a :=
  find?_name a

/-- A name that names a member is the name of that member. -/
theorem name_eq_of_ofName? {α : Type} [Named α] {s : String} {a : α} (h : ofName? s = some a) :
    name a = s := by
  have := List.find?_some h
  exact beq_iff_eq.mp this

end Named

end RoomSearch
