import RoomSearch.Entry

/-!
# Result sets

A result set holds entries in increasing order of their addresses, one for each address.

## Main definitions

* `ResultSet` — the entries, in order.
* `ResultSet.find?`, `ResultSet.insert`, `ResultSet.erase` — access by address.
* `ResultSet.indexOf?` — the place of an address in the order.
* `ResultSet.answers`, `ResultSet.removeWhere` — taking out the entries for which a predicate
  holds, where the predicate may remember the entries it has seen.

## Main results

* `ResultSet.find?_insert`, `ResultSet.find?_erase` — what is found after a change.
-/

namespace RoomSearch

/-- Entries in increasing order of their addresses. -/
structure ResultSet where
  /-- The entries, in order. -/
  entries : List Entry
deriving DecidableEq, Repr

namespace ResultSet

/-- The set without entries. -/
def empty : ResultSet := ⟨[]⟩

instance : Inhabited ResultSet := ⟨empty⟩

/-- The number of entries. -/
def size (s : ResultSet) : Nat := s.entries.length

/-- Whether there are no entries. -/
def isEmpty (s : ResultSet) : Bool := s.entries.isEmpty

/-- The entry with the given address. -/
def find? (s : ResultSet) (address : String) : Option Entry :=
  Keyed.find? Entry.address address s.entries

/-- Whether there is an entry with the given address. -/
def contains (s : ResultSet) (address : String) : Bool := (s.find? address).isSome

/-- Puts an entry in; the one with its address, if there is one, gives way as a whole. -/
def insert (s : ResultSet) (e : Entry) : ResultSet := ⟨Keyed.insert Entry.address e s.entries⟩

/-- Takes the entry with the given address out. -/
def erase (s : ResultSet) (address : String) : ResultSet :=
  ⟨Keyed.erase Entry.address address s.entries⟩

@[simp] theorem find?_empty (address : String) : empty.find? address = none := rfl

/-- An entry is found at its address once it is put in; elsewhere nothing changes. -/
theorem find?_insert (s : ResultSet) (e : Entry) (address : String) :
    (s.insert e).find? address = if e.address = address then some e else s.find? address :=
  Keyed.find?_insert

/-- Nothing is found at an address once it is taken out; elsewhere nothing changes. -/
theorem find?_erase (s : ResultSet) (erased address : String) :
    (s.erase erased).find? address = if address = erased then none else s.find? address :=
  Keyed.find?_erase

/-- The place of an address in the order, counted from zero. -/
def indexOf? (s : ResultSet) (address : String) : Option Nat :=
  s.entries.findIdx? fun e => e.address == address

/-- What a predicate with a memory answers for entries asked one after the other, and its memory
after the last answer. -/
def answers {σ : Type} (ask : σ → Entry → Bool × σ) (memory : σ) :
    List Entry → List (Entry × Bool) × σ
  | [] => ([], memory)
  | e :: rest =>
    let (answer, memory) := ask memory e
    let (later, memory) := answers ask memory rest
    ((e, answer) :: later, memory)

/-- Takes out the entries for which a predicate with a memory holds.  It is asked for every entry
in order before any is taken out.  The result has what was taken out, in order, the predicate's
memory, and the set of the others. -/
def removeWhere {σ : Type} (s : ResultSet) (ask : σ → Entry → Bool × σ) (memory : σ) :
    List Entry × σ × ResultSet :=
  let (asked, memory) := answers ask memory s.entries
  let removed := (asked.filter (·.2)).map (·.1)
  (removed, memory, removed.foldl (fun set e => set.erase e.address) s)

/-- Takes out the entries of a provider: what was taken out, in order, and the set of the others. -/
def removeProvider (s : ResultSet) (provider : ProviderId) : List Entry × ResultSet :=
  let (removed, _, rest) := s.removeWhere (fun _ e => (e.provider == provider, ())) ()
  (removed, rest)

end ResultSet

end RoomSearch
