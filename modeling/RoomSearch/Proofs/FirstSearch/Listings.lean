import RoomSearch.Directory
import RoomSearch.Proofs.Results

/-!
# What listed rooms come to

Rooms are merged one after the other, and a name may be listed more than once, by one provider or by
several.  What becomes of a listed room depends on what has been listed under its name before, and
on nothing else: the first one is found, a later one is a change if it is different from the one
before it, and the last one is what remains.  So the results and the news of any number of listings
can be read off the listed rooms themselves.

## Main definitions

* `Listed` — a room with the provider that lists it.
* `Listed.last?` — the last one of a name.
* `Listed.news`, `Listed.told` — what is told of one, and of several, after others.
* `ResultSet.Reflects` — the results are the last ones of each name.
* `Directory.matching` — the rooms that a query searches for, in the order of the directory.

## Main results

* `ResultSet.Reflects.mergeRooms` — **the rule for listed rooms** tells and keeps just that.
-/

namespace RoomSearch

/-- A room with the provider that lists it. -/
structure Listed where
  /-- The provider. -/
  provider : ProviderId
  /-- The room. -/
  room : Room
deriving DecidableEq, Repr

namespace Listed

/-- The result that a listed room comes to: nobody is known to be in it. -/
def entry (x : Listed) : Entry where
  address := x.room.name
  identifier := x.room.identifier
  provider := x.provider
  presence := .offline
  autoJoin := x.room.autoJoin

/-- Two listed rooms of one name are different. -/
def Differs (x y : Listed) : Prop :=
  x.room.identifier ≠ y.room.identifier ∨ x.provider ≠ y.provider ∨
    x.room.autoJoin ≠ y.room.autoJoin

instance (x y : Listed) : Decidable (x.Differs y) := inferInstanceAs (Decidable (_ ∨ _ ∨ _))

/-- The last one that has the name. -/
def last? (name : String) (listed : List Listed) : Option Listed :=
  (listed.filter fun x => x.room.name == name).getLast?

/-- What is told of a listed room, the one of its name before it being given. -/
def news (before : Option Listed) (x : Listed) : List News :=
  match before with
  | none => [.found x.entry]
  | some y => if x.Differs y then [.changed x.entry] else []

/-- What is told of listed rooms one after the other, when others have been listed before. -/
def told (before : List Listed) : List Listed → List News
  | [] => []
  | x :: rest => news (last? x.room.name before) x ++ told (before ++ [x]) rest

variable {x y : Listed} {before listed later : List Listed} {name : String}

@[simp] theorem last?_nil (name : String) : last? name [] = none := rfl

/-- Whoever comes last is the last one of its name. -/
theorem last?_append_singleton (name : String) (listed : List Listed) (x : Listed) :
    last? name (listed ++ [x]) = if x.room.name = name then some x else last? name listed := by
  rw [last?, List.filter_append]
  by_cases hname : x.room.name = name
  · have hx : [x].filter (fun y => y.room.name == name) = [x] :=
      List.filter_cons_of_pos (beq_iff_eq.mpr hname)
    rw [if_pos hname, hx, List.getLast?_concat]
  · have hx : [x].filter (fun y => y.room.name == name) = [] :=
      List.filter_cons_of_neg (by simpa using hname)
    rw [if_neg hname, hx, List.append_nil, last?]

/-- The last one of a name has it. -/
theorem name_of_last? (h : last? name listed = some x) : x.room.name = name := by
  have hmem := List.mem_filter.mp (List.mem_of_getLast? h)
  exact beq_iff_eq.mp hmem.2

@[simp] theorem told_nil (before : List Listed) : told before [] = [] := rfl

theorem told_append (before listed later : List Listed) :
    told before (listed ++ later) = told before listed ++ told (before ++ listed) later := by
  induction listed generalizing before with
  | nil => rw [List.nil_append, told_nil, List.nil_append, List.append_nil]
  | cons x rest ih =>
    rw [List.cons_append, told, told, ih, List.append_assoc, List.append_assoc,
      List.singleton_append]

/-- Two listed rooms of one name come to the same if they are not different. -/
theorem entry_eq_iff (hname : x.room.name = y.room.name) : x.entry = y.entry ↔ ¬ x.Differs y := by
  simp [entry, Differs, hname]

end Listed

open Listed

namespace ResultSet

variable {s : ResultSet} {before : List Listed} {p : ProviderId} {room : Room}

/-- The results are the last ones of each name that have been listed. -/
def Reflects (s : ResultSet) (listed : List Listed) : Prop :=
  ∀ address, s.find? address = (last? address listed).map Listed.entry

theorem reflects_empty : empty.Reflects [] := fun _ => rfl

/-- **A listed room** comes to what can be read off those before it. -/
theorem Reflects.mergeRoom (h : s.Reflects before) (p : ProviderId) (room : Room) :
    (s.mergeRoom p room).1 = news (last? room.name before) ⟨p, room⟩ ∧
      (s.mergeRoom p room).2.Reflects (before ++ [⟨p, room⟩]) := by
  have hbefore := h room.name
  refine ⟨?_, fun address => ?_⟩
  · rw [ResultSet.mergeRoom]
    cases hlast : last? room.name before with
    | none =>
      rw [hlast, Option.map_none] at hbefore
      rw [hbefore]
      rfl
    | some y =>
      rw [hlast, Option.map_some] at hbefore
      have hiff : y.entry = Listed.entry ⟨p, room⟩ ↔ ¬ Listed.Differs ⟨p, room⟩ y := by
        rw [eq_comm]
        exact entry_eq_iff (name_of_last? hlast).symm
      rw [hbefore]
      show (if y.entry = Listed.entry ⟨p, room⟩ then ([], s)
        else ([.changed (Listed.entry ⟨p, room⟩)], s.insert (Listed.entry ⟨p, room⟩))).1 = news _ _
      rw [news]
      by_cases hdiffers : Listed.Differs ⟨p, room⟩ y
      · rw [if_pos hdiffers, if_neg fun hsame => hiff.mp hsame hdiffers]
      · rw [if_neg hdiffers, if_pos (hiff.mpr hdiffers)]
  · rw [find?_mergeRoom_eq, last?_append_singleton, h address]
    split
    · -- nobody is known to be in a room that has only been listed
      cases last? address before <;> rfl
    · rfl

/-- **Listed rooms** come to what can be read off them, one after the other. -/
theorem Reflects.mergeRooms (h : s.Reflects before) (p : ProviderId) (rooms : List Room) :
    (s.mergeRooms p rooms).1 = told before (rooms.map (Listed.mk p)) ∧
      (s.mergeRooms p rooms).2.Reflects (before ++ rooms.map (Listed.mk p)) := by
  induction rooms generalizing s before with
  | nil => exact ⟨rfl, by rwa [List.map_nil, List.append_nil]⟩
  | cons room rest ih =>
    obtain ⟨hnews, hreflects⟩ := h.mergeRoom p room
    obtain ⟨hlater, hlast⟩ := ih hreflects
    refine ⟨?_, ?_⟩
    · rw [List.map_cons, told, ← hnews, ← hlater]
      rfl
    · rw [List.append_assoc, List.singleton_append, ← List.map_cons] at hlast
      exact hlast

/-- In order, such results are the last ones of each name and no others. -/
theorem Reflects.mem_entries_iff (h : s.Reflects before) (hsorted : s.Sorted) {e : Entry} :
    e ∈ s.entries ↔ ∃ x, last? x.room.name before = some x ∧ e = x.entry := by
  have hmem : e ∈ s.entries ↔ s.find? e.address = some e := by
    have hiff := Keyed.find?_eq_some_iff_of_sorted (k := e.address) (x := e) hsorted
    exact ⟨fun he => hiff.mpr ⟨he, rfl⟩, fun he => (hiff.mp he).1⟩
  rw [hmem, h e.address, Option.map_eq_some_iff]
  constructor
  · rintro ⟨x, hlast, rfl⟩
    exact ⟨x, hlast, rfl⟩
  · rintro ⟨x, hlast, rfl⟩
    exact ⟨x, hlast, rfl⟩

end ResultSet

/-- The rooms of some providers that match, in the order in which they are listed. -/
def Directory.matchingOf (d : Directory) (m : Matcher) (providers : List ProviderId) :
    List Listed :=
  providers.flatMap fun p =>
    ((d.rooms p).filter fun room => m.accepts room.name room.identifier).map (Listed.mk p)

/-- All rooms that match, provider by provider. -/
def Directory.matching (d : Directory) (m : Matcher) : List Listed := d.matchingOf m d.providers

theorem Directory.matchingOf_cons (d : Directory) (m : Matcher) (p : ProviderId)
    (rest : List ProviderId) : d.matchingOf m (p :: rest) =
      ((d.rooms p).filter fun room => m.accepts room.name room.identifier).map (Listed.mk p) ++
        d.matchingOf m rest := List.flatMap_cons ..

end RoomSearch
