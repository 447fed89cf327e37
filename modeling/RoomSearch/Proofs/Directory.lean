import Mathlib.Data.List.Nodup
import RoomSearch.Matcher
import RoomSearch.World.Move

/-!
# Changes of a directory that names its rooms apart

Where no name is listed twice, a name stands for one room of one provider, and a change of the
directory can be told by what is listed before and after it.  A notice is true of such a change if
it says exactly what has become different.

## Main definitions

* `Directory.Distinct` — no name is listed twice.
* `Directory.IsFree`, `Directory.Has` — no provider lists a name, or a certain one does.
* `Directory.Lists` — an entry is that of a listed room which a search is for.
* `Directory.Turns` — a notice is true of a change.

## Main results

* `turns_addRoom`, `turns_removeRoom`, `turns_setAutoJoin`, `turns_removeProvider` — what is
  announced is true.
* `Distinct.addRoom`, `Distinct.removeRoom`, and so on — no name is listed twice afterwards.
-/

namespace RoomSearch.Directory

variable {d d' : Directory} {p p' : ProviderId} {room room' : Room} {name : String}
  {autoJoin : Bool} {matcher : Matcher} {e e' : Entry}

/-- No name is listed twice. -/
structure Distinct (d : Directory) : Prop where
  /-- Not by one provider. -/
  within : ∀ p, ((d.rooms p).map Room.name).Nodup
  /-- Not by two providers. -/
  across : ∀ {p p' room room'}, room ∈ d.rooms p → room' ∈ d.rooms p' → room.name = room'.name →
    p = p'

/-- No provider lists a name. -/
def IsFree (d : Directory) (name : String) : Prop :=
  ∀ p ∈ d.providers, ∀ room ∈ d.rooms p, room.name ≠ name

/-- A provider lists a name. -/
def Has (d : Directory) (p : ProviderId) (name : String) : Prop :=
  ∃ room ∈ d.rooms p, room.name = name

instance (d : Directory) (name : String) : Decidable (d.IsFree name) :=
  inferInstanceAs (Decidable (∀ p ∈ d.providers, ∀ room ∈ d.rooms p, room.name ≠ name))

instance (d : Directory) (p : ProviderId) (name : String) : Decidable (d.Has p name) :=
  inferInstanceAs (Decidable (∃ room ∈ d.rooms p, room.name = name))

/-- An entry is that of a listed room which a search is for. -/
def Lists (d : Directory) (matcher : Matcher) (e : Entry) : Prop :=
  ∃ p, ∃ room ∈ d.rooms p, matcher.accepts room.name room.identifier = true ∧ e = .ofRoom p room

/-- The notice is true of the change from `d` to `d'`. -/
inductive Turns (d d' : Directory) : Notice → Prop where
  /-- A room with a new name is listed. -/
  | added {p : ProviderId} {room : Room} (hfree : d.IsFree room.name)
      (h : ∀ p' r, r ∈ d'.rooms p' ↔ r ∈ d.rooms p' ∨ p' = p ∧ r = room) :
      Turns d d' (.rooms ⟨p, room, .added⟩)
  /-- A room is no longer listed. -/
  | removed {p : ProviderId} {room : Room} (hroom : room ∈ d.rooms p)
      (h : ∀ p' r, r ∈ d'.rooms p' ↔ r ∈ d.rooms p' ∧ r.name ≠ room.name) :
      Turns d d' (.rooms ⟨p, room, .removed⟩)
  /-- A room has another flag. -/
  | changed {p : ProviderId} {room : Room} {autoJoin : Bool} (hroom : room ∈ d.rooms p)
      (h : ∀ p' r, r ∈ d'.rooms p' ↔
        r ∈ d.rooms p' ∧ r.name ≠ room.name ∨ p' = p ∧ r = { room with autoJoin }) :
      Turns d d' (.rooms ⟨p, { room with autoJoin }, .changed⟩)
  /-- A provider has gone, with its rooms. -/
  | gone {p : ProviderId} (h : ∀ p' r, r ∈ d'.rooms p' ↔ r ∈ d.rooms p' ∧ p' ≠ p) :
      Turns d d' (.providers ⟨p, .removed⟩)

/-! ### What is listed -/

/-- **A name stands for one room** of one provider. -/
theorem Distinct.eq_of_name_eq (h : d.Distinct) (hroom : room ∈ d.rooms p)
    (hroom' : room' ∈ d.rooms p') (hname : room.name = room'.name) : p = p' ∧ room = room' := by
  have hp := h.across hroom hroom' hname
  subst hp
  exact ⟨rfl, List.inj_on_of_nodup_map (h.within p) hroom hroom' hname⟩

/-- An address stands for one entry. -/
theorem Distinct.eq_of_address_eq (h : d.Distinct) (he : d.Lists matcher e)
    (he' : d.Lists matcher e') (haddress : e.address = e'.address) : e = e' := by
  obtain ⟨p, room, hroom, -, rfl⟩ := he
  obtain ⟨p', room', hroom', -, rfl⟩ := he'
  obtain ⟨rfl, rfl⟩ := h.eq_of_name_eq hroom hroom' haddress
  rfl

/-- A provider that lists a room is one of the directory's. -/
theorem mem_providers_of_mem_rooms (h : room ∈ d.rooms p) : p ∈ d.providers := by
  unfold rooms at h
  split at h
  · next listing hfound =>
    have hkey : listing.key = p.text := Keyed.key_eq_of_find? hfound
    exact List.mem_map.mpr ⟨listing, Keyed.mem_of_find? hfound, ProviderId.ext hkey⟩
  · cases h

theorem IsFree.name_ne (h : d.IsFree name) (hroom : room ∈ d.rooms p) : room.name ≠ name :=
  h p (mem_providers_of_mem_rooms hroom) room hroom

theorem Lists.mem_providers (h : d.Lists matcher e) : e.provider ∈ d.providers := by
  obtain ⟨p, room, hroom, -, rfl⟩ := h
  exact mem_providers_of_mem_rooms hroom

/-! ### Lists of rooms -/

/-- Taking a name out of a list in which it is there once at most. -/
theorem mem_eraseP_name {rooms : List Room} (h : (rooms.map Room.name).Nodup) :
    room ∈ rooms.eraseP (fun r => r.name == name) ↔ room ∈ rooms ∧ room.name ≠ name := by
  induction rooms with
  | nil => exact ⟨nofun, fun h => nomatch h.1⟩
  | cons r rest ih =>
    rw [List.map_cons, List.nodup_cons] at h
    by_cases hr : r.name = name
    · rw [List.eraseP_cons_of_pos (by simpa using hr), List.mem_cons]
      constructor
      · intro hroom
        refine ⟨.inr hroom, fun hname => h.1 ?_⟩
        rw [hr, ← hname]
        exact List.mem_map_of_mem hroom
      · rintro ⟨rfl | hroom, hname⟩
        · exact absurd hr hname
        · exact hroom
    · rw [List.eraseP_cons_of_neg (by simpa using hr), List.mem_cons, List.mem_cons, ih h.2]
      constructor
      · rintro (rfl | ⟨hroom, hname⟩)
        · exact ⟨.inl rfl, hr⟩
        · exact ⟨.inr hroom, hname⟩
      · rintro ⟨rfl | hroom, hname⟩
        · exact .inl rfl
        · exact .inr ⟨hroom, hname⟩

/-- Setting a flag leaves the names. -/
theorem map_name_flagged (name : String) (autoJoin : Bool) (rooms : List Room) :
    (flagged name autoJoin rooms).map Room.name = rooms.map Room.name := by
  induction rooms with
  | nil => rfl
  | cons r rest ih =>
    rw [flagged]
    split
    · rfl
    · rw [List.map_cons, ih, List.map_cons]

/-- Setting the flag of a room in a list in which its name is there once. -/
theorem mem_flagged {rooms : List Room} (h : (rooms.map Room.name).Nodup) (hroom : room ∈ rooms) :
    room' ∈ flagged room.name autoJoin rooms ↔
      room' ∈ rooms ∧ room'.name ≠ room.name ∨ room' = { room with autoJoin } := by
  induction rooms with
  | nil => cases hroom
  | cons r rest ih =>
    rw [List.map_cons, List.nodup_cons] at h
    rw [flagged]
    rcases List.mem_cons.mp hroom with rfl | hrest
    · -- the others have other names
      have hothers : ∀ {r}, r ∈ rest → r.name ≠ room.name := fun hr hname =>
        h.1 (hname ▸ List.mem_map_of_mem hr)
      rw [if_pos rfl, List.mem_cons, List.mem_cons]
      constructor
      · rintro (rfl | hr)
        · exact .inr rfl
        · exact .inl ⟨.inr hr, hothers hr⟩
      · rintro (⟨rfl | hr, hname⟩ | rfl)
        · exact absurd rfl hname
        · exact .inr hr
        · exact .inl rfl
    · have hname : r.name ≠ room.name := fun hname => h.1 (hname ▸ List.mem_map_of_mem hrest)
      rw [if_neg hname, List.mem_cons, List.mem_cons, ih h.2 hrest]
      constructor
      · rintro (rfl | ⟨hr, hne⟩ | rfl)
        · exact .inl ⟨.inl rfl, hname⟩
        · exact .inl ⟨.inr hr, hne⟩
        · exact .inr rfl
      · rintro (⟨rfl | hr, hne⟩ | rfl)
        · exact .inl rfl
        · exact .inr (.inl ⟨hr, hne⟩)
        · exact .inr (.inr rfl)

/-! ### What is announced is true -/

theorem mem_rooms_setRooms (d : Directory) (p p' : ProviderId) (rooms : List Room) (room : Room) :
    room ∈ (d.setRooms p rooms).rooms p' ↔
      p' = p ∧ room ∈ rooms ∨ p' ≠ p ∧ room ∈ d.rooms p' := by
  rw [rooms_setRooms]
  by_cases hp : p = p'
  · rw [if_pos hp]
    exact ⟨fun h => .inl ⟨hp.symm, h⟩, fun h => h.elim And.right fun h => absurd hp.symm h.1⟩
  · rw [if_neg hp]
    exact ⟨fun h => .inr ⟨Ne.symm hp, h⟩, fun h => h.elim (fun h => absurd h.1.symm hp) And.right⟩

theorem mem_rooms_addRoom (d : Directory) (p p' : ProviderId) (room r : Room) :
    r ∈ (d.addRoom p room).rooms p' ↔ r ∈ d.rooms p' ∨ p' = p ∧ r = room := by
  rw [addRoom, mem_rooms_setRooms, List.mem_append, List.mem_singleton]
  constructor
  · rintro (⟨rfl, hr | rfl⟩ | ⟨-, hr⟩)
    · exact .inl hr
    · exact .inr ⟨rfl, rfl⟩
    · exact .inl hr
  · rintro (hr | ⟨rfl, rfl⟩)
    · by_cases hp : p' = p
      · exact .inl ⟨hp, .inl (hp ▸ hr)⟩
      · exact .inr ⟨hp, hr⟩
    · exact .inl ⟨rfl, .inr rfl⟩

theorem mem_rooms_removeRoom (h : d.Distinct) (hroom : room ∈ d.rooms p) (p' : ProviderId)
    (r : Room) :
    r ∈ (d.removeRoom p room.name).rooms p' ↔ r ∈ d.rooms p' ∧ r.name ≠ room.name := by
  rw [removeRoom, mem_rooms_setRooms, mem_eraseP_name (h.within p)]
  constructor
  · rintro (⟨rfl, hr⟩ | ⟨hp, hr⟩)
    · exact hr
    · exact ⟨hr, fun hname => hp (h.across hr hroom hname)⟩
  · rintro ⟨hr, hname⟩
    by_cases hp : p' = p
    · exact .inl ⟨hp, hp ▸ hr, hname⟩
    · exact .inr ⟨hp, hr⟩

theorem mem_rooms_setAutoJoin (h : d.Distinct) (hroom : room ∈ d.rooms p) (p' : ProviderId)
    (r : Room) :
    r ∈ (d.setAutoJoin p room.name autoJoin).rooms p' ↔
      r ∈ d.rooms p' ∧ r.name ≠ room.name ∨ p' = p ∧ r = { room with autoJoin } := by
  rw [setAutoJoin, mem_rooms_setRooms, mem_flagged (h.within p) hroom]
  constructor
  · rintro (⟨rfl, hr | rfl⟩ | ⟨hp, hr⟩)
    · exact .inl hr
    · exact .inr ⟨rfl, rfl⟩
    · exact .inl ⟨hr, fun hname => hp (h.across hr hroom hname)⟩
  · rintro (⟨hr, hname⟩ | ⟨rfl, rfl⟩)
    · by_cases hp : p' = p
      · exact .inl ⟨hp, .inl ⟨hp ▸ hr, hname⟩⟩
      · exact .inr ⟨hp, hr⟩
    · exact .inl ⟨rfl, .inr rfl⟩

theorem mem_rooms_removeProvider (d : Directory) (p p' : ProviderId) (r : Room) :
    r ∈ (d.removeProvider p).rooms p' ↔ r ∈ d.rooms p' ∧ p' ≠ p := by
  rw [rooms_removeProvider]
  split
  · next hp => exact ⟨nofun, fun h => absurd hp h.2⟩
  · next hp => exact ⟨fun h => ⟨h, hp⟩, And.left⟩

/-- A provider that was not there comes with its rooms. -/
theorem mem_rooms_addProvider {rooms : List Room} (hp : p ∉ d.providers) (p' : ProviderId)
    (r : Room) :
    r ∈ (d.setRooms p rooms).rooms p' ↔ r ∈ d.rooms p' ∨ p' = p ∧ r ∈ rooms := by
  rw [mem_rooms_setRooms]
  constructor
  · rintro (h | h)
    · exact .inr h
    · exact .inl h.2
  · rintro (hr | h)
    · refine .inr ⟨?_, hr⟩
      rintro rfl
      exact hp (mem_providers_of_mem_rooms hr)
    · exact .inl h

theorem turns_addRoom (hfree : d.IsFree room.name) :
    d.Turns (d.addRoom p room) (.rooms ⟨p, room, .added⟩) :=
  .added hfree fun p' r => mem_rooms_addRoom d p p' room r

theorem turns_removeRoom (h : d.Distinct) (hroom : room ∈ d.rooms p) :
    d.Turns (d.removeRoom p room.name) (.rooms ⟨p, room, .removed⟩) :=
  .removed hroom (mem_rooms_removeRoom h hroom)

theorem turns_setAutoJoin (h : d.Distinct) (hroom : room ∈ d.rooms p) :
    d.Turns (d.setAutoJoin p room.name autoJoin)
      (.rooms ⟨p, { room with autoJoin }, .changed⟩) :=
  .changed hroom (mem_rooms_setAutoJoin h hroom)

theorem turns_removeProvider (d : Directory) (p : ProviderId) :
    d.Turns (d.removeProvider p) (.providers ⟨p, .removed⟩) :=
  .gone (mem_rooms_removeProvider d p)

/-- A room that is listed is the one that is found under its name. -/
theorem Distinct.findRoom?_eq (h : d.Distinct) (hroom : room ∈ d.rooms p) :
    d.findRoom? p room.name = some room := by
  cases hfound : d.findRoom? p room.name with
  | none =>
    have hno := List.find?_eq_none.mp hfound room hroom
    exact absurd (beq_self_eq_true room.name) hno
  | some r =>
    have hr : r ∈ d.rooms p := List.mem_of_find?_eq_some hfound
    have hname : r.name = room.name := by simpa using List.find?_some (l := d.rooms p) hfound
    rw [(h.eq_of_name_eq hr hroom hname).2]

/-! ### No name is listed twice afterwards -/

/-- The rooms of one provider are replaced by others that keep names apart. -/
theorem Distinct.setRooms (h : d.Distinct) {rooms : List Room}
    (hwithin : (rooms.map Room.name).Nodup)
    (hacross : ∀ r ∈ rooms, ∀ p', ∀ room ∈ d.rooms p', r.name = room.name → p' = p) :
    (d.setRooms p rooms).Distinct where
  within p' := by
    rw [rooms_setRooms]
    split
    · exact hwithin
    · exact h.within p'
  across {p₁ p₂ r₁ r₂} hr₁ hr₂ hname := by
    rcases (mem_rooms_setRooms ..).mp hr₁ with ⟨hp₁, hr₁⟩ | ⟨hp₁, hr₁⟩
    · rcases (mem_rooms_setRooms ..).mp hr₂ with ⟨hp₂, hr₂⟩ | ⟨hp₂, hr₂⟩
      · rw [hp₁, hp₂]
      · exact absurd (hacross r₁ hr₁ p₂ r₂ hr₂ hname) hp₂
    · rcases (mem_rooms_setRooms ..).mp hr₂ with ⟨hp₂, hr₂⟩ | ⟨hp₂, hr₂⟩
      · exact absurd (hacross r₂ hr₂ p₁ r₁ hr₁ hname.symm) hp₁
      · exact h.across hr₁ hr₂ hname

theorem distinct_empty : Distinct empty := ⟨fun _ => List.nodup_nil, nofun⟩

theorem Distinct.addRoom (h : d.Distinct) (hfree : d.IsFree room.name) :
    (d.addRoom p room).Distinct := by
  refine h.setRooms ?_ ?_
  · rw [List.map_append, List.map_singleton, ← List.concat_eq_append]
    refine (h.within p).concat ?_
    intro hmem
    obtain ⟨r, hr, hname⟩ := List.mem_map.mp hmem
    exact hfree.name_ne hr hname
  · intro r hr p' room' hroom' hname
    rcases List.mem_append.mp hr with hr | hr
    · exact (h.across hr hroom' hname).symm
    · rw [List.mem_singleton.mp hr] at hname
      exact absurd hname.symm (hfree.name_ne hroom')

theorem Distinct.removeRoom (h : d.Distinct) (p : ProviderId) (name : String) :
    (d.removeRoom p name).Distinct := by
  refine h.setRooms ?_ ?_
  · exact (h.within p).sublist (List.eraseP_sublist.map _)
  · intro r hr p' room' hroom' hname
    exact (h.across (List.mem_of_mem_eraseP hr) hroom' hname).symm

theorem Distinct.setAutoJoin (h : d.Distinct) (p : ProviderId) (name : String) (autoJoin : Bool) :
    (d.setAutoJoin p name autoJoin).Distinct := by
  refine h.setRooms ?_ ?_
  · rw [map_name_flagged]
    exact h.within p
  · intro r hr p' room' hroom' hname
    -- a room of this name was listed before
    have hold : r.name ∈ (flagged name autoJoin (d.rooms p)).map Room.name :=
      List.mem_map_of_mem hr
    rw [map_name_flagged] at hold
    obtain ⟨old, hmem, hnames⟩ := List.mem_map.mp hold
    exact (h.across hmem hroom' (hnames.trans hname)).symm

theorem Distinct.addProvider (h : d.Distinct) {rooms : List Room}
    (hwithin : (rooms.map Room.name).Nodup) (hfree : ∀ room ∈ rooms, d.IsFree room.name) :
    (d.setRooms p rooms).Distinct :=
  h.setRooms hwithin fun r hr _ _ hroom' hname =>
    absurd hname.symm ((hfree r hr).name_ne hroom')

theorem Distinct.removeProvider (h : d.Distinct) (p : ProviderId) :
    (d.removeProvider p).Distinct where
  within p' := by
    rw [rooms_removeProvider]
    split
    · exact List.nodup_nil
    · exact h.within p'
  across hr hr' hname :=
    h.across ((mem_rooms_removeProvider ..).mp hr).1 ((mem_rooms_removeProvider ..).mp hr').1 hname

end RoomSearch.Directory
