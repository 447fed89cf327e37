import Mathlib.Data.List.Sort
import RoomSearch.Proofs.Picture

/-!
# What is found after a rule of change

The equations of the rules for single addresses, whatever has been found before; and results that
are in order are determined by what is found at all addresses.

## Main results

* `ResultSet.Sorted.ext` — results with the same entries at all addresses are equal.
* `ResultSet.find?_mergeRoom_eq` — a listed room takes over its address, but for the presence.
* `ResultSet.exists_setPresence?`, `ResultSet.setPresence?_of_none` — a presence changes the entry
  at its address, if there is one.
-/

namespace RoomSearch

/-- Two lists in order with the same values at all keys are equal. -/
theorem Keyed.Sorted.ext {α : Type} {key : α → String} {l l' : List α} (h : Sorted key l)
    (h' : Sorted key l') (hfind : ∀ k, find? key k l = find? key k l') : l = l' := by
  have : Std.Irrefl fun x y : α => key x < key y := ⟨fun x => String.lt_irrefl (key x)⟩
  have : Std.Antisymm fun x y : α => key x < key y :=
    ⟨fun x y hxy hyx => absurd (String.lt_trans hxy hyx) (String.lt_irrefl _)⟩
  refine List.Pairwise.eq_of_mem_iff h h' fun x => ?_
  have hmem := find?_eq_some_iff_of_sorted (k := key x) (x := x) h
  have hmem' := find?_eq_some_iff_of_sorted (k := key x) (x := x) h'
  rw [hfind, hmem'] at hmem
  simpa using hmem.symm

/-- The presence of a result that may be there. -/
def presenceAt (found : Option Entry) : Presence := found.elim default Entry.presence

namespace ResultSet

variable {s s' : ResultSet} {name : String}

/-- **Results with the same entries** at all addresses are equal. -/
theorem Sorted.ext (h : s.Sorted) (h' : s'.Sorted)
    (hfind : ∀ address, s.find? address = s'.find? address) : s = s' :=
  congrArg ResultSet.mk (Keyed.Sorted.ext h h' hfind)

/-- **A listed room** takes over its address, but for the presence. -/
theorem find?_mergeRoom_eq (s : ResultSet) (provider : ProviderId) (room : Room)
    (address : String) : (s.mergeRoom provider room).2.find? address =
      if room.name = address then
        some { Entry.ofRoom provider room with presence := presenceAt (s.find? address) }
      else s.find? address := by
  have hinsert : ∀ presence,
      (s.insert { Entry.ofRoom provider room with presence := presence }).find? address =
        if room.name = address then some { Entry.ofRoom provider room with presence := presence }
        else s.find? address := fun presence => find?_insert ..
  rw [mergeRoom]
  cases hfound : s.find? room.name with
  | none =>
    refine (hinsert default).trans ?_
    split
    · next haddress =>
      rw [← haddress, hfound]
      rfl
    · rfl
  | some old =>
    dsimp only
    split
    · next hsame =>
      -- nothing else is different, so the entry stays
      split
      · next haddress =>
        rw [← haddress, hfound]
        exact congrArg some hsame
      · rfl
    · refine (hinsert old.presence).trans ?_
      split
      · next haddress =>
        rw [← haddress, hfound]
        rfl
      · rfl

theorem setPresence?_of_none (h : s.find? name = none) (presence : Presence) :
    s.setPresence? name presence = none := by
  rw [setPresence?, h]

/-- **A presence** changes the entry at its address, and nothing else. -/
theorem exists_setPresence? {old : Entry} (h : s.find? name = some old) (presence : Presence) :
    ∃ outcome, s.setPresence? name presence = some outcome ∧
      ∀ address, outcome.2.find? address =
        if name = address then some { old with presence } else s.find? address := by
  have hname := address_of_find? h
  rw [setPresence?, h]
  dsimp only
  split
  · next hsame =>
    refine ⟨_, rfl, fun address => ?_⟩
    split
    · next haddress => rw [← haddress, ← hsame, h]
    · rfl
  · refine ⟨_, rfl, fun address => ?_⟩
    rw [find?_insert, ← hname]

/-- A joined room that is no result becomes one. -/
theorem find?_mergeJoined_of_none {notice : PresenceNotice} (h : s.find? notice.room = none)
    (autoJoin : Bool) (address : String) : (s.mergeJoined notice autoJoin).2.find? address =
      if notice.room = address then
        some ⟨notice.room, notice.identifier, notice.provider, .online, autoJoin⟩
      else s.find? address := by
  rw [mergeJoined, setPresence?_of_none h]
  exact find?_insert ..

end ResultSet

end RoomSearch
