import RoomSearch.Proofs.Convergence.Standing
import RoomSearch.Proofs.Results

/-!
# One address by itself

What becomes of the result at one address does not depend on what has been found at the others, nor
on whether the search has begun.  So the result at an address can be compared with the directory by
itself: whatever else the query may have found, listed or not, it is in good standing at this
address if it would keep up with the directory, had it found only some results that agree with its
own there.

## Main definitions

* `CurrentAt` — the result at one address keeps up with the directory.

## Main results

* `CurrentAt.upheld` — it goes on doing so, whatever the query does and hears of.
* `currentAt_of_none` — where nothing has been found, nothing is wrong.
-/

namespace RoomSearch

namespace ResultSet

variable {s s' : ResultSet} {address : String}

/-- What a listed room makes of the result at an address depends on this result only. -/
theorem find?_mergeRoom_congr (h : s.find? address = s'.find? address) (provider : ProviderId)
    (room : Room) :
    (s.mergeRoom provider room).2.find? address = (s'.mergeRoom provider room).2.find? address := by
  rw [find?_mergeRoom_eq, find?_mergeRoom_eq, h]

/-- So does what several listed rooms make of it. -/
theorem find?_mergeRooms_congr (h : s.find? address = s'.find? address) (provider : ProviderId)
    (rooms : List Room) : (s.mergeRooms provider rooms).2.find? address =
      (s'.mergeRooms provider rooms).2.find? address := by
  induction rooms generalizing s s' with
  | nil => exact h
  | cons room rest ih => exact ih (find?_mergeRoom_congr h provider room)

end ResultSet

/-- The result at one address keeps up with the directory: some results that agree with those of the
query there do so, if it is left open whether there should be more of them. -/
def CurrentAt (address : String) : Standing := fun d query errands =>
  ∃ part : ResultSet, part.Sorted ∧ part.find? address = query.results.find? address ∧
    Current d { query with results := part, started := false } errands

variable {address : String} {d : Directory} {query : Query} {errands : List Errand} {e : Entry}

/-- Where nothing has been found, nothing is wrong. -/
theorem currentAt_of_none (d : Directory) (h : query.results.find? address = none) :
    CurrentAt address d query [] := by
  refine ⟨.empty, .nil, h.symm, ?_⟩
  exact ⟨nofun, nofun, fun hmem => (List.not_mem_nil hmem).elim,
    fun hmem => (List.not_mem_nil hmem).elim⟩

/-- What has been found at the address is listed. -/
theorem CurrentAt.listed (h : CurrentAt address d query errands)
    (he : query.results.find? address = some e) : d.Lists query.matcher e := by
  obtain ⟨part, -, hpart, hcurrent⟩ := h
  exact hcurrent.listed (hpart.trans he)

/-- It can be left open what else there should be. -/
theorem Current.unbegun (h : Current d query errands) :
    Current d { query with started := false } errands :=
  ⟨h.listed, nofun, h.past, h.fresh⟩

/-- **The result at one address** goes on keeping up, for what becomes of it depends on it alone. -/
theorem CurrentAt.upheld (address : String) : Standing.Upheld (CurrentAt address) where
  course := by
    rintro d query query' errands ⟨part, hsorted, hpart, hcurrent⟩ hcourse
    refine ⟨part, hsorted, ?_, hcurrent.of_sameCourse ⟨hcourse.matcher, rfl, rfl, hcourse.epoch⟩⟩
    rw [hcourse.results]
    exact hpart
  scan := by
    rintro d query p below ⟨part, hsorted, hpart, hcurrent⟩
    exact ⟨part, hsorted, hpart, hcurrent.scan⟩
  rescan := by
    rintro d query p epoch rooms below ⟨part, hsorted, hpart, hcurrent⟩
    exact ⟨part, hsorted, hpart, hcurrent.rescan⟩
  merge := by
    rintro d query p rooms below ⟨part, hsorted, hpart, hcurrent⟩ hd
    exact ⟨_, (ResultSet.told_mergeRooms hsorted p _).sorted,
      ResultSet.find?_mergeRooms_congr hpart p _, hcurrent.merge hd⟩
  hear := by
    rintro d query p below ⟨part, hsorted, hpart, hcurrent⟩
    exact ⟨part, hsorted, hpart, hcurrent.hear⟩
  start := by
    rintro d query errands ⟨part, hsorted, hpart, hcurrent⟩
    exact ⟨part, hsorted, hpart, hcurrent.start.unbegun⟩
  enter := by
    rintro d d' query errands p rooms ⟨part, hsorted, hpart, hcurrent⟩ hturn
    exact ⟨part, hsorted, hpart, hcurrent.enter hturn⟩
  passed := by
    rintro d d' query errands p room ⟨part, hsorted, hpart, hcurrent⟩ hturn hpassed
    exact ⟨part, hsorted, hpart, hcurrent.passed hturn hpassed⟩
  added := by
    rintro d d' query errands p room ⟨part, hsorted, hpart, hcurrent⟩ hd' hturn haccepts
    exact ⟨_, (ResultSet.told_mergeRoom hsorted p room).sorted,
      ResultSet.find?_mergeRoom_congr hpart p room, hcurrent.added hd' hturn haccepts⟩
  removed := by
    rintro d d' query errands room ⟨part, hsorted, hpart, hcurrent⟩ hturn
    refine ⟨_, (ResultSet.told_dropRoom hsorted room.name).sorted, ?_, hcurrent.removed hturn⟩
    rw [ResultSet.find?_dropRoom, ResultSet.find?_dropRoom, hpart]
  changed := by
    rintro d d' query errands p room autoJoin ⟨part, hsorted, hpart, hcurrent⟩ hd hroom hturn
    refine ⟨_, (ResultSet.told_setAutoJoin hsorted room.name autoJoin).sorted, ?_,
      hcurrent.changed hd hroom hturn⟩
    rw [ResultSet.find?_setAutoJoin, ResultSet.find?_setAutoJoin, hpart]
  gone := by
    rintro d d' query errands p ⟨part, hsorted, hpart, hcurrent⟩ hresults hturn
    refine ⟨_, (ResultSet.told_dropProvider hsorted p).sorted, ?_, hcurrent.gone hsorted hturn⟩
    rw [ResultSet.find?_dropProvider hsorted, ResultSet.find?_dropProvider hresults, hpart]

end RoomSearch
