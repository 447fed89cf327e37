import RoomSearch.World.Calls

/-!
# What begins a new epoch of a query

Only an announcement that a query takes notice of begins a new epoch of it.  Everything else that
happens in a world leaves all epochs as they are.

## Main definitions

* `World.SameEpochs` — every query is in the same epoch in both worlds.

## Main results

* `World.sameEpochs_release` — letting go begins no epoch.
* `World.sameEpochs_change` — nor does a change of results.
-/

namespace RoomSearch.World

/-- Every query is in the same epoch in both worlds. -/
def SameEpochs (w w' : World) : Prop := ∀ q, w'.epoch q = w.epoch q

theorem SameEpochs.refl (w : World) : SameEpochs w w := fun _ => rfl

theorem SameEpochs.trans {w₁ w₂ w₃ : World} (h : SameEpochs w₁ w₂) (h' : SameEpochs w₂ w₃) :
    SameEpochs w₁ w₃ := fun q => (h' q).trans (h q)

/-- Epochs depend on the queries alone. -/
theorem sameEpochs_of_queries_eq {w w' : World} (h : w'.queries = w.queries) : SameEpochs w w' := by
  intro q
  simp only [epoch, query?, h]

/-- Changing a query in another respect begins no epoch. -/
theorem sameEpochs_modifyQuery (w : World) (q : QueryId) {f : Query → Query}
    (hf : ∀ query, (f query).epoch = query.epoch) : SameEpochs w (w.modifyQuery q f) := by
  intro p
  simp only [epoch, query?, modifyQuery, List.getElem?_modify]
  cases w.queries[p.index]? with
  | none => rfl
  | some query =>
    by_cases h : q.index = p.index
    · simp [h, hf]
    · simp [h]

/-! ### Feeds and buses -/

@[simp] theorem queries_modifyFeed (w : World) (source : Source)
    (f : Feed Watcher → Feed Watcher) : (w.modifyFeed source f).queries = w.queries := by
  cases source <;> rfl

@[simp] theorem queries_unwatch (w : World) (source : Source) (id : SubscriptionId) :
    (w.unwatch source id).queries = w.queries := queries_modifyFeed ..

@[simp] theorem queries_unwatchLink (w : World) (link : PresenceLink) :
    (w.unwatchLink link).queries = w.queries := queries_unwatch ..

@[simp] theorem queries_foldl_unwatchLink (w : World) (links : List PresenceLink) :
    (links.foldl unwatchLink w).queries = w.queries := by
  induction links generalizing w with
  | nil => rfl
  | cons link rest ih => rw [List.foldl_cons, ih, queries_unwatchLink]

@[simp] theorem queries_publish (w : World) (b : BusId) (event : Event Origin) :
    (w.publish b event).queries = w.queries := rfl

/-! ### Letting go -/

/-- Detaching a query begins no epoch. -/
theorem sameEpochs_detach (w : World) (q : QueryId) : SameEpochs w (w.detach q) := by
  unfold detach
  split
  · exact .refl w
  · refine .trans (sameEpochs_of_queries_eq ?_) (sameEpochs_modifyQuery _ q fun _ => rfl)
    simp

/-- Letting go of a query begins no epoch. -/
theorem sameEpochs_retire (w : World) (q : QueryId) : SameEpochs w (w.retire q) :=
  (sameEpochs_detach w q).trans (sameEpochs_modifyQuery _ q fun _ => rfl)

/-- Letting go of queries begins no epoch. -/
theorem sameEpochs_releaseQueries (w : World) (inUse : QueryId → Bool) :
    SameEpochs w (w.releaseQueries inUse) := by
  unfold releaseQueries
  generalize List.range w.queries.length = indices
  induction indices generalizing w with
  | nil => exact .refl w
  | cons i rest ih =>
    rw [List.foldl_cons]
    split
    · exact (sameEpochs_retire w ⟨i⟩).trans (ih _)
    · exact ih w

/-- Letting go begins no epoch. -/
theorem sameEpochs_release (w : World) (queryInUse : QueryId → Bool) (busInUse : BusId → Bool) :
    SameEpochs w (w.release queryInUse busInUse) :=
  (sameEpochs_releaseQueries w queryInUse).trans (sameEpochs_of_queries_eq rfl)

/-! ### Changes of a query -/

@[simp] theorem world_commit (w : World) (q : QueryId) (news : List News) :
    (w.commit q news).world = w := by
  cases news <;> rfl

/-- A change of results begins no epoch. -/
theorem sameEpochs_change (w : World) (q : QueryId) (outcome : List News × ResultSet) :
    SameEpochs w (w.change q outcome).world := by
  rw [change, world_commit]
  exact sameEpochs_modifyQuery w q fun _ => rfl

end RoomSearch.World
