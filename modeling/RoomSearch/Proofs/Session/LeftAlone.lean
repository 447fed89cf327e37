import RoomSearch.Proofs.Session.Step

/-!
# Calls that nobody interferes with

While a task goes on, the outside is called in three ways only: the directory is read, a listener is
told, an observer sees an announcement.  Where nothing is in store for the next reading and the
listeners that are told do not call back, what follows is what the tasks do by themselves.

## Main definitions

* `Callback.IsIdle` — a call to the outside that is not answered.
* `Session.LeftAlone` — a query is held, and nobody interferes.

## Main results

* `Session.LeftAlone.step_task` — a step is the next move of the innermost task, and no more.
-/

namespace RoomSearch

/-- A call to the outside that is not answered, if these listeners do not call back. -/
def Callback.IsIdle (audience : String → Prop) : Callback → Prop
  | .read => True
  | .listener name _ => audience name
  | .tap .. => False

namespace Session

/-- A query that is held, while these listeners do not call back and nothing is in store for the
next reading. -/
structure LeftAlone (s : Session) (q : QueryId) (audience : String → Prop) : Prop where
  sound : s.Sound
  deaf : ∀ l ∈ s.listeners, audience l.name → l.reactions = []
  unhooked : s.hook = none
  held : ∃ h ∈ s.held, h.2 = q

variable {s : Session} {q : QueryId} {audience : String → Prop} {task : Task} {calls : List Call}

/-- A task goes on, and nobody interferes. -/
theorem LeftAlone.step_eq (h : s.LeftAlone q audience) (hcalls : s.calls = .task task :: calls)
    (hidle : ∀ c, (s.world.advance task).callback = some c → c.IsIdle audience) :
    s.step = sweep { s with
      world := (s.world.advance task).world
      journal := ((s.world.advance task).notes.map Line.noted).reverse ++ s.journal
      calls := (s.world.advance task).tasks.map Call.task ++ calls } := by
  rw [step_of_task hcalls, absorb, List.append_nil]
  cases hcallback : (s.world.advance task).callback with
  | none => rfl
  | some callback =>
    have hc := hidle callback hcallback
    cases callback with
    | read =>
      dsimp only
      rw [respond, h.unhooked]
    | listener name event =>
      dsimp only
      rw [respond, reactOf_eq_none fun l hl hname => h.deaf l hl (hname ▸ hc)]
    | tap i notice => cases hc

/-- **Nobody interferes** afterwards either, and the query is as the task has left it. -/
theorem LeftAlone.step_task (h : s.LeftAlone q audience)
    (hcalls : s.calls = .task task :: calls)
    (hidle : ∀ c, (s.world.advance task).callback = some c → c.IsIdle audience) :
    s.step.LeftAlone q audience ∧
      s.step.calls = (s.world.advance task).tasks.map Call.task ++ calls ∧
      s.step.world.query? q = (s.world.advance task).world.query? q := by
  have hstep := h.step_eq hcalls hidle
  obtain ⟨m, first, later, hgoes⟩ := goes_step hcalls
  have hsound := hgoes.sound h.sound
  rw [hstep] at hsound ⊢
  refine ⟨⟨hsound, h.deaf, h.unhooked, h.held⟩, rfl, ?_⟩
  -- the query is held, so it is not let go
  have haccounts := h.sound.accounts.of_chain (World.advances_advance s.world task).chain
  obtain ⟨held, hheld, hq⟩ := h.held
  refine (World.releases_release haccounts ..).same q ?_
  rw [usesQuery, Bool.or_eq_true]
  exact .inl (List.any_eq_true.mpr ⟨held, hheld, beq_iff_eq.mpr hq⟩)

end Session

end RoomSearch
