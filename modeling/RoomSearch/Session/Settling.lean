import RoomSearch.Session.Termination

/-!
# Letting a session come to rest

## Main definitions

* `Session.settle` — the session when no call is in progress any more.
* `Session.steps` — the session after so many steps.

## Main results

* `Session.calls_settle` — no call is in progress afterwards.
* `Session.settle_of_step` — what every step keeps holds afterwards.
* `Session.exists_settle_eq_steps` — it is reached after some number of steps.
-/

namespace RoomSearch.Session

/-- The session when no call is in progress any more. -/
def settle (s : Session) : Session :=
  if _ : s.calls = [] then s else s.step.settle
termination_by s.measure
decreasing_by exact measure_step_lt ‹_›

/-- The session after so many steps. -/
def steps (s : Session) : Nat → Session
  | 0 => s
  | n + 1 => s.step.steps n

/-- **At rest** no call is in progress. -/
@[simp] theorem calls_settle (s : Session) : s.settle.calls = [] := by
  fun_induction settle s with
  | case1 s h => exact h
  | case2 s h ih => exact ih

/-- **What every step keeps** holds at rest if it held before. -/
theorem settle_of_step {P : Session → Prop} (hstep : ∀ s, s.calls ≠ [] → P s → P s.step)
    {s : Session} (h : P s) : P s.settle := by
  fun_induction settle s with
  | case1 s _ => exact h
  | case2 s hcalls ih => exact ih (hstep s hcalls h)

/-- **Rest is reached** after some number of steps. -/
theorem exists_settle_eq_steps (s : Session) : ∃ n, s.settle = s.steps n := by
  fun_induction settle s with
  | case1 s h => exact ⟨0, rfl⟩
  | case2 s h ih =>
    obtain ⟨n, hn⟩ := ih
    exact ⟨n + 1, hn⟩

end RoomSearch.Session
