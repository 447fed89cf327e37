import RoomSearch.Proofs.Session.History
import RoomSearch.Session.Settling

/-!
# Histories with a log

Some questions are about all that has happened so far: which queries have been made, or what a query
has answered whenever it was asked to search.  A log answers them: each step makes its entries, and
what has been entered stays.

A call that is in progress is over some time later, since every session comes to rest; until then
the calls below it wait.

## Main definitions

* `Session.Logged` — a history from the beginning with its log.

## Main results

* `Session.exists_logged`, `Session.Logged.leads` — every history has a log, and goes on with it.
* `Session.exists_steps_calls` — **every call is over** some time later.
-/

namespace RoomSearch.Session

/-- A history from the beginning with a log, into which each step makes its entries. -/
inductive Logged (permitted : Session → Action → Prop) {α : Type} (entries : Session → List α) :
    List α → Session → Prop where
  | start (config : Config) (directory : Directory) (registered : List ServiceMention)
      (limit : Nat) : Logged permitted entries [] (ofSources config directory registered limit)
  | ask {log : List α} {s : Session} (h : Logged permitted entries log s) (a : Action)
      (hrest : s.calls = []) : Logged permitted entries log (s.ask a)
  | step {log : List α} {s : Session} {c : Call} {calls : List Call}
      (h : Logged permitted entries log s) (hcalls : s.calls = c :: calls)
      (hpermitted : ∀ a, c.action? = some a → permitted s a) :
      Logged permitted entries (log ++ entries s) s.step

variable {permitted : Session → Action → Prop} {α : Type} {entries : Session → List α}
  {log : List α} {s t : Session}

theorem Logged.reachable (h : Logged permitted entries log s) : Reachable permitted s := by
  induction h with
  | start config directory registered limit => exact ⟨config, directory, registered, limit, .refl⟩
  | ask _ a hrest ih => exact ih.leads (.single (.ask a hrest))
  | step _ hcalls hpermitted ih => exact ih.leads (.single (.step hcalls hpermitted))

theorem Logged.next (h : Logged permitted entries log s) (hnext : Next permitted s t) :
    ∃ new, Logged permitted entries (log ++ new) t := by
  cases hnext with
  | ask a hrest =>
    refine ⟨[], ?_⟩
    rw [List.append_nil]
    exact h.ask a hrest
  | step hcalls hpermitted => exact ⟨_, h.step hcalls hpermitted⟩

/-- **A history goes on** with its log. -/
theorem Logged.leads (h : Logged permitted entries log s) (hleads : Leads permitted s t) :
    ∃ new, Logged permitted entries (log ++ new) t := by
  induction hleads with
  | refl => exact ⟨[], by rwa [List.append_nil]⟩
  | tail _ hnext ih =>
    obtain ⟨new, hlogged⟩ := ih
    obtain ⟨last, hlast⟩ := hlogged.next hnext
    exact ⟨new ++ last, by rwa [← List.append_assoc]⟩

/-- **Every history has a log.** -/
theorem exists_logged (h : Reachable permitted s) : ∃ log, Logged permitted entries log s := by
  obtain ⟨config, directory, registered, limit, hleads⟩ := h
  have hstart : Logged permitted entries [] (ofSources config directory registered limit) :=
    .start config directory registered limit
  obtain ⟨log, hlogged⟩ := hstart.leads hleads
  exact ⟨log, hlogged⟩

/-- So many steps, none of them at rest, with all their entries. -/
theorem Logged.steps (h : Logged permitted entries log s) (n : Nat)
    (hbusy : ∀ k < n, (s.steps k).calls.isEmpty = false)
    (hpermitted : ∀ k < n, ∀ a ∈ (s.steps k).action?, permitted (s.steps k) a) {log' : List α}
    (hlog : log ++ (List.range n).flatMap (fun k => entries (s.steps k)) = log') :
    Logged permitted entries log' (s.steps n) := by
  subst hlog
  induction n with
  | zero => rwa [List.range_zero, List.flatMap_nil, List.append_nil]
  | succ n ih =>
    have hbefore := ih (fun k hk => hbusy k (Nat.lt_succ_of_lt hk))
      fun k hk => hpermitted k (Nat.lt_succ_of_lt hk)
    have hnonempty := hbusy n (Nat.lt_succ_self n)
    cases hcalls : (s.steps n).calls with
    | nil =>
      rw [hcalls] at hnonempty
      cases hnonempty
    | cons c calls =>
      rw [List.range_succ, List.flatMap_append, ← List.append_assoc, List.flatMap_singleton,
        steps_succ]
      refine hbefore.step hcalls fun a ha => hpermitted n (Nat.lt_succ_self n) a ?_
      rw [action?, hcalls]
      exact ha

/-! ### Calls are over some time later -/

/-- A step leaves the calls below the innermost one waiting. -/
theorem exists_calls_step {c : Call} {calls : List Call} (h : s.calls = c :: calls) :
    ∃ new, s.step.calls = new ++ calls := by
  obtain ⟨m, first, later, hgoes⟩ := goes_step h
  exact ⟨_, hgoes.calls⟩

/-- **Every call is over** some time later, and until then the calls below it wait. -/
theorem exists_steps_calls {above base : List Call} (h : s.calls = above ++ base) :
    ∃ n, (s.steps n).calls = base ∧
      ∀ k < n, ∃ c calls, (s.steps k).calls = c :: calls ++ base := by
  fun_induction settle s generalizing above with
  | case1 s hrest =>
    rw [hrest] at h
    refine ⟨0, ?_, fun k hk => absurd hk (Nat.not_lt_zero k)⟩
    rw [steps, hrest, (List.append_eq_nil_iff.mp h.symm).2]
  | case2 s hbusy ih =>
    cases above with
    | nil => exact ⟨0, h, fun k hk => absurd hk (Nat.not_lt_zero k)⟩
    | cons c calls =>
      obtain ⟨new, hnew⟩ := exists_calls_step h
      have hstep : s.step.calls = (new ++ calls) ++ base :=
        hnew.trans (List.append_assoc ..).symm
      obtain ⟨n, hover, hwaits⟩ := ih hstep
      refine ⟨n + 1, hover, ?_⟩
      intro k hk
      cases k with
      | zero => exact ⟨c, calls, h⟩
      | succ k => exact hwaits k (Nat.lt_of_succ_lt_succ hk)

end RoomSearch.Session
