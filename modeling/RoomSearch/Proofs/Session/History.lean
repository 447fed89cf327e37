import RoomSearch.Proofs.Session.Step

/-!
# Histories

A history is whatever can happen to a session: at rest the world outside asks for an action, and
otherwise the innermost call goes on.  Actions are also performed from inside a call, by listeners,
by observers and while the directory is read; which actions may be performed, and when, is up to
what a history is permitted to do.

## Main definitions

* `Session.ask` — asks for an action.
* `Session.Next` — what can happen next.
* `Session.Leads` — a history from one session to another.
* `Session.Throughout` — a history throughout which something is true of the world.
* `Session.Reachable` — the sessions that histories lead to from the beginning.
* `Session.Unrestricted`, `Session.Passively` — what may be permitted: everything, or only listeners
  that do not call back.

## Main results

* `Session.sound_of_reachable` — every session that can be reached is sound.
* `Session.Sound.later` — no history forgets a query or gives an identity out twice.
-/

namespace RoomSearch.Session

/-- Asks for an action. -/
def ask (s : Session) (a : Action) : Session := { s with calls := [.script [a]] }

/-- The action that is performed next, if the innermost call performs one. -/
def action? (s : Session) : Option Action := s.calls.head?.bind Call.action?

/-- What can happen next, if only permitted actions are performed. -/
inductive Next (permitted : Session → Action → Prop) : Session → Session → Prop where
  /-- At rest an action is asked for. -/
  | ask {s : Session} (a : Action) (hrest : s.calls = []) : Next permitted s (s.ask a)
  /-- Otherwise the innermost call goes on. -/
  | step {s : Session} {c : Call} {calls : List Call} (hcalls : s.calls = c :: calls)
      (hpermitted : ∀ a, c.action? = some a → permitted s a) : Next permitted s s.step

/-- A history that performs permitted actions only. -/
abbrev Leads (permitted : Session → Action → Prop) : Session → Session → Prop :=
  Relation.ReflTransGen (Next permitted)

/-- Such a history throughout which something is true of the world. -/
abbrev Throughout (permitted : Session → Action → Prop) (P : World → Prop) :
    Session → Session → Prop :=
  Relation.ReflTransGen fun s t => Next permitted s t ∧ P t.world

/-- The sessions that such histories lead to. -/
def Reachable (permitted : Session → Action → Prop) (s : Session) : Prop :=
  ∃ config directory registered limit,
    Leads permitted (ofSources config directory registered limit) s

/-- Every action is permitted. -/
def Unrestricted (_ : Session) (_ : Action) : Prop := True

/-- Listeners get no reactions. -/
def Passively (_ : Session) (a : Action) : Prop := a.isPassive = true

instance (s : Session) (a : Action) : Decidable (Passively s a) :=
  inferInstanceAs (Decidable (a.isPassive = true))

variable {permitted : Session → Action → Prop} {s t : Session}

theorem Next.mono {permitted' : Session → Action → Prop}
    (himp : ∀ s a, permitted s a → permitted' s a) (h : Next permitted s t) :
    Next permitted' s t := by
  cases h with
  | ask a hrest => exact .ask a hrest
  | step hcalls hpermitted => exact .step hcalls fun a ha => himp s a (hpermitted a ha)

/-- A history that is permitted less is a history all the same. -/
theorem Leads.mono {permitted' : Session → Action → Prop}
    (himp : ∀ s a, permitted s a → permitted' s a) (h : Leads permitted s t) :
    Leads permitted' s t :=
  Relation.ReflTransGen.mono (fun _ _ hnext => hnext.mono himp) _ _ h

theorem Reachable.mono {permitted' : Session → Action → Prop}
    (himp : ∀ s a, permitted s a → permitted' s a) (h : Reachable permitted s) :
    Reachable permitted' s := by
  obtain ⟨config, directory, registered, limit, hleads⟩ := h
  exact ⟨config, directory, registered, limit, hleads.mono himp⟩

/-- A history goes on. -/
theorem Reachable.leads (h : Reachable permitted s) (h' : Leads permitted s t) :
    Reachable permitted t := by
  obtain ⟨config, directory, registered, limit, hstart⟩ := h
  exact ⟨config, directory, registered, limit, hstart.trans h'⟩

/-- One more step. -/
theorem steps_succ (s : Session) (n : Nat) : s.steps (n + 1) = (s.steps n).step := by
  induction n generalizing s with
  | zero => rfl
  | succ n ih => exact ih s.step

/-- Some steps, and some more. -/
theorem steps_add (s : Session) (m n : Nat) : s.steps (m + n) = (s.steps m).steps n := by
  induction m generalizing s with
  | zero => rw [Nat.zero_add, steps]
  | succ m ih =>
    rw [Nat.succ_add]
    exact ih s.step

/-- A step is a history, unless the session is at rest. -/
theorem step_eq_or_next (h : ∀ a ∈ s.action?, permitted s a) :
    s.step = s ∨ Next permitted s s.step := by
  cases hcalls : s.calls with
  | nil =>
    refine .inl ?_
    rw [step, hcalls]
  | cons c calls =>
    refine .inr (.step hcalls fun a ha => h a ?_)
    rw [action?, hcalls]
    exact ha

theorem Throughout.leads {P : World → Prop} (h : Throughout permitted P s t) :
    Leads permitted s t :=
  Relation.ReflTransGen.mono (fun _ _ hnext => hnext.1) _ _ h

/-- What is true throughout a history is true at its end. -/
theorem Throughout.last {P : World → Prop} (h : Throughout permitted P s t) (hs : P s.world) :
    P t.world := by
  cases h with
  | refl => exact hs
  | tail _ hnext => exact hnext.2

/-- So many steps are a history, if all that they perform is permitted. -/
theorem throughout_steps {P : World → Prop} (n : Nat)
    (h : ∀ k < n, (∀ a ∈ (s.steps k).action?, permitted (s.steps k) a) ∧
      P (s.steps (k + 1)).world) : Throughout permitted P s (s.steps n) := by
  induction n with
  | zero => exact .refl
  | succ n ih =>
    have hhistory := ih fun k hk => h k (Nat.lt_succ_of_lt hk)
    obtain ⟨hpermitted, htrue⟩ := h n (Nat.lt_succ_self n)
    rw [steps_succ] at htrue ⊢
    rcases step_eq_or_next hpermitted with heq | hnext
    · rw [heq]
      exact hhistory
    · exact hhistory.tail ⟨hnext, htrue⟩

/-- Without anything to be true meanwhile. -/
theorem leads_steps (n : Nat) (h : ∀ k < n, ∀ a ∈ (s.steps k).action?, permitted (s.steps k) a) :
    Leads permitted s (s.steps n) :=
  Throughout.leads (throughout_steps (P := fun _ => True) n fun k hk => ⟨h k hk, trivial⟩)

/-- At rest an action and so many steps are a history. -/
theorem throughout_ask {P : World → Prop} (a : Action) (n : Nat) (hrest : s.calls = [])
    (hs : P s.world) (h : ∀ k < n, (∀ b ∈ ((s.ask a).steps k).action?,
      permitted ((s.ask a).steps k) b) ∧ P ((s.ask a).steps (k + 1)).world) :
    Throughout permitted P s ((s.ask a).steps n) :=
  .trans (.single ⟨.ask a hrest, hs⟩) (throughout_steps n h)

theorem leads_ask (a : Action) (n : Nat) (hrest : s.calls = [])
    (h : ∀ k < n, ∀ b ∈ ((s.ask a).steps k).action?, permitted ((s.ask a).steps k) b) :
    Leads permitted s ((s.ask a).steps n) := .trans (.single (.ask a hrest)) (leads_steps n h)

/-! ### A short history -/

/-- Two rooms of one provider. -/
def twoRooms : Directory := Directory.empty.setRooms ⟨"p"⟩ [⟨"a", "a", false⟩, ⟨"b", "b", false⟩]

/-- A query for every room has been made, and is going to get a listener. -/
def joining : Session :=
  (((ofSources .default twoRooms []).ask (.create "q" "" false)).steps 3).ask
    (.listen "q" "l" "s" [] none)

/-- The query has a listener. -/
def listened : Session := joining.steps 3

/-- The query has searched. -/
def searched : Session := (listened.ask (.run "q")).steps 12

theorem reachable_joining : Reachable Passively joining := by
  exact ⟨.default, twoRooms, [], _, .tail (leads_ask _ 3 rfl (by decide +kernel)) (.ask _ rfl)⟩

theorem leads_searched : Leads Passively joining.step searched := by
  have hlistened : Leads Passively joining.step (joining.step.steps 2) := leads_steps 2 (by
    decide +kernel)
  exact hlistened.trans (leads_ask (.run "q") 12 rfl (by decide +kernel))

theorem next_joining : Next Passively joining joining.step := .step rfl (by
  rintro a ⟨⟩
  rfl)

theorem reachable_searched : Reachable Passively searched :=
  (reachable_joining.leads (.single next_joining)).leads leads_searched

theorem reachable_listened : Reachable Passively listened := by
  refine (reachable_joining.leads (.single next_joining)).leads (t := joining.step.steps 2) ?_
  exact leads_steps 2 (by decide +kernel)

/-- What can be reached with passive listeners can be reached. -/
theorem Reachable.unrestricted (h : Reachable permitted s) : Reachable Unrestricted s :=
  h.mono fun _ _ _ => trivial

/-! ### The beginning -/

theorem accounts_ofSources (config : Config) (directory : Directory) (services : List Service)
    (registry : List ServiceId) (limit : Nat) (hsorted : Keyed.Sorted Service.key services)
    (hempty : ∀ service ∈ services, ∀ feed, service.channel = some feed → feed = .empty) :
    (World.ofSources config directory services registry limit).Accounts := by
  have hnone : ∀ q, (World.ofSources config directory services registry limit).query? q = none :=
    fun _ => rfl
  -- every feed is empty, and there are no queries
  have hfeed : ∀ {x f},
      (World.ofSources config directory services registry limit).feed? x = some f → f = .empty := by
    intro x f hf
    cases x with
    | rooms | providers | registrations => cases hf; rfl
    | presence s =>
      obtain ⟨service, hservice, hchannel⟩ := Option.bind_eq_some_iff.mp hf
      exact hempty service (Keyed.mem_of_find? hservice) f hchannel
  refine ⟨⟨?_, ?_, ?_, ?_, ?_, ?_⟩, nofun, nofun, nofun, nofun, hsorted⟩
  · rintro q x id ⟨query, hq, -⟩
    rw [hnone] at hq
    cases hq
  · intro x f id q hf hmem
    rw [hfeed hf] at hmem
    cases hmem
  · rintro q x id id' ⟨query, hq, -⟩
    rw [hnone] at hq
    cases hq
  · intro x f hf
    rw [hfeed hf]
    exact List.nodup_nil
  · intro x f v hf hv
    rw [hfeed hf] at hv
    cases hv
  · intro x f hf
    rw [hfeed hf]
    rfl

/-- The services that are registered at the beginning are in order, and nobody follows them. -/
theorem services_ofSources (registered : List ServiceMention) {services : List Service}
    (hsorted : Keyed.Sorted Service.key services)
    (hempty : ∀ service ∈ services, ∀ feed, service.channel = some feed → feed = .empty) :
    Keyed.Sorted Service.key (registered.foldl (fun services m =>
      Keyed.insertNew Service.key (.ofParts m.id m.provider m.hasChannel) services) services) ∧
    ∀ service ∈ registered.foldl (fun services m =>
      Keyed.insertNew Service.key (.ofParts m.id m.provider m.hasChannel) services) services,
      ∀ feed, service.channel = some feed → feed = .empty := by
  induction registered generalizing services with
  | nil => exact ⟨hsorted, hempty⟩
  | cons m rest ih =>
    refine ih ?_ ?_
    · show Keyed.Sorted _ (Keyed.insertNew _ _ _)
      unfold Keyed.insertNew
      split
      · exact hsorted
      · exact Keyed.sorted_insert hsorted
    · intro service hservice feed hfeed
      rcases Keyed.eq_or_mem_of_mem_insertNew hservice with rfl | hold
      · unfold Service.ofParts at hfeed
        split at hfeed
        · cases hfeed
          rfl
        · cases hfeed
      · exact hempty service hold feed hfeed

theorem sound_ofSources (config : Config) (directory : Directory)
    (registered : List ServiceMention) (limit : Nat) :
    (ofSources config directory registered limit).Sound := by
  obtain ⟨hsorted, hempty⟩ := services_ofSources registered Keyed.sorted_nil nofun
  exact ⟨accounts_ofSources _ _ _ _ _ hsorted hempty, nofun, nofun⟩

/-! ### What every history keeps -/

theorem Sound.next (h : s.Sound) (hnext : Next permitted s t) : t.Sound := by
  cases hnext with
  | ask a hrest =>
    refine ⟨h.accounts, h.alive, ?_⟩
    intro q query hq halive
    have hused := h.used hq halive
    rw [usesQuery, hrest, List.any_nil, Bool.or_false] at hused
    rw [usesQuery, Bool.or_eq_true]
    exact .inl hused
  | step hcalls hpermitted =>
    obtain ⟨m, first, later, hgoes⟩ := goes_step hcalls
    exact hgoes.sound h

theorem Sound.leads (h : s.Sound) (hleads : Leads permitted s t) : t.Sound := by
  induction hleads with
  | refl => exact h
  | tail _ hnext ih => exact ih.next hnext

/-- **Every session that can be reached is sound.** -/
theorem sound_of_reachable (h : Reachable permitted s) : s.Sound := by
  obtain ⟨config, directory, registered, limit, hleads⟩ := h
  exact (sound_ofSources ..).leads hleads

theorem Sound.later_next (h : s.Sound) (hnext : Next permitted s t) :
    World.Later s.world t.world := by
  cases hnext with
  | ask a hrest => exact .refl _
  | step hcalls hpermitted =>
    obtain ⟨m, first, later, hgoes⟩ := goes_step hcalls
    exact hgoes.later_world h

/-- **No history forgets a query**, and none gives an identity out twice. -/
theorem Sound.later (h : s.Sound) (hleads : Leads permitted s t) :
    World.Later s.world t.world := by
  induction hleads with
  | refl => exact .refl _
  | tail hleads hnext ih => exact ih.trans ((h.leads hleads).later_next hnext)

end RoomSearch.Session
