import RoomSearch.Proofs.Attachment
import RoomSearch.Proofs.Coverage.Seats

/-!
# The agenda of a service

When a service is registered or unregistered, calls in progress have to tell the watchers of the
registry, and to withdraw the service in the end.  What is still to be done of this is the agenda of
the service.  A step of a session gets something of it done, or an action adds to it, or it is left
as it is while the seats of a query change for another reason, if at all.

## Main definitions

* `Session.Faithfully` — what may be permitted: the registry announces what happens, nothing else,
  and no unit that owns a service is being stopped.
* `Session.agenda` — what calls in progress have to do about the registration of a service.
* `Session.Turn` — what a step makes of the agenda of a service and of the seats of a query.

## Main results

* `Session.Sound.turn` — every step of a faithful history is a turn of one of these kinds.
-/

namespace RoomSearch

/-- Whether an action, if it is about the registry, announces what happens, and that the unit which
owns the service goes on. -/
def Action.isFaithful : Action → Bool
  | .unregister _ ownerStopping => !ownerStopping
  | .announceRegistration .. => false
  | _ => true

/-- A task, if it is about the registration of a service. -/
def Task.agenda (service : ServiceId) (t : Task) : List Task :=
  if t.service? = some service then [t] else []

/-- An announcement that is still to be made is on the agenda of its service alone. -/
theorem Task.agenda_of_service? {service other : ServiceId} {t : Task}
    (h : t.service? = some other) : t.agenda service = if other = service then [t] else [] := by
  rw [agenda, h]
  simp only [Option.some.injEq]

theorem Task.flatMap_agenda_eq_nil {service : ServiceId} {tasks : List Task}
    (h : ∀ t ∈ tasks, t.service? = none) : tasks.flatMap (Task.agenda service) = [] := by
  refine List.flatMap_eq_nil_iff.mpr fun t ht => ?_
  rw [agenda, h t ht, if_neg (Option.some_ne_none _).symm]

namespace World

variable {w : World} {q : QueryId} {query : Query}

/-- An attached query is told what the registry announces. -/
theorem Accounts.mem_audience (h : w.Accounts) (hq : w.query? q = some query)
    (hattached : query.isAttached = true) : .query q ∈ w.audience .registrations := by
  have hlisteners := h.listeners_eq_ite hq _ (isAttached_iff (x := .registrations) (by simp))
  rw [hattached, if_pos rfl] at hlisteners
  exact List.count_pos_iff.mp (Nat.lt_of_lt_of_eq Nat.zero_lt_one hlisteners.symm)

/-- A service that is mentioned is there. -/
theorem post?_mention_ne_none (w : World) (m : ServiceMention) :
    (w.mention m).post? m.id ≠ none := by
  rw [mention, post?]
  cases hm : w.service? m.id with
  | some service =>
    rw [ensureService_of_some hm, hm]
    exact Option.some_ne_none _
  | none =>
    rw [service?_ensureService_of_none hm, if_pos rfl]
    exact Option.some_ne_none _

end World

namespace Session

/-- The registry announces what happens, nothing else, and no unit that owns a service is being
stopped. -/
def Faithfully (_ : Session) (a : Action) : Prop := a.isFaithful = true

instance (s : Session) (a : Action) : Decidable (Faithfully s a) :=
  inferInstanceAs (Decidable (a.isFaithful = true))

/-- What calls in progress have to do about the registration of a service, in this order. -/
def agenda (service : ServiceId) (s : Session) : List Task :=
  s.calls.flatMap fun c => c.task?.elim [] (Task.agenda service)

/-- What a step makes of the agenda of a service and of the seats of a query. -/
inductive Turn (q : QueryId) (service : ServiceId) (s t : Session) : Prop where
  /-- Neither is concerned. -/
  | aside (hseats : World.Holds q s.world t.world)
      (hregistry : service ∈ t.world.registry ↔ service ∈ s.world.registry)
      (hagenda : t.agenda service = s.agenda service)
  /-- An action attaches the query. -/
  | renewed (haction : s.action? ≠ none) (hseats : World.Renews q s.world t.world)
      (hagenda : t.agenda service = s.agenda service)
  /-- The query hears of another service. -/
  | overheard {notice : RegistrationNotice ServiceId} {rest : List Watcher}
      (hcall : s.calls.head? = some (.task (.deliver (.registration notice) (.query q :: rest))))
      (hne : notice.service ≠ service) (hseats : World.Hears q notice s.world t.world)
      (hagenda : t.agenda service = s.agenda service)
  /-- The query hears of the service. -/
  | heard {notice : RegistrationNotice ServiceId} {rest : List Watcher} {later : List Task}
      (hservice : notice.service = service)
      (hbefore : s.agenda service = .deliver (.registration notice) (.query q :: rest) :: later)
      (hafter : t.agenda service = .deliver (.registration notice) rest :: later)
      (hseats : World.Hears q notice s.world t.world)
  /-- Another watcher hears of the service. -/
  | passed {notice : RegistrationNotice ServiceId} {v : Watcher} {rest : List Watcher}
      {later : List Task} (hv : v ≠ .query q)
      (hbefore : s.agenda service = .deliver (.registration notice) (v :: rest) :: later)
      (hafter : t.agenda service = .deliver (.registration notice) rest :: later)
      (hseats : World.Stays q s.world t.world)
  /-- All watchers have heard of the service. -/
  | spent {notice : RegistrationNotice ServiceId} {later : List Task}
      (hbefore : s.agenda service = .deliver (.registration notice) [] :: later)
      (hafter : t.agenda service = later) (hseats : World.Stays q s.world t.world)
  /-- The service is taken out of the registry. -/
  | withdrawn {later : List Task} (hbefore : s.agenda service = .withdraw service :: later)
      (hafter : t.agenda service = later) (hseats : World.Holds q s.world t.world)
      (hregistry : service ∉ t.world.registry)
  /-- An action registers the service. -/
  | registered (haction : s.action? ≠ none) {audience : List Watcher}
      (hagenda : t.agenda service =
        .deliver (.registration ⟨service, .registered, false⟩) audience :: s.agenda service)
      (hseats : World.Holds q s.world t.world) (hregistry : service ∈ t.world.registry)
      (hknown : t.world.post? service ≠ none)
      (haudience : ∀ {query}, t.world.query? q = some query → query.isAttached = true →
        .query q ∈ audience)
  /-- An action unregisters the service. -/
  | unregistered (haction : s.action? ≠ none) {audience : List Watcher}
      (hagenda : t.agenda service =
        .deliver (.registration ⟨service, .unregistering, false⟩) audience ::
          .withdraw service :: s.agenda service)
      (hseats : World.Stays q s.world t.world)
      (haudience : ∀ {query}, t.world.query? q = some query → query.isAttached = true →
        .query q ∈ audience)

variable {s t : Session} {c : Call} {calls : List Call} {m : Move} {first later : List Call}
  {q : QueryId} {service : ServiceId}

/-- A query that is attached after a step, and was before, is told what the registry announces in
this step. -/
theorem Sound.told (hs : s.Sound) (hseats : World.Holds q s.world t.world) {query : Query}
    (hq : t.world.query? q = some query) (hattached : query.isAttached = true) :
    .query q ∈ s.world.audience .registrations := by
  obtain ⟨old, hold, heq⟩ := hseats.seats hq hattached
  rw [Query.isAttached, ← heq] at hattached
  exact hs.accounts.mem_audience hold hattached

namespace Goes

/-- What a step makes of an agenda: the part of the innermost call gives way to what the tasks of
the move bring. -/
theorem agendas (h : s.Goes c calls m first later t) (hcalls : s.calls = c :: calls)
    (service : ServiceId) : ∃ below,
      s.agenda service = c.task?.elim [] (Task.agenda service) ++ below ∧
        t.agenda service = m.tasks.flatMap (Task.agenda service) ++ below :=
  ⟨_, by rw [agenda, hcalls, List.flatMap_cons], h.flatMap_calls (Task.agenda service)⟩

/-- Letting go leaves the seats alone. -/
theorem stays (h : s.Goes c calls m first later t) (q : QueryId) :
    World.Stays q m.world t.world := by
  rw [h.world]
  exact World.stays_release ..

/-- A move that has nothing to do with registrations. -/
theorem turn_aside (h : s.Goes c calls m first later t) (hcalls : s.calls = c :: calls)
    (hc : c.task?.elim [] (Task.agenda service) = m.tasks.flatMap (Task.agenda service))
    (hseats : World.Stays q s.world m.world) : Turn q service s t := by
  obtain ⟨below, hbefore, hafter⟩ := h.agendas hcalls service
  have hstays := hseats.trans (h.stays q)
  exact .aside hstays.toHolds (by rw [hstays.registry]) (by rw [hafter, hbefore, hc])

/-- An announcement of the registry reaches its next watcher. -/
theorem turn_tell {notice : RegistrationNotice ServiceId} {v : Watcher} {rest : List Watcher}
    (h : s.Goes (.task (.deliver (.registration notice) (v :: rest))) calls m first later t)
    (hcalls : s.calls = .task (.deliver (.registration notice) (v :: rest)) :: calls)
    (htasks : m.tasks = [.deliver (.registration notice) rest])
    (hseats : v ≠ .query q ∧ World.Stays q s.world m.world ∨
      v = .query q ∧ World.Hears q notice s.world m.world) : Turn q service s t := by
  obtain ⟨below, hbefore, hafter⟩ := h.agendas hcalls service
  rw [Call.task?, Option.elim_some, Task.agenda_of_service? rfl] at hbefore
  rw [htasks, List.flatMap_singleton, Task.agenda_of_service? rfl] at hafter
  by_cases hservice : notice.service = service
  · rw [if_pos hservice] at hbefore hafter
    rcases hseats with ⟨hv, hstays⟩ | ⟨rfl, hhears⟩
    · exact .passed hv hbefore hafter (hstays.trans (h.stays q))
    · exact .heard hservice hbefore hafter (hhears.stays (h.stays q))
  · rw [if_neg hservice] at hbefore hafter
    have hagenda := hafter.trans hbefore.symm
    rcases hseats with ⟨hv, hstays⟩ | ⟨rfl, hhears⟩
    · have hstays := hstays.trans (h.stays q)
      exact .aside hstays.toHolds (by rw [hstays.registry]) hagenda
    · exact .overheard (by rw [hcalls]; rfl) hservice (hhears.stays (h.stays q)) hagenda

/-- All watchers have heard what the registry announces. -/
theorem turn_spent {notice : RegistrationNotice ServiceId}
    (h : s.Goes (.task (.deliver (.registration notice) [])) calls (.still s.world) first later t)
    (hcalls : s.calls = .task (.deliver (.registration notice) []) :: calls) :
    Turn q service s t := by
  obtain ⟨below, hbefore, hafter⟩ := h.agendas hcalls service
  have hstays : World.Stays q s.world t.world := h.stays q
  rw [Call.task?, Option.elim_some, Task.agenda_of_service? rfl] at hbefore
  by_cases hservice : notice.service = service
  · rw [if_pos hservice] at hbefore
    exact .spent hbefore hafter hstays
  · rw [if_neg hservice] at hbefore
    exact .aside hstays.toHolds (by rw [hstays.registry]) (hafter.trans hbefore.symm)

/-- A service is taken out of the registry. -/
theorem turn_withdraw {other : ServiceId}
    (h : s.Goes (.task (.withdraw other)) calls
      (.still { s.world with registry := s.world.registry.filter fun old => old != other })
      first later t)
    (hcalls : s.calls = .task (.withdraw other) :: calls) : Turn q service s t := by
  obtain ⟨below, hbefore, hafter⟩ := h.agendas hcalls service
  have hheld : World.Holds q s.world { s.world with
      registry := s.world.registry.filter fun old => old != other } :=
    ⟨id, fun hq _ => ⟨_, hq, rfl⟩⟩
  have hstays := h.stays q
  have hregistry : service ∈ t.world.registry ↔ service ∈ s.world.registry ∧ service ≠ other := by
    rw [hstays.registry]
    exact List.mem_filter.trans (and_congr_right fun _ => bne_iff_ne)
  rw [Call.task?, Option.elim_some, Task.agenda_of_service? rfl] at hbefore
  by_cases hservice : other = service
  · subst hservice
    rw [if_pos rfl] at hbefore
    exact .withdrawn hbefore hafter (hheld.trans hstays.toHolds) fun hmem =>
      (hregistry.mp hmem).2 rfl
  · rw [if_neg hservice] at hbefore
    exact .aside (hheld.trans hstays.toHolds)
      (hregistry.trans (and_iff_left (Ne.symm hservice))) (hafter.trans hbefore.symm)

/-- A task goes on. -/
theorem turn_task {task : Task} (h : s.Goes (.task task) calls m first later t)
    (hcalls : s.calls = .task task :: calls) (hs : s.Sound)
    (hadvances : s.world.Advances task m) : Turn q service s t := by
  cases htask : task.service? with
  | none =>
    -- the task is about no service
    have hignores := hadvances.ignores (q := q) htask
    refine h.turn_aside hcalls ?_ hignores.world
    rw [Task.flatMap_agenda_eq_nil hignores.tasks, Call.task?, Option.elim_some, Task.agenda,
      htask, if_neg (Option.some_ne_none _).symm]
  | some other =>
    cases hadvances with
    | spent hspent =>
      cases task with
      | deliver notice rest =>
        cases List.isEmpty_iff.mp hspent
        cases notice with
        | registration notice => exact h.turn_spent hcalls
        | _ => cases htask
      | withdraw => cases hspent
      | _ => cases htask
    | tell notice p rest =>
      cases notice with
      | registration notice =>
        have htasks := World.tasks_follow_registration s.world p notice
        refine h.turn_tell hcalls (by rw [Move.andThen, htasks, List.nil_append]) ?_
        -- either the query hears of the service, or another one does
        by_cases hp : p = q
        · subst hp
          exact .inr ⟨rfl, World.hears_follow hs.accounts p notice⟩
        · refine .inl ⟨fun heq => hp (Watcher.query.inj heq), ?_⟩
          exact (World.ignores_follow s.world fun heq => absurd heq hp).world
      | _ => cases htask
    | tap notice tap rest =>
      cases notice with
      | registration notice =>
        exact h.turn_tell hcalls rfl (.inl ⟨Watcher.noConfusion, .refl q s.world⟩)
      | _ => cases htask
    | withdraw other => exact h.turn_withdraw hcalls
    -- what is dropped belongs to a query, and is about no service
    | dropped hq => cases task <;> cases hq <;> cases htask
    | _ => cases htask

/-- An action registers a service. -/
theorem turn_register {m : ServiceMention} (h : s.Goes c calls
      ((s.world.mention m).register m.id) first later t) (hcalls : s.calls = c :: calls)
    (haction : s.action? ≠ none) (htask : c.task? = none) (hs : s.Sound) :
    Turn q service s t := by
  obtain ⟨below, hbefore, hafter⟩ := h.agendas hcalls service
  have hheld : World.Holds q s.world ((s.world.mention m).register m.id).world :=
    (World.stays_mention s.world m).toHolds.trans ⟨id, fun hq _ => ⟨_, hq, rfl⟩⟩
  have hstays := h.stays q
  have hseats := hheld.trans hstays.toHolds
  have hregistry : service ∈ t.world.registry ↔ service ∈ s.world.registry ∨ service = m.id := by
    rw [hstays.registry]
    exact List.mem_append.trans (or_congr_right List.mem_singleton)
  rw [htask, Option.elim_none, List.nil_append] at hbefore
  rw [← hbefore, World.register, World.announceRegistration, World.announce, Move.doing,
    List.flatMap_singleton, Task.agenda_of_service? rfl] at hafter
  by_cases hservice : m.id = service
  · subst hservice
    rw [if_pos rfl] at hafter
    obtain ⟨post, hpost⟩ :=
      Option.ne_none_iff_exists'.mp (World.post?_mention_ne_none s.world m)
    refine .registered haction hafter hseats (hregistry.mpr (.inr rfl)) ?_ (hs.told hseats)
    rw [hstays.posts hpost]
    exact Option.some_ne_none _
  · rw [if_neg hservice] at hafter
    exact .aside hseats (hregistry.trans (or_iff_left (Ne.symm hservice))) hafter

/-- An action unregisters a service, whose owner goes on. -/
theorem turn_unregister {m : ServiceMention} (h : s.Goes c calls
      ((s.world.mention m).unregister m.id false) first later t) (hcalls : s.calls = c :: calls)
    (haction : s.action? ≠ none) (htask : c.task? = none) (hs : s.Sound) :
    Turn q service s t := by
  obtain ⟨below, hbefore, hafter⟩ := h.agendas hcalls service
  have hseats := (World.stays_mention (q := q) s.world m).trans (h.stays q)
  rw [htask, Option.elim_none, List.nil_append] at hbefore
  rw [← hbefore, World.unregister, World.announceRegistration, World.announce, Move.doing,
    Move.andThen, List.singleton_append, List.flatMap_cons, List.flatMap_singleton,
    Task.agenda_of_service? rfl, Task.agenda_of_service? rfl] at hafter
  by_cases hservice : m.id = service
  · subst hservice
    rw [if_pos rfl, if_pos rfl] at hafter
    exact .unregistered haction hafter hseats (hs.told hseats.toHolds)
  · rw [if_neg hservice, if_neg hservice] at hafter
    exact .aside hseats.toHolds (by rw [hseats.registry]) hafter

/-- An action is performed. -/
theorem turn_action {a : Action} {rest : List Action}
    (h : s.Goes (.script (a :: rest)) calls m first later t)
    (hcalls : s.calls = .script (a :: rest) :: calls) (hs : s.Sound)
    (hacts : World.Acts s.world s.query? a m) (hfaithful : a.isFaithful = true) :
    Turn q service s t := by
  have haction : s.action? ≠ none := by
    rw [action?, hcalls]
    exact Option.some_ne_none a
  rcases hacts.ignores_or_renews (q := q) fun hq => (hs.named hq).imp fun _ hand => hand.1 with
    ⟨hseats, htasks⟩ | henrolls
  · have hnone : m.tasks.flatMap (Task.agenda service) = [] := Task.flatMap_agenda_eq_nil htasks
    rcases hseats with hstays | hrenews
    · exact h.turn_aside hcalls hnone.symm hstays
    · obtain ⟨below, hbefore, hafter⟩ := h.agendas hcalls service
      exact .renewed haction (hrenews.stays (h.stays q)) (by rw [hafter, hnone, hbefore]; rfl)
  · cases henrolls with
    | register m => exact h.turn_register hcalls haction rfl hs
    | unregister m ownerStopping =>
      cases ownerStopping with
      | false => exact h.turn_unregister hcalls haction rfl hs
      | true => cases hfaithful
    | announce => cases hfaithful

end Goes

/-- **Every step of a faithful history** is a turn of one of these kinds. -/
theorem Sound.turn (hs : s.Sound) (hnext : Next Faithfully s t) (q : QueryId)
    (service : ServiceId) : Turn q service s t := by
  cases hnext with
  | ask a hrest =>
    refine .aside (World.Holds.refl q s.world) Iff.rfl ?_
    rw [agenda, agenda, ask, hrest]
    rfl
  | step hcalls hpermitted =>
    obtain ⟨m, first, later, h⟩ := goes_step hcalls
    cases h.does with
    | task task => exact h.turn_task hcalls hs (World.advances_advance s.world task)
    | action hacts => exact h.turn_action hcalls hs hacts (hpermitted _ rfl)
    | idle hc => exact h.turn_aside hcalls (by rw [hc]; rfl) (.refl q s.world)
    | read => exact h.turn_aside hcalls rfl (.refl q s.world)

end Session

end RoomSearch
