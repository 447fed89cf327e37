import RoomSearch.Proofs.Session.Log

/-!
# What is noted is handed over

A delivery is noted by the move that makes it: in the same move its listener is called with the
news, or the news are published on its bus, and nothing else is noted.  No listener is called
otherwise.  So the notes of a history tell of the calls that were really made to listeners, each of
them once and in order.

## Main definitions

* `Delivery.Made` — a move makes a delivery.
* `Note.told?`, `Move.told?`, `Session.told?` — what a listener is told.
* `World.Delivers` — a move notes what it hands over.
* `Session.HandsOver` — a step makes a delivery.

## Main results

* `World.Advances.delivers`, `World.Acts.delivers` — all moves of tasks and actions do so.
* `Session.handsOver_next` — a delivery that is noted is made at this moment.
* `Session.Logged.told` — **the calls of listeners** are those that are noted.
-/

namespace RoomSearch

/-- A move from a world makes a delivery of a query: its listener is called, or the news are
published on its bus. -/
def Delivery.Made (q : QueryId) (d : Delivery) (w : World) (m : Move) : Prop :=
  match d.subscriber with
  | .listener name => m.world = w ∧ m.callback = some (.listener name ⟨.query q, d.news⟩)
  | .bus b => m.world = w.publish b ⟨.query q, d.news⟩ ∧ m.callback = none

/-- What a listener is told, by its name, when a delivery of a query is made. -/
def Delivery.told? (q : QueryId) (d : Delivery) : Option (String × Event Origin) :=
  match d.subscriber with
  | .listener name => some (name, ⟨.query q, d.news⟩)
  | .bus _ => none

/-- What a listener has been told, according to a note. -/
def Note.told? : Note → Option (String × Event Origin)
  | .delivered q d => d.told? q
  | _ => none

/-- What a listener is told by a call to the outside. -/
def Callback.told? : Callback → Option (String × Event Origin)
  | .listener name event => some (name, event)
  | _ => none

/-- What a listener is told by a move. -/
def Move.told? (m : Move) : Option (String × Event Origin) := m.callback.bind Callback.told?

/-! ### Moves that hand nothing over -/

/-- A move that neither notes a delivery nor calls a listener. -/
structure Move.Silent (m : Move) : Prop where
  notes : ∀ note ∈ m.notes, ∀ q d, note ≠ .delivered q d
  told : m.told? = none

variable {w : World} {m : Move} {q : QueryId}

theorem Move.Silent.of_notes_eq_nil (hnotes : m.notes = []) (htold : m.told? = none) :
    m.Silent := by
  refine ⟨?_, htold⟩
  rw [hnotes]
  exact List.forall_mem_nil _

theorem Move.Silent.still (w : World) : (Move.still w).Silent := .of_notes_eq_nil rfl rfl

/-- One thing is noted that is no delivery. -/
theorem Move.Silent.of_note {note : Note} (hnotes : m.notes = [note])
    (hnote : ∀ q d, note ≠ .delivered q d) (htold : m.told? = none) : m.Silent := by
  refine ⟨?_, htold⟩
  intro other hother
  rw [hnotes] at hother
  rwa [List.mem_singleton.mp hother]

/-- More to be done at the end. -/
theorem Move.Silent.andThen (h : m.Silent) (tasks : List Task) : (m.andThen tasks).Silent :=
  ⟨h.notes, h.told⟩

namespace World

/-- A change that is made known is on its way to its subscribers, and has reached nobody yet. -/
theorem silent_commit (w : World) (q : QueryId) (news : List News) : (w.commit q news).Silent := by
  cases news with
  | nil => exact .still w
  | cons n rest => exact .of_note rfl (fun _ _ => Note.noConfusion) rfl

theorem silent_cancel (w : World) (q : QueryId) : (w.cancel q).Silent := by
  unfold cancel
  split
  · exact .still w
  · split
    · exact .still _
    · exact silent_commit ..

theorem Follows.silent {query : Query} {notice : Notice} (h : w.Follows q query notice m) :
    m.Silent := by
  cases h with
  | still => exact .still w
  | entered => exact .of_notes_eq_nil rfl rfl
  | presence | rooms | gone => exact silent_commit ..
  | joined => exact .of_note rfl (fun _ _ => Note.noConfusion) rfl
  | registration notice =>
    rw [followRegistry_eq_still]
    exact .still _

theorem silent_follow (w : World) (q : QueryId) (notice : Notice) : (w.follow q notice).Silent := by
  rcases follow_spec w q notice with hstill | ⟨query, hq, hfollows⟩
  · rw [hstill]
    exact .still w
  · exact hfollows.silent

theorem Runs.silent (h : w.Runs q m) : m.Silent := by
  cases h with
  | still | late => exact .still _
  | search => exact .of_note rfl (fun _ _ => Note.noConfusion) rfl

theorem Sets.silent (h : w.Sets q m) : m.Silent := by
  cases h with
  | still => exact .still w
  | canceled => exact silent_cancel w q
  | completed => exact silent_commit ..

/-- **An action** hands nothing over by itself. -/
theorem Acts.silent {named : String → Option QueryId} {a : Action} (h : Acts w named a m) :
    m.Silent := by
  cases h with
  | run q => exact (runs_run w q).silent
  | setStatus q status => exact (sets_setStatus w q status).silent
  | cancel q => exact silent_cancel w q
  | presence m provider room identifier change hpresence =>
    obtain ⟨notice, rfl⟩ := exists_of_announcePresence? hpresence
    exact .of_notes_eq_nil rfl rfl
  | _ => exact .of_notes_eq_nil rfl rfl

/-! ### Moves that hand something over -/

/-- A move notes what it hands over. -/
structure Delivers (w : World) (m : Move) : Prop where
  /-- A delivery that is noted is made, and it is all that is noted. -/
  made : ∀ {q d}, .delivered q d ∈ m.notes → m.notes = [.delivered q d] ∧ d.Made q w m
  /-- The listener that is called is the one that the notes tell of. -/
  told : m.notes.filterMap Note.told? = m.told?.toList

theorem delivers_of_silent (h : m.Silent) : w.Delivers m where
  made hmem := absurd rfl (h.notes _ hmem _ _)
  told := by
    rw [h.told, Option.toList_none, List.filterMap_eq_nil_iff]
    intro note hnote
    cases note with
    | delivered q d => exact absurd rfl (h.notes _ hnote q d)
    | _ => rfl

/-- One delivery is noted and made. -/
theorem delivers_of_made {d : Delivery} (hnotes : m.notes = [.delivered q d]) (h : d.Made q w m) :
    w.Delivers m where
  made hmem := by
    rw [hnotes] at hmem ⊢
    cases List.mem_singleton.mp hmem
    exact ⟨rfl, h⟩
  told := by
    have hone : m.notes.filterMap Note.told? = (d.told? q).toList := by
      simp only [hnotes, List.filterMap_cons, List.filterMap_nil, Note.told?]
      cases d.told? q <;> rfl
    rw [hone, Move.told?]
    unfold Delivery.Made at h
    unfold Delivery.told?
    split at h
    · rw [h.2]
      rfl
    · rw [h.2]
      rfl

/-- **A task** hands over what it notes: the next subscriber is told, and nobody else. -/
theorem Advances.delivers {t : Task} (h : w.Advances t m) : w.Delivers m := by
  cases h with
  | spent | dropped | withdraw => exact delivers_of_silent (.still _)
  | tell notice q rest => exact delivers_of_silent ((silent_follow w q notice).andThen _)
  | tap | scan =>
    exact delivers_of_silent (.of_note rfl (fun _ _ => Note.noConfusion) rfl)
  | rescan | search => exact delivers_of_silent (.of_notes_eq_nil rfl rfl)
  | mergeJoined | merge | complete => exact delivers_of_silent (silent_commit ..)
  | cancelEach q rest => exact delivers_of_silent ((silent_cancel w q).andThen _)
  | publish q audience d rest b hb =>
    refine delivers_of_made rfl ?_
    rw [Delivery.Made, hb]
    exact ⟨rfl, rfl⟩
  | hear q audience d rest name hname =>
    refine delivers_of_made rfl ?_
    rw [Delivery.Made, hname]
    exact ⟨rfl, rfl⟩

end World

namespace Session

variable {permitted : Session → Action → Prop} {s t : Session} {c : Call} {calls : List Call}
  {m : Move} {first later : List Call}

/-- What a listener is told by the next step. -/
def told? (s : Session) : Option (String × Event Origin) :=
  (s.calls.head?.bind Call.task?).bind fun t => (s.world.advance t).told?

/-- The step from `s` to `t` makes a delivery of a query: its listener answers the call, or the news
are published on its bus. -/
def HandsOver (s t : Session) (q : QueryId) (d : Delivery) : Prop :=
  ∃ u : Session, u.listeners = s.listeners ∧
    match d.subscriber with
    | .listener name =>
      u.world = s.world ∧ t = (u.respond (.listener name ⟨.query q, d.news⟩)).sweep
    | .bus b => u.world = s.world.publish b ⟨.query q, d.news⟩ ∧ t = u.sweep

theorem Goes.delivers (h : s.Goes c calls m first later t) : s.world.Delivers m := by
  cases h.does with
  | task task => exact (World.advances_advance _ task).delivers
  | action hacts => exact World.delivers_of_silent hacts.silent
  | idle | read => exact World.delivers_of_silent (.of_notes_eq_nil rfl rfl)

/-- Only tasks call listeners. -/
theorem Goes.told (h : s.Goes c calls m first later t) (hcalls : s.calls = c :: calls) :
    m.told? = s.told? := by
  have hnext : s.told? = c.task?.bind fun t => (s.world.advance t).told? := by
    rw [told?, hcalls]
    rfl
  rw [hnext]
  cases h.does with
  | task task => rfl
  | action hacts => exact hacts.silent.told
  | idle hc => rw [hc, Option.bind_none, Move.told?, Move.still, Option.bind_none]
  | read => rfl

/-- **A delivery that a step notes** is made by this step, and it is all that the step notes. -/
theorem handsOver_step (hcalls : s.calls = c :: calls) {new : List Note}
    (hnotes : s.step.notes = s.notes ++ new) {q : QueryId} {d : Delivery}
    (hmem : .delivered q d ∈ new) : new = [.delivered q d] ∧ s.HandsOver s.step q d := by
  obtain ⟨m, first, later, hgoes⟩ := goes_step hcalls
  obtain rfl := List.append_cancel_left (hnotes.symm.trans hgoes.notes)
  obtain ⟨hone, hmade⟩ := hgoes.delivers.made hmem
  refine ⟨hone, ?_⟩
  cases hgoes.does with
  | action hacts => exact absurd rfl (hacts.silent.notes _ hmem q d)
  | idle | read => cases hmem
  | task task =>
    rw [step_of_task hcalls, absorb]
    unfold Delivery.Made at hmade
    split at hmade
    · next name hname =>
      -- the listener answers the call
      obtain ⟨hworld, hcallback⟩ := hmade
      rw [hcallback, HandsOver, hname]
      refine ⟨_, ?_, ?_, rfl⟩
      · rfl
      · exact hworld
    · next b hb =>
      -- nobody is called
      obtain ⟨hworld, hcallback⟩ := hmade
      rw [hcallback, HandsOver, hb]
      refine ⟨_, ?_, ?_, rfl⟩
      · rfl
      · exact hworld

/-- **A delivery that is noted** between two sessions of a history has been made between them. -/
theorem handsOver_next (hnext : Next permitted s t) {new : List Note}
    (hnotes : t.notes = s.notes ++ new) {q : QueryId} {d : Delivery}
    (hmem : .delivered q d ∈ new) : new = [.delivered q d] ∧ s.HandsOver t q d := by
  cases hnext with
  | step hcalls hpermitted => exact handsOver_step hcalls hnotes hmem
  | ask a hrest =>
    -- nothing is noted when an action is asked for
    have hnone : new = [] := List.self_eq_append_right.mp hnotes
    rw [hnone] at hmem
    cases hmem

/-- What listeners have been told in a step is what its notes tell of. -/
theorem Goes.filterMap_notes (h : s.Goes c calls m first later t) (hcalls : s.calls = c :: calls) :
    t.notes.filterMap Note.told? = s.notes.filterMap Note.told? ++ s.told?.toList := by
  rw [h.notes, List.filterMap_append, h.delivers.told, h.told hcalls]

/-- **The calls of listeners** in a history are, in order, those that are noted. -/
theorem Logged.told {log : List (String × Event Origin)}
    (h : Logged permitted (fun s => s.told?.toList) log s) :
    s.notes.filterMap Note.told? = log := by
  induction h with
  | start => rfl
  | ask h a hrest ih => exact ih
  | step h hcalls hpermitted ih =>
    obtain ⟨m, first, later, hgoes⟩ := goes_step hcalls
    rw [hgoes.filterMap_notes hcalls, ih]

end Session

end RoomSearch
