import Mathlib.Data.List.Induction
import RoomSearch.Proofs.Results
import RoomSearch.World.Move

/-!
# Results of announcements in any order

A room that the local user joins is announced twice, as a presence and as a new room of a list.  For
each address the last listing decides what the room is, and the last presence decides whether the
user is there; a flag that was looked up counts only where there is no listing at all.  So it does
not matter how presences and listings are interleaved.

## Main definitions

* `RoomEvent` — an announcement of one of the two kinds.
* `RoomEvent.revise` — what it makes of the result at its address.
* `ResultSet.hear`, `ResultSet.hearAll` — what announcements make of results.
* `ResultSet.Interleaved` — two interleavings of the same announcements.

## Main results

* `presenceAt_reviseAll`, `reviseAll_of_listed` — the last listing and the last presence decide.
* `ResultSet.find?_hearAll` — addresses do not concern each other.
* `ResultSet.Interleaved.hearAll_eq` — **interleavings lead to the same results.**
-/

namespace RoomSearch

/-- An announcement of one of the two kinds that race. -/
inductive RoomEvent where
  /-- The local user's presence in a room has changed. -/
  | presence (notice : PresenceNotice)
  /-- A room is new in the list of a provider. -/
  | added (provider : ProviderId) (room : Room)
deriving DecidableEq, Repr

namespace RoomEvent

/-- The address that it is about. -/
def address : RoomEvent → String
  | presence notice => notice.room
  | added _ room => room.name

/-- The identifier that comes with it. -/
def identifier : RoomEvent → String
  | presence notice => notice.identifier
  | added _ room => room.identifier

/-- The announcement of a source. -/
def notice : RoomEvent → Notice
  | presence notice => .presence notice
  | added provider room => .rooms ⟨provider, room, .added⟩

/-- The presence that is announced, if it is one. -/
def presence? : RoomEvent → Option PresenceNotice
  | presence notice => some notice
  | added _ _ => none

/-- The listing that is announced, if it is one. -/
def added? : RoomEvent → Option (ProviderId × Room)
  | presence _ => none
  | added provider room => some (provider, room)

/-- The flag that is looked up in a directory for a joined room. -/
def lookUp (d : Directory) : RoomEvent → Bool
  | presence notice => (d.findRoom? notice.provider notice.room).elim false Room.autoJoin
  | added _ _ => false

/-- What an announcement makes of the result at its address, if the room matches or not, and if
`flag` is what is looked up. -/
def revise (matching flag : Bool) (old : Option Entry) : RoomEvent → Option Entry
  | presence notice =>
    match old with
    | some e => some { e with presence := notice.change.presence }
    | none =>
      if notice.change.isJoin && matching then
        some ⟨notice.room, notice.identifier, notice.provider, .online, flag⟩
      else none
  | added provider room =>
    if matching then
      some { Entry.ofRoom provider room with presence := presenceAt old }
    else old

end RoomEvent

/-! ### One address -/

/-- Announcements of one room, with what is looked up for each, heard one after the other. -/
def reviseAll (matching : Bool) (old : Option Entry) (events : List (RoomEvent × Bool)) :
    Option Entry :=
  events.foldl (fun found x => x.1.revise matching x.2 found) old

/-- The presences among announcements. -/
def presencesOf (events : List (RoomEvent × Bool)) : List PresenceNotice :=
  events.filterMap fun x => x.1.presence?

/-- The listings among announcements. -/
def listingsOf (events : List (RoomEvent × Bool)) : List (ProviderId × Room) :=
  events.filterMap fun x => x.1.added?

@[simp] theorem presencesOf_nil : presencesOf [] = [] := rfl

@[simp] theorem listingsOf_nil : listingsOf [] = [] := rfl

@[simp] theorem presencesOf_presence (notice : PresenceNotice) (flag : Bool)
    (rest : List (RoomEvent × Bool)) :
    presencesOf ((.presence notice, flag) :: rest) = notice :: presencesOf rest := rfl

@[simp] theorem presencesOf_added (provider : ProviderId) (room : Room) (flag : Bool)
    (rest : List (RoomEvent × Bool)) :
    presencesOf ((.added provider room, flag) :: rest) = presencesOf rest := rfl

@[simp] theorem listingsOf_presence (notice : PresenceNotice) (flag : Bool)
    (rest : List (RoomEvent × Bool)) :
    listingsOf ((.presence notice, flag) :: rest) = listingsOf rest := rfl

@[simp] theorem listingsOf_added (provider : ProviderId) (room : Room) (flag : Bool)
    (rest : List (RoomEvent × Bool)) :
    listingsOf ((.added provider room, flag) :: rest) = (provider, room) :: listingsOf rest := rfl

theorem presencesOf_append (events later : List (RoomEvent × Bool)) :
    presencesOf (events ++ later) = presencesOf events ++ presencesOf later :=
  List.filterMap_append

theorem listingsOf_append (events later : List (RoomEvent × Bool)) :
    listingsOf (events ++ later) = listingsOf events ++ listingsOf later :=
  List.filterMap_append

theorem reviseAll_concat (matching : Bool) (old : Option Entry) (events : List (RoomEvent × Bool))
    (e : RoomEvent) (flag : Bool) : reviseAll matching old (events ++ [(e, flag)]) =
      e.revise matching flag (reviseAll matching old events) := by
  rw [reviseAll, List.foldl_append]
  rfl

/-- A listing keeps the presence. -/
theorem presenceAt_revise_added (matching flag : Bool) (old : Option Entry) (provider : ProviderId)
    (room : Room) :
    presenceAt ((RoomEvent.added provider room).revise matching flag old) = presenceAt old := by
  cases matching <;> rfl

/-- Of a room that matches, the presence that is announced is known afterwards. -/
theorem presenceAt_revise_presence (flag : Bool) (old : Option Entry) (notice : PresenceNotice) :
    presenceAt ((RoomEvent.presence notice).revise true flag old) = notice.change.presence := by
  cases old with
  | some e => rfl
  | none =>
    -- who was not there and does not join is taken to be away
    rw [RoomEvent.revise, PresenceChange.presence]
    cases notice.change.isJoin <;> rfl

/-- **The last presence decides** whether the user is in a room that matches. -/
theorem presenceAt_reviseAll (old : Option Entry) (events : List (RoomEvent × Bool)) :
    presenceAt (reviseAll true old events) =
      (presencesOf events).getLast?.elim (presenceAt old) fun n => n.change.presence := by
  induction events using List.reverseRecOn with
  | nil => rfl
  | append_singleton events x ih =>
    obtain ⟨e, flag⟩ := x
    rw [reviseAll_concat, presencesOf_append]
    cases e with
    | presence notice =>
      rw [presenceAt_revise_presence, presencesOf_presence, presencesOf_nil, List.getLast?_concat,
        Option.elim_some]
    | added provider room =>
      rw [presenceAt_revise_added, ih, presencesOf_added, presencesOf_nil, List.append_nil]

/-- **The last listing decides** what a room is that matches, if there is one at all. -/
theorem reviseAll_of_listed (old : Option Entry) {events : List (RoomEvent × Bool)}
    {provider : ProviderId} {room : Room}
    (hlast : (listingsOf events).getLast? = some (provider, room)) :
    reviseAll true old events = some { Entry.ofRoom provider room with
      presence := (presencesOf events).getLast?.elim (presenceAt old) fun n => n.change.presence } := by
  rw [← presenceAt_reviseAll]
  induction events using List.reverseRecOn with
  | nil => cases hlast
  | append_singleton events x ih =>
    obtain ⟨e, flag⟩ := x
    rw [listingsOf_append] at hlast
    rw [reviseAll_concat]
    cases e with
    | presence notice =>
      rw [listingsOf_presence, listingsOf_nil, List.append_nil] at hlast
      rw [ih hlast]
      rfl
    | added other listed =>
      rw [listingsOf_added, listingsOf_nil, List.getLast?_concat] at hlast
      cases hlast
      rfl

/-- Without a listing that matches, the presences alone decide. -/
theorem reviseAll_of_unlisted {matching : Bool} {flagOf : PresenceNotice → Bool}
    (old : Option Entry) {events : List (RoomEvent × Bool)}
    (hunlisted : matching = true → listingsOf events = [])
    (hflags : matching = true → ∀ notice flag, (.presence notice, flag) ∈ events →
      flag = flagOf notice) :
    reviseAll matching old events =
      reviseAll matching old ((presencesOf events).map fun n => (.presence n, flagOf n)) := by
  induction events generalizing old with
  | nil => rfl
  | cons x rest ih =>
    obtain ⟨e, flag⟩ := x
    have hflags' := fun hmatch notice flag hmem =>
      hflags hmatch notice flag (List.mem_cons_of_mem _ hmem)
    cases e with
    | presence notice =>
      have heq : RoomEvent.revise matching flag old (.presence notice) =
          RoomEvent.revise matching (flagOf notice) old (.presence notice) := by
        cases matching with
        | true => rw [hflags rfl notice flag List.mem_cons_self]
        | false => simp [RoomEvent.revise]
      have hrest := ih (RoomEvent.revise matching flag old (.presence notice)) hunlisted hflags'
      rw [heq] at hrest
      rw [reviseAll, List.foldl_cons, heq]
      exact hrest
    | added provider room =>
      cases matching with
      | true => cases hunlisted rfl
      | false => exact ih old nofun hflags'

/-- Of a room that does not match the presences alone count, and nothing that is looked up. -/
theorem reviseAll_of_mismatch (old : Option Entry) (events : List (RoomEvent × Bool)) :
    reviseAll false old events =
      reviseAll false old ((presencesOf events).map fun n => (.presence n, false)) :=
  reviseAll_of_unlisted old nofun nofun

/-! ### What is announced -/

/-- What is announced is a presence or a listing. -/
theorem mem_presencesOf {notice : PresenceNotice} {events : List (RoomEvent × Bool)} :
    notice ∈ presencesOf events ↔ ∃ flag, (.presence notice, flag) ∈ events := by
  simp only [presencesOf, List.mem_filterMap]
  constructor
  · rintro ⟨⟨e, flag⟩, hmem, heq⟩
    cases e with
    | presence other =>
      cases heq
      exact ⟨flag, hmem⟩
    | added provider room => cases heq
  · rintro ⟨flag, hmem⟩
    exact ⟨_, hmem, rfl⟩

theorem mem_listingsOf {listing : ProviderId × Room} {events : List (RoomEvent × Bool)} :
    listing ∈ listingsOf events ↔ ∃ flag, (.added listing.1 listing.2, flag) ∈ events := by
  simp only [listingsOf, List.mem_filterMap]
  constructor
  · rintro ⟨⟨e, flag⟩, hmem, heq⟩
    cases e with
    | presence other => cases heq
    | added provider room =>
      cases heq
      exact ⟨flag, hmem⟩
  · rintro ⟨flag, hmem⟩
    exact ⟨_, hmem, rfl⟩

/-- The same is announced in two interleavings. -/
theorem exists_mem_of_same {events events' : List (RoomEvent × Bool)}
    (hpresences : presencesOf events = presencesOf events')
    (hlistings : listingsOf events = listingsOf events') {x : RoomEvent × Bool} (hx : x ∈ events') :
    ∃ flag, (x.1, flag) ∈ events := by
  obtain ⟨e, flag⟩ := x
  cases e with
  | presence notice => exact mem_presencesOf.mp (hpresences ▸ mem_presencesOf.mpr ⟨flag, hx⟩)
  | added provider room =>
    have hmem : (provider, room) ∈ listingsOf events' := mem_listingsOf.mpr ⟨flag, hx⟩
    exact mem_listingsOf.mp (hlistings ▸ hmem)

/-- The announcements of one address. -/
def eventsAt (address : String) (events : List (RoomEvent × Bool)) : List (RoomEvent × Bool) :=
  events.filter fun x => x.1.address == address

theorem presencesOf_eventsAt (address : String) (events : List (RoomEvent × Bool)) :
    presencesOf (eventsAt address events) =
      (presencesOf events).filter fun notice => notice.room == address := by
  rw [presencesOf, presencesOf, eventsAt, List.filterMap_filter, List.filter_filterMap]
  refine List.filterMap_congr fun x _ => ?_
  cases x.1 with
  | presence notice => rfl
  | added provider room => exact ite_self _

theorem listingsOf_eventsAt (address : String) (events : List (RoomEvent × Bool)) :
    listingsOf (eventsAt address events) =
      (listingsOf events).filter fun listing => listing.2.name == address := by
  rw [listingsOf, listingsOf, eventsAt, List.filterMap_filter, List.filter_filterMap]
  refine List.filterMap_congr fun x _ => ?_
  cases x.1 with
  | presence notice => exact ite_self _
  | added provider room => rfl

/-! ### All addresses -/

namespace ResultSet

/-- What becomes of results when an announcement is heard, if the room matches or not, and if `flag`
is what is looked up. -/
def hear (s : ResultSet) (matching flag : Bool) : RoomEvent → ResultSet
  | .presence notice =>
    match s.setPresence? notice.room notice.change.presence with
    | some outcome => outcome.2
    | none =>
      if notice.change.isJoin && matching then (s.mergeJoined notice flag).2 else s
  | .added provider room => if matching then (s.mergeRoom provider room).2 else s

/-- What becomes of results when announcements are heard one after the other. -/
def hearAll (accepts : String → String → Bool) (s : ResultSet) (events : List (RoomEvent × Bool)) :
    ResultSet :=
  events.foldl (fun s x => s.hear (accepts x.1.address x.1.identifier) x.2 x.1) s

variable {s : ResultSet}

/-- **An announcement concerns one address.** -/
theorem find?_hear (s : ResultSet) (matching flag : Bool) (e : RoomEvent) (address : String) :
    (s.hear matching flag e).find? address =
      if e.address = address then e.revise matching flag (s.find? address)
      else s.find? address := by
  -- it is enough to know what is found at the address of the announcement
  have here : ∀ {found : Option Entry}, e.revise matching flag (s.find? e.address) = found →
      (if e.address = address then found else s.find? address) =
        if e.address = address then e.revise matching flag (s.find? address)
        else s.find? address := by
    intro found hfound
    split
    · next haddress => rw [← haddress, hfound]
    · rfl
  cases e with
  | presence notice =>
    rw [hear]
    cases hfound : s.find? notice.room with
    | some old =>
      -- the room is a result, and its presence is set
      obtain ⟨outcome, houtcome, hfind⟩ := exists_setPresence? hfound notice.change.presence
      rw [houtcome]
      refine (hfind address).trans (here ?_)
      rw [RoomEvent.address, hfound, RoomEvent.revise]
    | none =>
      rw [setPresence?_of_none hfound]
      cases hjoined : notice.change.isJoin && matching with
      | true =>
        -- it is no result yet, but has just been joined and matches
        refine (find?_mergeJoined_of_none hfound flag address).trans (here ?_)
        rw [RoomEvent.address, hfound, RoomEvent.revise]
        exact if_pos hjoined
      | false =>
        -- it is no result, and stays none
        have hnone : (RoomEvent.presence notice).revise matching flag
            (s.find? (RoomEvent.presence notice).address) = s.find? notice.room := by
          rw [RoomEvent.address, hfound, RoomEvent.revise]
          exact if_neg (Bool.eq_false_iff.mp hjoined)
        show s.find? address = _
        rw [← here hnone]
        split
        · next haddress =>
          rw [← haddress]
          rfl
        · rfl
  | added provider room =>
    rw [hear]
    cases matching with
    | false => exact (ite_self _).symm
    | true => exact find?_mergeRoom_eq s provider room address

theorem Sorted.hear (h : s.Sorted) (matching flag : Bool) (e : RoomEvent) :
    (s.hear matching flag e).Sorted := by
  unfold ResultSet.hear
  split
  · split
    · next houtcome => exact (told_setPresence? h houtcome).sorted
    · split
      · exact (told_mergeJoined h ..).sorted
      · exact h
  · split
    · exact (told_mergeRoom h ..).sorted
    · exact h

variable {accepts : String → String → Bool}

theorem Sorted.hearAll (h : s.Sorted) (events : List (RoomEvent × Bool)) :
    (s.hearAll accepts events).Sorted := by
  induction events generalizing s with
  | nil => exact h
  | cons x rest ih => exact ih (h.hear ..)

/-- **What is found at an address** depends on the announcements of this address alone. -/
theorem find?_hearAll (s : ResultSet) {events : List (RoomEvent × Bool)} {address : String}
    {matching : Bool}
    (h : ∀ x ∈ eventsAt address events, accepts x.1.address x.1.identifier = matching) :
    (s.hearAll accepts events).find? address =
      reviseAll matching (s.find? address) (eventsAt address events) := by
  induction events generalizing s with
  | nil => rfl
  | cons x rest ih =>
    have hrest : ∀ x ∈ eventsAt address rest, accepts x.1.address x.1.identifier = matching :=
      fun y hy => h y ((List.sublist_cons_self x rest).filter _ |>.subset hy)
    rw [hearAll, List.foldl_cons]
    show ((s.hear _ x.2 x.1).hearAll accepts rest).find? address = _
    rw [ih _ hrest, find?_hear]
    by_cases haddress : x.1.address = address
    · have heq : eventsAt address (x :: rest) = x :: eventsAt address rest :=
        List.filter_cons_of_pos (beq_iff_eq.mpr haddress)
      rw [if_pos haddress, heq, h x (heq ▸ List.mem_cons_self)]
      rfl
    · have heq : eventsAt address (x :: rest) = eventsAt address rest :=
        List.filter_cons_of_neg (by simpa using haddress)
      rw [if_neg haddress, heq]

/-! ### Interleavings -/

/-- Two interleavings of announcements: the presences come in the same order in both, and so do the
listings.  Announcements of one address have one identifier, and the same is looked up for a room
in both unless it is listed meanwhile. -/
structure Interleaved (flagOf : PresenceNotice → Bool) (events events' : List (RoomEvent × Bool)) :
    Prop where
  presences : presencesOf events = presencesOf events'
  listings : listingsOf events = listingsOf events'
  identified : ∀ x ∈ events, ∀ y ∈ events, x.1.address = y.1.address →
    x.1.identifier = y.1.identifier
  flags : ∀ notice flag, (.presence notice, flag) ∈ events ++ events' →
    (∀ listing ∈ listingsOf events, listing.2.name ≠ notice.room) → flag = flagOf notice

variable {flagOf : PresenceNotice → Bool} {events events' : List (RoomEvent × Bool)}

namespace Interleaved

/-- All announcements of an address match, or none does. -/
theorem exists_matching (h : Interleaved flagOf events events')
    (accepts : String → String → Bool) (address : String) :
    ∃ matching, (∀ x ∈ eventsAt address events, accepts x.1.address x.1.identifier = matching) ∧
      ∀ x ∈ eventsAt address events', accepts x.1.address x.1.identifier = matching := by
  by_cases hex : ∃ y ∈ events, y.1.address = address
  · obtain ⟨y, hy, hyaddress⟩ := hex
    have hsame : ∀ x ∈ events, x.1.address = address →
        accepts x.1.address x.1.identifier = accepts y.1.address y.1.identifier := by
      intro x hx haddress
      have heq : x.1.address = y.1.address := haddress.trans hyaddress.symm
      rw [h.identified x hx y hy heq, heq]
    refine ⟨accepts y.1.address y.1.identifier, ?_, ?_⟩
    · intro x hx
      obtain ⟨hmem, haddress⟩ := List.mem_filter.mp hx
      exact hsame x hmem (beq_iff_eq.mp haddress)
    · intro x hx
      obtain ⟨hmem, haddress⟩ := List.mem_filter.mp hx
      obtain ⟨flag, hmem'⟩ := exists_mem_of_same h.presences h.listings hmem
      exact hsame (x.1, flag) hmem' (beq_iff_eq.mp haddress)
  · refine ⟨false, ?_, ?_⟩
    · intro x hx
      obtain ⟨hmem, haddress⟩ := List.mem_filter.mp hx
      exact absurd ⟨x, hmem, beq_iff_eq.mp haddress⟩ hex
    · intro x hx
      obtain ⟨hmem, haddress⟩ := List.mem_filter.mp hx
      obtain ⟨flag, hmem'⟩ := exists_mem_of_same h.presences h.listings hmem
      exact absurd ⟨_, hmem', beq_iff_eq.mp haddress⟩ hex

/-- The flags that are looked up for the rooms of an address that is not listed. -/
theorem flags_at (h : Interleaved flagOf events events') {address : String}
    (hunlisted : listingsOf (eventsAt address events) = []) {among : List (RoomEvent × Bool)}
    (hsub : among ⊆ events ++ events') (notice : PresenceNotice) (flag : Bool)
    (hmem : (.presence notice, flag) ∈ eventsAt address among) : flag = flagOf notice := by
  obtain ⟨hmem, haddress⟩ := List.mem_filter.mp hmem
  have hroom : notice.room = address := beq_iff_eq.mp haddress
  refine h.flags notice flag (hsub hmem) fun listing hlisting hname => ?_
  rw [listingsOf_eventsAt, List.filter_eq_nil_iff] at hunlisted
  exact hunlisted listing hlisting (beq_iff_eq.mpr (hname.trans hroom))

/-- **Interleavings lead to the same results.** -/
theorem hearAll_eq (h : Interleaved flagOf events events') (hs : s.Sorted)
    (accepts : String → String → Bool) :
    s.hearAll accepts events = s.hearAll accepts events' := by
  refine (hs.hearAll events).ext (hs.hearAll events') fun address => ?_
  obtain ⟨matching, hmatching, hmatching'⟩ := h.exists_matching accepts address
  rw [find?_hearAll s hmatching, find?_hearAll s hmatching']
  have hpresences : presencesOf (eventsAt address events) =
      presencesOf (eventsAt address events') := by
    rw [presencesOf_eventsAt, presencesOf_eventsAt, h.presences]
  have hlistings : listingsOf (eventsAt address events) =
      listingsOf (eventsAt address events') := by
    rw [listingsOf_eventsAt, listingsOf_eventsAt, h.listings]
  -- either a listing decides, or there is none that matches
  cases hlast : (listingsOf (eventsAt address events)).getLast? with
  | some listing =>
    cases matching with
    | true =>
      rw [reviseAll_of_listed _ hlast, reviseAll_of_listed _ (hlistings ▸ hlast), hpresences]
    | false =>
      rw [reviseAll_of_mismatch _ (eventsAt address events),
        reviseAll_of_mismatch _ (eventsAt address events'), hpresences]
  | none =>
    have hnil := List.getLast?_eq_none_iff.mp hlast
    have hflags := h.flags_at hnil (List.subset_append_left events events')
    have hflags' := h.flags_at hnil (List.subset_append_right events events')
    rw [reviseAll_of_unlisted _ (fun _ => hnil) fun _ => hflags,
      reviseAll_of_unlisted _ (fun _ => hlistings ▸ hnil) fun _ => hflags', hpresences]

end Interleaved

end ResultSet

end RoomSearch
