import RoomSearch.Proofs.Delivery
import RoomSearch.Proofs.Survival.Offers

/-!
# Rooms that several providers list

A query has one entry for an address, whichever of the providers that list it was merged last.  When
one of them takes the room out, the entry goes, although others may list the room still; and when
the provider goes that the entry names, so does the entry.  Those are the only ways in which a room
that matches and is listed can be missing: what the query finds it keeps, and what is new it hears
of, whatever listeners, observers and the directory do meanwhile.

## Main definitions

* `Session.Shows` — an offer has been found, or a call in progress is going to find it.
* `Session.Loses` — a query hears of a removal that evicts an entry.
* `Session.Orphaned` — an entry has been evicted, and the offer has stood ever since.

## Main results

* `Session.Orderly.shows_next` — every step keeps an offer shown, unless its entry is evicted.
* `Session.offers_survive` — **offers are shown or orphaned**, and a removal evicts just what it is
  about.
-/

namespace RoomSearch.Session

/-- Once the query has begun to search, an offer that matches has been found, or a call in progress
is going to find it. -/
def Shows (s : Session) (q : QueryId) (o : Offer) : Prop :=
  ∀ {query}, s.world.query? q = some query → query.started = true →
    s.world.directory.Offers o → query.accepts o.name o.identifier = true →
    query.results.contains o.name = true ∨ ∃ t, .task t ∈ s.calls ∧ t.Seeks q query.epoch o

/-- From `s` to `t` the query hears of a removal that evicts its entry with this name. -/
structure Loses (q : QueryId) (name : String) (s t : Session) : Prop where
  heard : ∃ query e notice rest calls, s.world.query? q = some query ∧
    query.results.find? name = some e ∧ notice.evicts e = true ∧
    s.calls = .task (.deliver notice (.query q :: rest)) :: calls
  gone : ∃ query', t.world.query? q = some query' ∧ query'.results.contains name = false

/-- Between `u` and `s` the query has lost the entry with the name of an offer, and the offer has
stood ever since. -/
def Orphaned (q : QueryId) (o : Offer) (u s : Session) : Prop :=
  ∃ v, Throughout Unrestricted (·.Attends q) u v ∧ Loses q o.name v v.step ∧
    v.step.world.Attends q ∧ v.step.world.directory.Offers o ∧
    Throughout Unrestricted (fun w => w.Attends q ∧ w.directory.Offers o) v.step s

variable {s t u : Session} {c : Call} {calls : List Call} {m : Move} {first later : List Call}
  {q : QueryId} {o : Offer} {query : Query}

/-! ### One step -/

theorem Goes.task_mem_calls (h : s.Goes c calls m first later t) {task : Task}
    (htask : task ∈ m.tasks) : .task task ∈ t.calls := by
  rw [h.calls]
  exact List.mem_append_left _ (List.mem_append_left _
    (List.mem_append_right _ (List.mem_map_of_mem htask)))

theorem Goes.mem_calls (h : s.Goes c calls m first later t) {d : Call} (hd : d ∈ calls) :
    d ∈ t.calls := by
  rw [h.calls]
  exact List.mem_append_right _ hd

/-- A call that is no task keeps an offer shown. -/
theorem Goes.shows_of_heralds (h : s.Goes c calls m first later t) (hs : s.Sound)
    (hattends : s.world.Attends q) (hcalls : s.calls = c :: calls) (hc : c.task? = none)
    (hheralds : s.world.Heralds q m) (hshows : s.Shows q o) : t.Shows q o := by
  intro query' hq' hstarted hoffers haccepts
  obtain ⟨query, hq, -⟩ := hattends
  obtain ⟨middle, hmiddle, hmatcher, hresults, hepoch, hheard⟩ := hheralds.query hq
  obtain ⟨after, hafter, hfound⟩ := (h.releases hs).findings.exists hmiddle
  cases Option.some.inj (hafter.symm.trans hq')
  rw [hfound.started] at hstarted
  rw [(h.releases hs).directory] at hoffers
  rw [Query.accepts, hfound.matcher, hmatcher] at haccepts
  rw [hfound.results, hresults, hfound.epoch, hepoch]
  rcases hheard hstarted hoffers with ⟨hbefore, hold⟩ | ⟨task, htask, hseeks⟩
  · refine (hshows hq hbefore hold haccepts).imp_right ?_
    rintro ⟨task, htask, hseeks⟩
    rw [hcalls] at htask
    rcases List.mem_cons.mp htask with heq | htask
    · rw [← heq] at hc
      cases hc
    · exact ⟨task, h.mem_calls htask, hseeks⟩
  · exact .inr ⟨task, h.task_mem_calls htask, hseeks⟩

/-- A task keeps an offer shown, unless it evicts the entry. -/
theorem Goes.shows_of_task {task : Task} (h : s.Goes (.task task) calls m first later t)
    (hs : s.Orderly) (hattends : s.world.Attends q) (hcalls : s.calls = .task task :: calls)
    (hm : m = s.world.advance task) (hshows : s.Shows q o) :
    t.Shows q o ∨ Loses q o.name s t := by
  subst hm
  have haccounts := hs.sound.accounts
  obtain ⟨query, hq, hsubscribed, hactive⟩ := hattends
  have hretains := (World.advances_advance s.world task).retains haccounts hq (hs.tidy hq)
  obtain ⟨middle, hmiddle, hkept⟩ := hretains.query hq
  have hreleases := h.releases hs.sound
  obtain ⟨after, hafter, hfound⟩ := hreleases.findings.exists hmiddle
  by_cases hlost : Loses q o.name s t
  · exact .inr hlost
  refine .inl fun {query'} hq' hstarted hoffers haccepts => ?_
  cases Option.some.inj (hafter.symm.trans hq')
  rw [hfound.started, hkept.started] at hstarted
  rw [hreleases.directory, hretains.directory] at hoffers
  rw [Query.accepts, hfound.matcher, hkept.matcher] at haccepts
  have hepoch : query.epoch ≤ after.epoch := hfound.epoch ▸ hkept.epoch
  rcases hshows hq hstarted hoffers haccepts with hcontains | ⟨sought, hmem, hseeks⟩
  · -- the entry that was there stays, for it is not evicted
    obtain ⟨e, he⟩ := Option.isSome_iff_exists.mp hcontains
    rw [hfound.results]
    rcases hkept.found he with hstill | hevicts
    · exact .inl hstill
    · cases hgone : middle.results.contains o.name with
      | true => exact .inl rfl
      | false =>
        -- the entry has been evicted in this step
        obtain ⟨notice, rest, rfl, hnotice⟩ := Task.exists_of_evicts hevicts
        refine absurd ⟨⟨query, e, notice, rest, calls, hq, he, hnotice, hcalls⟩, ?_⟩ hlost
        exact ⟨after, hafter, by rw [hfound.results, hgone]⟩
  · rw [hcalls] at hmem
    -- the room is sought by this task, or by a call that is still to come
    rcases List.mem_cons.mp hmem with heq | hmem
    · cases heq
      obtain ⟨other, hother, hreached⟩ :=
        World.reaches_advance hseeks haccounts hq (haccounts.alive hq hsubscribed) hactive
          haccepts hoffers
      cases Option.some.inj (hother.symm.trans hmiddle)
      rw [hfound.results, hfound.epoch]
      refine hreached.imp_right ?_
      rintro ⟨next, hnext, hseeks'⟩
      exact ⟨next, h.task_mem_calls hnext, hseeks'⟩
    · exact .inr ⟨sought, h.mem_calls hmem, hseeks.mono hepoch⟩

/-- **A step keeps an offer shown**, unless it evicts the entry. -/
theorem Orderly.shows_next (hs : s.Orderly) (hattends : s.world.Attends q) (hshows : s.Shows q o)
    (hnext : Next Unrestricted s t) :
    t.Shows q o ∨ t = s.step ∧ Loses q o.name s t := by
  cases hnext with
  | ask a hrest =>
    refine .inl fun {query} hq hstarted hoffers haccepts => .inl ?_
    -- at rest no call is going to find anything
    refine (hshows hq hstarted hoffers haccepts).resolve_right ?_
    rintro ⟨task, htask, -⟩
    rw [hrest] at htask
    cases htask
  | step hcalls hpermitted =>
    obtain ⟨m, first, later, hgoes⟩ := goes_step hcalls
    have hquiet := hgoes.shows_of_heralds hs.sound hattends hcalls (o := o)
    cases hgoes.does with
    | task task =>
      exact (hgoes.shows_of_task hs hattends hcalls rfl hshows).imp_right fun hlost => ⟨rfl, hlost⟩
    | action hacts =>
      have hheralds := World.heralds_acts hacts hs.sound.accounts hattends hs.sound.named
      exact .inl (hquiet rfl hheralds hshows)
    | idle hc ha =>
      have hheralds : s.world.Heralds q (.still s.world) :=
        World.SameCourse.heralds (.refl q s.world)
      exact .inl (hquiet hc hheralds hshows)
    | read =>
      have hheralds : s.world.Heralds q ⟨s.world, [], some .read, []⟩ :=
        World.SameCourse.heralds (.refl q s.world)
      exact .inl (hquiet rfl hheralds hshows)

/-- **A query that hears of a removal** loses just what is evicted. -/
theorem Orderly.find?_of_isRemoval (hs : s.Orderly) (hattends : s.world.Attends q) {notice : Notice}
    {rest : List Watcher}
    (hcalls : s.calls = .task (.deliver notice (.query q :: rest)) :: calls)
    (hremoval : notice.isRemoval = true) (hq : s.world.query? q = some query) :
    ∃ query', s.step.world.query? q = some query' ∧
      ∀ address, query'.results.find? address =
        (query.results.find? address).filter fun e => !notice.evicts e := by
  obtain ⟨other, hother, hsubscribed, hactive⟩ := hattends
  cases Option.some.inj (hother.symm.trans hq)
  obtain ⟨m, first, later, hgoes⟩ := goes_step hcalls
  obtain ⟨middle, hmiddle, hfind⟩ := World.find?_follow_of_isRemoval hremoval hq
    (hs.sound.accounts.alive hq hsubscribed) hactive (hs.tidy hq)
  cases hgoes.does with
  | task =>
    obtain ⟨after, hafter, hfound⟩ := (hgoes.releases hs.sound).findings.exists hmiddle
    refine ⟨after, hafter, fun address => ?_⟩
    rw [hfound.results]
    exact hfind address
  | idle hc => cases hc

/-! ### Histories -/

/-- **An offer is shown or orphaned** at every moment. -/
theorem Orderly.shows_or_orphaned (hu : u.Orderly) (hattends : u.world.Attends q)
    (hshows : u.Shows q o) (hhistory : Throughout Unrestricted (·.Attends q) u s) :
    s.Shows q o ∨ Orphaned q o u s := by
  induction hhistory with
  | refl => exact .inl hshows
  | @tail v t hhistory hnext ih =>
    by_cases hoffers : t.world.directory.Offers o
    · rcases ih with hshows | ⟨w, hbefore, hloses, hattends', hoffers', hsince⟩
      · have hv := hu.leads (Throughout.leads (P := (·.Attends q)) hhistory)
        have hattends' := Throughout.last (P := (·.Attends q)) hhistory hattends
        refine (hv.shows_next hattends' hshows hnext.1).imp_right ?_
        rintro ⟨rfl, hloses⟩
        exact ⟨v, hhistory, hloses, hnext.2, hoffers, .refl⟩
      · exact .inr ⟨w, hbefore, hloses, hattends', hoffers',
          hsince.tail ⟨hnext.1, hnext.2, hoffers⟩⟩
    · -- what is not offered need not be found
      exact .inl fun _ _ hstands _ => absurd hstands hoffers

/-- **Offers survive the removal of others**, but for those whose entries the removal is about.  At
the beginning the query has found what a provider offers, or has not begun to search; from then on,
whatever is announced and whoever else acts meanwhile, a room that the provider lists and that
matches has been found, or a call in progress is going to find it, or its entry has been evicted
since it was listed.  And what a removal evicts are the entry at the address of the room that is
gone, or the entries that name the provider that is gone; all others stay as they are. -/
theorem offers_survive (hu : Reachable Unrestricted u) (hattends : u.world.Attends q)
    (hhistory : Throughout Unrestricted (·.Attends q) u s) :
    (∀ o, u.Shows q o → s.Shows q o ∨ Orphaned q o u s) ∧
      ∀ {query notice rest calls}, s.world.query? q = some query →
        s.calls = .task (.deliver notice (.query q :: rest)) :: calls → notice.isRemoval = true →
        ∃ query', s.step.world.query? q = some query' ∧
          ∀ address, query'.results.find? address =
            (query.results.find? address).filter fun e => !notice.evicts e := by
  have horderly := orderly_of_reachable hu
  refine ⟨fun o hshows => horderly.shows_or_orphaned hattends hshows hhistory, ?_⟩
  intro query notice rest calls hq hcalls hremoval
  have hs := horderly.leads (Throughout.leads hhistory)
  exact hs.find?_of_isRemoval (Throughout.last hhistory hattends) hcalls hremoval hq

/-! ### A room of two providers -/

/-- The query has searched, and then another provider has come that lists one of the rooms too. -/
def shared : Session := (searched.ask (.addProvider ⟨"r"⟩ [⟨"a", "a", true⟩])).steps 9

/-- The first provider has taken the room out. -/
def unshared : Session := (shared.ask (.removeRoom ⟨"p"⟩ "a")).steps 7

/-- The provider that was merged last is gone. -/
def departed : Session := (shared.ask (.removeProvider ⟨"r"⟩)).steps 7

theorem reachable_shared : Reachable Passively shared :=
  reachable_searched.leads (leads_ask _ 9 rfl (by decide +kernel))

/-- **A room that another provider lists is missing** after the first one has taken it out, and after
the provider is gone that was merged last. -/
theorem shared_room_lost : Reachable Passively shared ∧ shared.calls = [] ∧
    (∃ query, shared.world.query? ⟨0⟩ = some query ∧ query.isAttached = true ∧
      query.status = .completed ∧ query.results.contains "a" = true) ∧
    shared.world.directory.Has ⟨"p"⟩ "a" ∧ shared.world.directory.Has ⟨"r"⟩ "a" ∧
    (Leads Passively shared unshared ∧ unshared.calls = [] ∧
      ∃ query, unshared.world.query? ⟨0⟩ = some query ∧ query.isAttached = true ∧
        query.status = .completed ∧ unshared.world.directory.Offers ⟨⟨"r"⟩, "a", "a"⟩ ∧
        query.accepts "a" "a" = true ∧ query.results.contains "a" = false) ∧
    Leads Passively shared departed ∧ departed.calls = [] ∧
      ∃ query, departed.world.query? ⟨0⟩ = some query ∧ query.isAttached = true ∧
        query.status = .completed ∧ departed.world.directory.Offers ⟨⟨"p"⟩, "a", "a"⟩ ∧
        query.accepts "a" "a" = true ∧ query.results.contains "a" = false := by
  have hunshared : Leads Passively shared unshared := leads_ask _ 7 rfl (by decide +kernel)
  have hdeparted : Leads Passively shared departed := leads_ask _ 7 rfl (by decide +kernel)
  refine ⟨reachable_shared, rfl, ⟨_, rfl, rfl, rfl, rfl⟩, by decide +kernel, by decide +kernel,
    ⟨hunshared, rfl, _, rfl, rfl, rfl, by decide +kernel, rfl, rfl⟩,
    hdeparted, rfl, _, rfl, rfl, rfl, by decide +kernel, rfl, rfl⟩

theorem throughout_unshared :
    Throughout Unrestricted (·.Attends ⟨0⟩) listened unshared := by
  have hasked : ∀ {s : Session} (a : Action) (n : Nat), s.calls = [] → s.world.Attends ⟨0⟩ →
      (∀ k < n, ((s.ask a).steps (k + 1)).world.Attends ⟨0⟩) →
      Throughout Unrestricted (·.Attends ⟨0⟩) s ((s.ask a).steps n) := fun a n hrest hattends h =>
    throughout_ask a n hrest hattends fun k hk => ⟨fun _ _ => trivial, h k hk⟩
  have hsearched : Throughout Unrestricted (·.Attends ⟨0⟩) listened searched :=
    hasked _ 12 rfl (by decide +kernel) (by decide +kernel)
  have hshared : Throughout Unrestricted (·.Attends ⟨0⟩) searched shared :=
    hasked _ 9 rfl (by decide +kernel) (by decide +kernel)
  exact (hsearched.trans hshared).trans (hasked _ 7 rfl (by decide +kernel) (by decide +kernel))

/-- The offer of the provider that lists the room still is orphaned. -/
theorem offers_survive_unshared : Reachable Unrestricted listened ∧
    listened.world.Attends ⟨0⟩ ∧ listened.Shows ⟨0⟩ ⟨⟨"r"⟩, "a", "a"⟩ ∧
    Throughout Unrestricted (·.Attends ⟨0⟩) listened unshared ∧
    Orphaned ⟨0⟩ ⟨⟨"r"⟩, "a", "a"⟩ listened unshared := by
  have hattends : listened.world.Attends ⟨0⟩ := by decide +kernel
  have hshows : listened.Shows ⟨0⟩ ⟨⟨"r"⟩, "a", "a"⟩ := by
    -- the query has not begun to search
    rintro query ⟨⟩ ⟨⟩
  obtain ⟨hsurvive, -⟩ := offers_survive reachable_listened.unrestricted hattends
    throughout_unshared
  refine ⟨reachable_listened.unrestricted, hattends, hshows, throughout_unshared, ?_⟩
  refine (hsurvive ⟨⟨"r"⟩, "a", "a"⟩ hshows).resolve_left fun hshown => ?_
  rcases hshown rfl rfl (by decide +kernel) rfl with hcontains | ⟨t, ht, -⟩
  · cases hcontains
  · cases ht

end RoomSearch.Session
