import RoomSearch.Proofs.Convergence.Bystanding
import RoomSearch.Proofs.Convergence.Standing

/-!
# A query keeps up with the world

A move keeps a query up with the directory if the query is in good standing once the tasks of the
move are counted among its errands.  Tasks do, the query's own as well as those it only stands by,
and so does whatever is asked for from outside, except for one thing: when the directory has just
changed, the query keeps up with what the directory was, until it has heard of the change.  In which
respect the query keeps up makes no difference, if only its standing is upheld.

## Main definitions

* `World.Attends` — a query has a subscriber and has not been canceled.
* `World.KeepsUp`, `Move.KeepsUp` — a query keeps up with the directory, in a world and after a
  move.
* `Directory.admits` — an action changes the directory truthfully, if at all.
* `World.Alters` — a move changes the directory, and announces how.

## Main results

* `World.keepsUp_advance` — tasks keep a query up.
* `World.keepsUp_follow_turn` — **a query that hears of a change** keeps up with it.
* `World.keepsUp_acts` — actions keep a query up, or change the directory.
-/

namespace RoomSearch

/-- Whether an action changes the directory truthfully, if at all: rooms get new names, what is
taken out is there, and nothing is announced that has not happened. -/
def Directory.admits (d : Directory) : Action → Bool
  | .addRoom _ room => d.IsFree room.name
  | .removeRoom p name => d.Has p name
  | .setAutoJoin p name _ => d.Has p name
  | .addProvider p rooms => p ∉ d.providers ∧ (rooms.map Room.name).Nodup ∧
      ∀ room ∈ rooms, d.IsFree room.name
  | .announceRoom .. => false
  | .announceProvider .. => false
  | .presence .. => false
  | _ => true

namespace World

variable {S : Standing} {w w' : World} {q : QueryId} {p : ProviderId} {query : Query} {m : Move}
  {errands below : List Errand}

/-- A query has a subscriber and has not been canceled. -/
def Attends (w : World) (q : QueryId) : Prop :=
  ∃ query, w.query? q = some query ∧ query.subscribers ≠ [] ∧ query.status ≠ .canceled

instance (w : World) (q : QueryId) : Decidable (w.Attends q) :=
  inferInstanceAs (Decidable (∃ query ∈ w.query? q,
    query.subscribers ≠ [] ∧ query.status ≠ .canceled))

/-- Such a query is found once on the sources that all queries have in common. -/
theorem Attends.listeners {x : Source} (hattends : w.Attends q) (h : w.Accounts)
    (hx : x ∈ [Source.rooms, .providers, .registrations]) : w.listeners x q = 1 := by
  obtain ⟨query, hq, hsubscribed, hactive⟩ := hattends
  have hattached : query.isAttached = true := (h.consistent hq).attached.mpr ⟨hsubscribed, hactive⟩
  rw [h.listeners_eq_ite hq x (Accounts.isAttached_iff hx), if_pos hattached]

/-- A query with subscribers is referred to. -/
theorem Accounts.alive (h : w.Accounts) (hq : w.query? q = some query)
    (hsubscribed : query.subscribers ≠ []) : query.alive = true := by
  cases halive : query.alive with
  | true => rfl
  | false => exact absurd ((h.consistent hq).gone halive) hsubscribed

/-- The names of rooms are apart, and the query keeps up with the directory in some respect. -/
structure KeepsUp (S : Standing) (w : World) (q : QueryId) (errands : List Errand) : Prop where
  distinct : w.directory.Distinct
  stands : ∃ query, w.query? q = some query ∧ S w.directory query errands

theorem KeepsUp.of_sameCourse (hS : S.Upheld) (h : w.KeepsUp S q errands)
    (hcourse : SameCourse q w w') : w'.KeepsUp S q errands := by
  obtain ⟨query, hq, hstands⟩ := h.stands
  obtain ⟨query', hq', hsame⟩ := hcourse.query hq
  refine ⟨?_, query', hq', ?_⟩
  · rw [hcourse.directory]
    exact h.distinct
  · rw [hcourse.directory]
    exact hS.course hstands hsame

theorem KeepsUp.stands_of (h : w.KeepsUp S q errands) (hq : w.query? q = some query) :
    S w.directory query errands := by
  obtain ⟨query', hq', hstands⟩ := h.stands
  cases Option.some.inj (hq.symm.trans hq')
  exact hstands

end World

/-- The query keeps up with the directory after a move; what the tasks of the move do for it comes
before its other errands. -/
structure Move.KeepsUp (S : Standing) (m : Move) (q : QueryId) (below : List Errand) : Prop where
  world : m.world.KeepsUp S q (m.tasks.flatMap (Task.errands q) ++ below)
  calm : ∀ t ∈ m.tasks, t.IsCalm q

/-- One more task. -/
theorem Move.KeepsUp.andThen {S : Standing} {m : Move} {q : QueryId} {below : List Errand}
    {t : Task} (h : m.KeepsUp S q (t.errands q ++ below)) (hcalm : t.IsCalm q) :
    (m.andThen [t]).KeepsUp S q below := by
  refine ⟨?_, ?_⟩
  · rw [Move.andThen, List.flatMap_append, List.flatMap_singleton, List.append_assoc]
    exact h.world
  · intro u hu
    rcases List.mem_append.mp hu with hu | hu
    · exact h.calm u hu
    · rwa [List.mem_singleton.mp hu]

namespace World

variable {S : Standing} {w w' : World} {q : QueryId} {p : ProviderId} {query : Query} {m : Move}
  {errands below : List Errand} {d : Directory}

/-- A move that the query stands by. -/
theorem Bystands.keepsUp (hS : S.Upheld) (h : w.Bystands q errands m)
    (hw : w.KeepsUp S q (errands ++ below)) : m.KeepsUp S q below := by
  refine ⟨?_, h.calm⟩
  rw [h.errands]
  exact hw.of_sameCourse hS h.course

/-- A single task remains to be done. -/
theorem keepsUp_task {callback : Option Callback} {notes : List Note} {t : Task}
    (hcalm : t.IsCalm q) (h : w.KeepsUp S q (t.errands q ++ below)) :
    Move.KeepsUp S ⟨w, [t], callback, notes⟩ q below := by
  refine ⟨?_, ?_⟩
  · show w.KeepsUp S q ([t].flatMap (Task.errands q) ++ below)
    rwa [List.flatMap_singleton]
  · intro u hu
    rwa [List.mem_singleton.mp hu]

theorem keepsUp_still (hS : S.Upheld) (h : w.KeepsUp S q below) :
    (Move.still w).KeepsUp S q below :=
  (bystands_still (.refl q w)).keepsUp hS h

/-- The query becomes another one, and news of that go out. -/
theorem keepsUp_commit (hS : S.Upheld) (hd : w.directory.Distinct) (hq : w.query? q = some query)
    {f : Query → Query} (h : S w.directory (f query) below) (news : List News) :
    ((w.modifyQuery q f).commit q news).KeepsUp S q below :=
  (bystands_commit (.refl q _) q news).keepsUp hS ⟨hd, f query, query?_modifyQuery_self f hq, h⟩

/-! ### The query's own tasks -/

theorem isCanceled_eq_false (hactive : query.status ≠ .canceled) : query.isCanceled = false := by
  rw [Query.isCanceled, beq_eq_false_iff_ne]
  exact hactive

/-- **A query reads** the rooms of a provider. -/
theorem keepsUp_advanceScan (hS : S.Upheld) (h : w.KeepsUp S q (.scan p :: below))
    (hq : w.query? q = some query) (hactive : query.status ≠ .canceled) :
    (w.advanceScan q p).KeepsUp S q below := by
  rw [advanceScan, hq]
  dsimp only
  rw [isCanceled_eq_false hactive, if_neg Bool.false_ne_true]
  refine keepsUp_task trivial ⟨h.distinct, query, hq, ?_⟩
  rw [Task.errands, if_pos rfl]
  exact hS.scan (h.stands_of hq)

/-- **A query merges** what it has read, or reads it again. -/
theorem keepsUp_advanceMerge {epoch : Nat} {rooms : List Room} (hS : S.Upheld)
    (h : w.KeepsUp S q (.merge p epoch rooms :: below)) (hq : w.query? q = some query)
    (hactive : query.status ≠ .canceled) :
    (w.advanceMerge q p epoch rooms).KeepsUp S q below := by
  have hstands := h.stands_of hq
  rw [advanceMerge, hq]
  dsimp only
  rw [isCanceled_eq_false hactive, if_neg Bool.false_ne_true]
  split
  · refine keepsUp_task trivial ⟨h.distinct, query, hq, ?_⟩
    rw [Task.errands, if_pos rfl]
    exact hS.rescan hstands
  · next hepoch =>
    have heq : query.epoch = epoch := not_not.mp hepoch
    subst heq
    exact keepsUp_commit hS h.distinct hq (hS.merge hstands h.distinct) _

/-- **A query hears of a new provider**, which it is going to search. -/
theorem keepsUp_hear (hS : S.Upheld) (h : w.KeepsUp S q (.hear p :: below))
    (hq : w.query? q = some query) (halive : query.alive = true) :
    (w.follow q (.providers ⟨p, .added⟩)).KeepsUp S q below := by
  rw [follow, hq]
  dsimp only
  rw [halive, Bool.not_true, if_neg Bool.false_ne_true]
  refine keepsUp_task trivial
    ⟨h.distinct, query.advanceEpoch, query?_modifyQuery_self _ hq, ?_⟩
  rw [Task.errands, if_pos rfl]
  exact hS.hear (h.stands_of hq)

/-- **Tasks keep a query up**, whosoever they are. -/
theorem keepsUp_advance {t : Task} (hS : S.Upheld) (haccounts : w.Accounts)
    (hattends : w.Attends q) (hcalm : t.IsCalm q) (h : w.KeepsUp S q (t.errands q ++ below)) :
    (w.advance t).KeepsUp S q below := by
  obtain ⟨query, hq, hsubscribed, hactive⟩ := hattends
  by_cases hown : t.IsOwn q
  · cases hown with
    | scan =>
      rw [Task.errands, if_pos rfl] at h
      exact keepsUp_advanceScan hS h hq hactive
    | merge =>
      rw [Task.errands, if_pos rfl] at h
      exact keepsUp_advanceMerge hS h hq hactive
    | hear provider rest =>
      rw [Task.errands, List.count_cons_self, List.replicate_succ, List.cons_append] at h
      exact (keepsUp_hear hS h hq (haccounts.alive hq hsubscribed)).andThen
        (t := .deliver _ rest) hcalm.deliver_cons
  · exact ((advances_advance w t).bystands haccounts hq hactive hcalm hown).keepsUp hS h

/-! ### Hearing of a change -/

/-- **A query that hears of a change** keeps up with the directory after it, if it has kept up with
the directory before it. -/
theorem keepsUp_follow_turn {notice : Notice} (hS : S.Upheld) (hd : d.Distinct)
    (hd' : w.directory.Distinct) (hturns : d.Turns w.directory notice)
    (hq : w.query? q = some query) (halive : query.alive = true)
    (hactive : query.status ≠ .canceled) (hsorted : query.results.Sorted)
    (h : S d query below) : (w.follow q notice).KeepsUp S q below := by
  have hcanceled := isCanceled_eq_false hactive
  -- the results change in the epoch that has just begun
  have hchange : ∀ outcome : List News × ResultSet,
      S w.directory { query.advanceEpoch with results := outcome.2 } below →
      ((w.modifyQuery q Query.advanceEpoch).change q outcome).KeepsUp S q below := fun outcome =>
    fun hstands => keepsUp_commit (w := w.modifyQuery q Query.advanceEpoch) hS hd'
      (query?_modifyQuery_self _ hq) (f := fun query => { query with results := outcome.2 })
      hstands outcome.1
  rw [follow, hq]
  dsimp only
  rw [halive, Bool.not_true, if_neg Bool.false_ne_true]
  cases hturns with
  | @added p room hfree hturn =>
    show (w.followRooms q query _).KeepsUp S q below
    unfold followRooms
    dsimp only
    cases haccepts : query.accepts room.name room.identifier with
    | false =>
      -- the room does not match, so the query passes over it
      rw [if_pos ⟨rfl, rfl⟩]
      exact keepsUp_still hS ⟨hd', query, hq, hS.passed h hturn haccepts⟩
    | true =>
      rw [if_neg fun hpassed => Bool.false_ne_true hpassed.2, hcanceled, if_neg Bool.false_ne_true]
      exact hchange _ (hS.added h hd' hturn haccepts)
  | removed hroom hturn =>
    show (w.followRooms q query _).KeepsUp S q below
    unfold followRooms
    dsimp only
    rw [if_neg fun hadded => RoomChange.noConfusion hadded.1, hcanceled,
      if_neg Bool.false_ne_true]
    exact hchange _ (hS.removed h hturn)
  | changed hroom hturn =>
    show (w.followRooms q query _).KeepsUp S q below
    unfold followRooms
    dsimp only
    rw [if_neg fun hadded => RoomChange.noConfusion hadded.1, hcanceled,
      if_neg Bool.false_ne_true]
    exact hchange _ (hS.changed h hd hroom hturn)
  | gone hturn =>
    show (w.followProviders q query _).KeepsUp S q below
    unfold followProviders
    dsimp only
    rw [hcanceled, if_neg Bool.false_ne_true]
    exact hchange _ (hS.gone h hsorted hturn)

/-! ### Actions -/

/-- The move changes the directory, and announces how to all who follow it. -/
inductive Alters (w : World) : Move → Prop where
  | turn {d : Directory} {notice : Notice} {x : Source} (hd : d.Distinct)
      (hturns : w.directory.Turns d notice)
      (hx : x ∈ [Source.rooms, .providers, .registrations]) :
      Alters w (World.announce { w with directory := d } x notice)

/-- **The first search begins**, unless it has begun before. -/
theorem keepsUp_run (hS : S.Upheld) (h : w.KeepsUp S q below) (hq : w.query? q = some query)
    (hactive : query.status ≠ .canceled) : (w.run q).1.KeepsUp S q below := by
  rw [run, hq]
  dsimp only
  split
  · exact keepsUp_still hS h
  · rw [isCanceled_eq_false hactive, if_neg Bool.false_ne_true]
    refine keepsUp_task trivial
      ⟨h.distinct, { query with started := true }, query?_modifyQuery_self _ hq, ?_⟩
    rw [Task.errands, if_pos rfl]
    exact hS.start (h.stands_of hq)

/-- **A provider is new**: the query is going to hear of it. -/
theorem keepsUp_addProvider {rooms : List Room} (hS : S.Upheld) (haccounts : w.Accounts)
    (hattends : w.Attends q) (h : w.KeepsUp S q below) (hp : p ∉ w.directory.providers)
    (hwithin : (rooms.map Room.name).Nodup)
    (hfree : ∀ room ∈ rooms, w.directory.IsFree room.name) :
    (w.addProvider p rooms).KeepsUp S q below := by
  obtain ⟨query, hq, hstands⟩ := h.stands
  have hcount : (w.audience .providers).count (.query q) = 1 :=
    hattends.listeners haccounts (by simp)
  refine keepsUp_task ?_ ⟨h.distinct.addProvider hwithin hfree, query, hq, ?_⟩
  · intro hurgent
    cases hurgent
  · show S _ _ (List.replicate ((w.audience .providers).count (.query q)) (.hear p) ++ below)
    rw [hcount]
    exact hS.enter hstands (Directory.mem_rooms_addProvider hp)

/-- **Actions keep a query up**, unless they change the directory. -/
theorem keepsUp_acts {named : String → Option QueryId} {a : Action} (hS : S.Upheld)
    (haccounts : w.Accounts) (hattends : w.Attends q) (h : w.KeepsUp S q below)
    (hacts : Acts w named a m)
    (hnamed : ∀ {name p}, named name = some p →
      ∃ query, w.query? p = some query ∧ query.alive = true)
    (hadmits : w.directory.admits a = true) : m.KeepsUp S q below ∨ w.Alters m := by
  obtain ⟨query, hq, hsubscribed, hactive⟩ := hattends
  rcases hacts.bystands haccounts hq hnamed with hm | rfl | hspreads
  · exact .inl (hm.keepsUp hS h)
  · exact .inl (keepsUp_run hS h hq hactive)
  · cases hspreads with
    -- an announcement that the directory bears out is a turn of it
    | addRoom p room =>
      have hfree : w.directory.IsFree room.name := of_decide_eq_true hadmits
      exact .inr (.turn (h.distinct.addRoom hfree) (Directory.turns_addRoom hfree) (by simp))
    | removeRoom p name =>
      obtain ⟨room, hroom, rfl⟩ := of_decide_eq_true hadmits
      rw [removeRoom, h.distinct.findRoom?_eq hroom]
      exact .inr (.turn (h.distinct.removeRoom p room.name)
        (Directory.turns_removeRoom h.distinct hroom) (by simp))
    | setAutoJoin p name autoJoin =>
      obtain ⟨room, hroom, rfl⟩ := of_decide_eq_true hadmits
      rw [setAutoJoin, h.distinct.findRoom?_eq hroom]
      exact .inr (.turn (h.distinct.setAutoJoin p room.name autoJoin)
        (Directory.turns_setAutoJoin h.distinct hroom) (by simp))
    -- the rooms of a new provider are still to be read
    | addProvider p rooms =>
      obtain ⟨hp, hwithin, hfree⟩ := of_decide_eq_true hadmits
      exact .inl
        (keepsUp_addProvider hS haccounts ⟨query, hq, hsubscribed, hactive⟩ h hp hwithin hfree)
    | removeProvider p =>
      exact .inr
        (.turn (h.distinct.removeProvider p) (Directory.turns_removeProvider _ p) (by simp))
    | announceRoom | announceProvider | presence => cases hadmits

end World

end RoomSearch
