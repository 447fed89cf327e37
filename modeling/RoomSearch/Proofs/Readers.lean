import Mathlib.Data.List.Induction
import Mathlib.Data.List.Nodup
import RoomSearch.Bus

/-!
# What the readers of a bus receive

Whatever happens on a bus, each reader passes the values that are published after its subscription
one after the other: a value that it passes is either returned or counted as skipped.  It skips just
what has left the window when it reads.

How a reader fares depends on what is published and on when it reads itself, and on nothing else
that happens on the bus; so readers do not show in what others receive.

## Main definitions

* `Bus.Operation`, `Bus.run` — what may happen on a bus.
* `Bus.published`, `Bus.returned`, `Bus.unread` — what has been published, what a reader has
  received, and what is kept for it.
* `Occasion`, `Bus.ownPart` — what matters to a single reader.
* `Reading`, `Reading.meet` — how a reader fares, without a bus.
* `Bus.Serves` — the reader of a bus fares like that.
* `Bus.poll` — the bus answers a reader, or tells it how much it has lost.
* `Bus.course` — how a reader fares from its subscription on.

## Main results

* `Bus.Serves.act`, `Bus.Serves.run` — one operation, and any number of them.
* `Bus.Sound.read_eq_poll` — a read that learns of a loss counts it and reads again.
* `Bus.serves_course` — a reader that has subscribed fares as its own part of the operations says.
* `Bus.reader_accounts` — **every published value is returned, skipped or kept.**
-/

namespace RoomSearch

variable {α : Type}

/-! ### What may happen on a bus -/

/-- What may happen on a bus. -/
inductive Bus.Operation (α : Type) where
  /-- A value is published. -/
  | publish (x : α)
  /-- A new reader subscribes. -/
  | subscribe
  /-- A reader reads. -/
  | read (id : ReaderId)
  /-- A reader ends. -/
  | leave (id : ReaderId)

/-- What matters to a single reader. -/
inductive Occasion (α : Type) where
  /-- A value is published. -/
  | published (x : α)
  /-- The reader reads. -/
  | read

namespace Bus

/-- The value that is published, if one is. -/
def Operation.published? : Operation α → Option α
  | publish x => some x
  | _ => none

/-- What an operation is to a reader. -/
def Operation.occasion? (id : ReaderId) : Operation α → Option (Occasion α)
  | publish x => some (.published x)
  | read other => if other = id then some .read else none
  | _ => none

/-- The values that are published. -/
def published (ops : List (Operation α)) : List α := ops.filterMap Operation.published?

/-- What matters to a reader of what happens on a bus. -/
def ownPart (id : ReaderId) (ops : List (Operation α)) : List (Occasion α) :=
  ops.filterMap (Operation.occasion? id)

/-- The bus after an operation. -/
def act (b : Bus α) : Operation α → Bus α
  | .publish x => b.publish x
  | .subscribe => b.subscribe.1
  | .read id => (b.read id).2
  | .leave id => b.leave id

/-- The bus after operations. -/
def run (b : Bus α) (ops : List (Operation α)) : Bus α := ops.foldl act b

/-- What a reader receives from an operation. -/
def answer? (b : Bus α) (id : ReaderId) : Operation α → Option α
  | .read other => if other = id then (b.read id).1 else none
  | _ => none

/-- What a reader receives from operations. -/
def returned (b : Bus α) (id : ReaderId) : List (Operation α) → List α
  | [] => []
  | op :: ops => (b.answer? id op).toList ++ (b.act op).returned id ops

/-- The values that are kept and that a reader has not passed. -/
def unread (b : Bus α) (id : ReaderId) : List α :=
  (b.reader? id).elim [] fun r => b.kept.drop (r.next - b.oldest)

@[simp] theorem run_nil (b : Bus α) : b.run [] = b := rfl

@[simp] theorem run_cons (b : Bus α) (op : Operation α) (ops : List (Operation α)) :
    b.run (op :: ops) = (b.act op).run ops := rfl

end Bus

/-! ### How a reader fares -/

/-- How a reader has fared since its subscription. -/
structure Reading (α : Type) where
  /-- What has been published. -/
  published : List α
  /-- How many of these values the reader has passed. -/
  position : Nat
  /-- What it has received. -/
  returned : List α
  /-- How many values it has skipped. -/
  skipped : Nat

namespace Reading

/-- A reader that has just subscribed. -/
def fresh : Reading α := ⟨[], 0, [], 0⟩

/-- How many values a reader has passed once it has skipped what the window has lost. -/
def reached (window : Nat) (s : Reading α) : Nat := max s.position (s.published.length - window)

/-- The value that the next read returns. -/
def next? (window : Nat) (s : Reading α) : Option α := s.published[s.reached window]?

/-- A reading goes on. -/
def meet (window : Nat) (s : Reading α) : Occasion α → Reading α
  | .published x => { s with published := s.published ++ [x] }
  | .read =>
    { s with
      position := s.reached window + (s.next? window).toList.length
      returned := s.returned ++ (s.next? window).toList
      skipped := s.skipped + (s.reached window - s.position) }

/-- A reading goes on for a while. -/
def meetAll (window : Nat) (s : Reading α) (occasions : List (Occasion α)) : Reading α :=
  occasions.foldl (meet window) s

/-- A reader has passed no more than was published; it has received a part of what it has passed, in
this order, and skipped the rest. -/
structure Sound (s : Reading α) : Prop where
  position_le : s.position ≤ s.published.length
  passed : s.returned.length + s.skipped = s.position
  sublist : s.returned.Sublist (s.published.take s.position)

/-- A reader has received everything that it has passed. -/
structure Gapless (s : Reading α) : Prop where
  skipped : s.skipped = 0
  returned : s.returned = s.published.take s.position

theorem sound_fresh : (fresh : Reading α).Sound := ⟨Nat.le_refl _, rfl, List.Sublist.refl _⟩

theorem gapless_fresh : (fresh : Reading α).Gapless := ⟨rfl, rfl⟩

/-- What has been received up to a position, and what is there, has been received up to the next. -/
theorem take_append_toList (xs : List α) (n : Nat) :
    xs.take n ++ xs[n]?.toList = xs.take (n + xs[n]?.toList.length) := by
  cases h : xs[n]? with
  | none => simp
  | some x => simp [List.take_add_one, h]

variable {window : Nat} {s : Reading α}

theorem Sound.reached_le (h : s.Sound) : s.reached window ≤ s.published.length :=
  Nat.max_le.mpr ⟨h.position_le, Nat.sub_le ..⟩

/-- **An occasion keeps a reading sound.** -/
theorem Sound.meet (h : s.Sound) (o : Occasion α) : (s.meet window o).Sound := by
  cases o with
  | published x =>
    refine ⟨?_, h.passed, ?_⟩
    · have := h.position_le
      show s.position ≤ (s.published ++ [x]).length
      simp only [List.length_append]
      omega
    · show s.returned.Sublist ((s.published ++ [x]).take s.position)
      rw [List.take_append_of_le_length h.position_le]
      exact h.sublist
  | read =>
    have hpassed := h.passed
    have hreached : s.position ≤ s.reached window := Nat.le_max_left ..
    refine ⟨?_, ?_, ?_⟩
    · show s.reached window + (s.next? window).toList.length ≤ s.published.length
      cases hnext : s.next? window with
      | none => exact h.reached_le
      | some x => exact (List.getElem?_eq_some_iff.mp hnext).1
    · show (s.returned ++ (s.next? window).toList).length + (s.skipped + _) = _
      simp only [List.length_append, Reading.meet]
      omega
    · show (s.returned ++ _).Sublist (s.published.take (s.reached window + _))
      rw [next?, ← take_append_toList]
      exact (h.sublist.trans (List.take_prefix_take_left hreached).sublist).append_right _

theorem Sound.meetAll (h : s.Sound) (occasions : List (Occasion α)) :
    (s.meetAll window occasions).Sound := by
  induction occasions generalizing s with
  | nil => exact h
  | cons o rest ih => exact ih (h.meet o)

/-- A read skips what the window has lost. -/
theorem reached_meet_read (window : Nat) (s : Reading α) :
    (s.meet window .read).reached window = (s.meet window .read).position := by
  refine Nat.max_eq_left ?_
  have : s.published.length - window ≤ s.reached window := Nat.le_max_right ..
  show s.published.length - window ≤ s.reached window + _
  omega

/-- A reader that finds nothing has passed everything. -/
theorem length_le_position_meet_read (h : s.next? window = none) :
    s.published.length ≤ (s.meet window .read).position := by
  have : s.published.length ≤ s.reached window := List.getElem?_eq_none_iff.mp h
  show s.published.length ≤ s.reached window + _
  omega

/-- A reader that has not fallen behind by more than the window skips nothing. -/
theorem Gapless.meet (h : s.Gapless) (hs : s.Sound) (o : Occasion α)
    (hbehind : o = .read → s.published.length ≤ s.position + window) :
    (s.meet window o).Gapless := by
  cases o with
  | published x =>
    refine ⟨h.skipped, ?_⟩
    show s.returned = (s.published ++ [x]).take s.position
    rw [List.take_append_of_le_length hs.position_le, h.returned]
  | read =>
    have hreached : s.reached window = s.position := by
      have := hbehind rfl
      unfold reached
      omega
    refine ⟨?_, ?_⟩
    · show s.skipped + (s.reached window - s.position) = 0
      rw [hreached, h.skipped, Nat.sub_self]
    · show s.returned ++ (s.next? window).toList = s.published.take (s.reached window + _)
      rw [next?, ← take_append_toList, hreached, ← h.returned]

end Reading

/-! ### The values that are kept -/

namespace Bus

variable {b : Bus α} {id : ReaderId} {log older : List α} {s : Reading α}

/-- The bus keeps the last of the values that have been sent, as many as its window holds. -/
structure Keeps (b : Bus α) (log : List α) : Prop where
  sent : b.sent = log.length
  kept : b.kept = log.drop (log.length - b.window)

theorem Keeps.oldest (h : b.Keeps log) : b.oldest = log.length - b.window := by
  rw [Bus.oldest, h.sent, h.kept, List.length_drop]
  omega

theorem Keeps.publish (h : b.Keeps log) (hreaders : b.readers ≠ []) (x : α) :
    (b.publish x).Keeps (log ++ [x]) := by
  have hempty : b.readers.isEmpty = false := List.isEmpty_eq_false_iff.mpr hreaders
  -- one value more than is kept, the newest last
  have hall : b.kept ++ [x] = (log ++ [x]).drop (log.length - b.window) := by
    rw [h.kept, List.drop_append_of_le_length (Nat.sub_le ..)]
  refine ⟨?_, ?_⟩ <;> simp only [Bus.publish, hempty, Bool.false_eq_true, if_false]
  · rw [h.sent, List.length_append, List.length_singleton]
  · rw [hall, List.drop_drop, List.length_drop, List.length_append, List.length_singleton]
    congr 1
    omega

theorem Keeps.of_eq {b' : Bus α} (h : b.Keeps log) (hsent : b'.sent = b.sent)
    (hkept : b'.kept = b.kept) (hwindow : b'.window = b.window) : b'.Keeps log :=
  ⟨hsent.trans h.sent, by rw [hkept, hwindow, h.kept]⟩

theorem publish_of_isEmpty (h : b.readers = []) (x : α) : b.publish x = b := by
  simp [Bus.publish, h]

theorem readers_publish (b : Bus α) (x : α) : (b.publish x).readers = b.readers := by
  unfold Bus.publish
  split <;> rfl

theorem window_publish (b : Bus α) (x : α) : (b.publish x).window = b.window := by
  unfold Bus.publish
  split <;> rfl

/-! ### Looking a reader up -/

theorem id_of_reader? {r : Reader} (h : b.reader? id = some r) : r.id = id := by
  simpa using List.find?_some h

theorem reader?_publish (b : Bus α) (x : α) (id : ReaderId) :
    (b.publish x).reader? id = b.reader? id := congrArg (List.find? _) (readers_publish b x)

theorem reader?_subscribe (b : Bus α) (id : ReaderId) :
    b.subscribe.1.reader? id =
      (b.reader? id).or (if b.nextReader = id then some ⟨b.nextReader, b.sent, 0⟩ else none) := by
  simp only [Bus.subscribe, Bus.reader?, List.find?_append, List.find?_singleton, beq_iff_eq]

theorem reader?_leave {other : ReaderId} (h : other ≠ id) :
    (b.leave other).reader? id = b.reader? id := by
  rw [Bus.reader?, Bus.leave, List.find?_filter]
  refine congrArg (List.find? · b.readers) (funext fun r => ?_)
  by_cases hr : r.id = id
  · simp [hr, h.symm]
  · simp [hr]

theorem reader?_setReader (b : Bus α) (r : Reader) (id : ReaderId) :
    (b.setReader r).reader? id =
      if r.id = id then (b.reader? id).map fun _ => r else b.reader? id := by
  have hid : ∀ old : Reader, ((if old.id == r.id then r else old).id == id) = (old.id == id) := by
    intro old
    split
    · rename_i h
      rw [beq_iff_eq.mp h]
    · rfl
  have hmap : (b.setReader r).reader? id =
      (b.reader? id).map fun old => if old.id == r.id then r else old := by
    simp only [Bus.reader?, Bus.setReader, List.find?_map, Function.comp_def, hid]
  rw [hmap]
  cases hfind : b.reader? id with
  | none => simp
  | some old =>
    by_cases hr : r.id = id
    · simp [hr, id_of_reader? hfind]
    · simp [hr, id_of_reader? hfind, Ne.symm hr]

/-- A read changes nothing but the state of the reader. -/
theorem read_snd (b : Bus α) (id : ReaderId) :
    (b.read id).2 = b ∨ ∃ r, r.id = id ∧ (b.read id).2 = b.setReader r := by
  unfold Bus.read
  split
  · exact .inl rfl
  · rename_i r hr
    have hid : r.id = id := id_of_reader? hr
    dsimp only
    split
    · exact .inr ⟨b.caughtUp r, hid, rfl⟩
    · exact .inr ⟨{ b.caughtUp r with next := (b.caughtUp r).next + 1 }, hid, rfl⟩

@[simp] theorem window_act (b : Bus α) (op : Operation α) : (b.act op).window = b.window := by
  cases op with
  | publish x => exact window_publish b x
  | subscribe => rfl
  | leave id => rfl
  | read id => rcases read_snd b id with h | ⟨r, -, h⟩ <;> rw [act, h]; rfl

@[simp] theorem window_run (b : Bus α) (ops : List (Operation α)) :
    (b.run ops).window = b.window := by
  induction ops generalizing b with
  | nil => rfl
  | cons op ops ih => rw [run_cons, ih, window_act]

/-- The other operations send nothing. -/
theorem Keeps.act (h : b.Keeps log) {op : Operation α} (hop : op.published? = none) :
    (b.act op).Keeps log := by
  cases op with
  | publish x => cases hop
  | subscribe => exact h.of_eq rfl rfl rfl
  | leave id => exact h.of_eq rfl rfl rfl
  | read id =>
    rcases read_snd b id with heq | ⟨r, -, heq⟩ <;> rw [Bus.act, heq]
    · exact h
    · exact h.of_eq rfl rfl rfl

/-! ### The reader of a bus -/

/-- A reader fares as a reading says; `older` was sent before it subscribed. -/
structure Serves (b : Bus α) (id : ReaderId) (older : List α) (s : Reading α) : Prop where
  keeps : b.Keeps (older ++ s.published)
  reader : b.reader? id = some ⟨id, older.length + s.position, s.skipped⟩

/-- **A read** returns what the reading says, and leaves the reader where the reading says. -/
theorem Serves.read (h : b.Serves id older s) :
    b.read id = (s.next? b.window,
      b.setReader ⟨id, older.length + (s.meet b.window .read).position,
        (s.meet b.window .read).skipped⟩) := by
  have holdest : b.oldest = older.length + s.published.length - b.window := by
    rw [h.keeps.oldest, List.length_append]
  have hcaught : b.caughtUp ⟨id, older.length + s.position, s.skipped⟩ =
      ⟨id, older.length + s.reached b.window, s.skipped + (s.reached b.window - s.position)⟩ := by
    simp only [Bus.caughtUp, holdest, Reading.reached, Reader.mk.injEq, true_and]
    omega
  have hnext : b.upcoming?
      ⟨id, older.length + s.reached b.window, s.skipped + (s.reached b.window - s.position)⟩ =
      s.next? b.window := by
    have hreached : s.published.length - b.window ≤ s.reached b.window := Nat.le_max_right ..
    -- the place among the values that are kept, counted among all that were sent
    have hplace : older.length + s.published.length - b.window +
        (older.length + s.reached b.window - (older.length + s.published.length - b.window)) =
        older.length + s.reached b.window := by omega
    rw [Bus.upcoming?, holdest, h.keeps.kept, List.getElem?_drop, List.length_append, hplace,
      List.getElem?_append_right (Nat.le_add_right ..), Nat.add_sub_cancel_left, Reading.next?]
  rw [Bus.read, h.reader]
  simp only [hcaught, hnext]
  cases hvalue : s.next? b.window <;> simp [Reading.meet, hvalue, Nat.add_assoc]

theorem Serves.readers_ne_nil (h : b.Serves id older s) : b.readers ≠ [] := by
  intro hnil
  have hreader := h.reader
  rw [Bus.reader?, hnil] at hreader
  cases hreader

/-- **One operation**: the reader fares on as its own part of it says. -/
theorem Serves.act (h : b.Serves id older s) {op : Operation α} (hop : op ≠ .leave id) :
    (b.act op).Serves id older (s.meetAll b.window (op.occasion? id).toList) ∧
      (s.meetAll b.window (op.occasion? id).toList).returned =
        s.returned ++ (b.answer? id op).toList := by
  cases op with
  | publish x =>
    refine ⟨⟨?_, (reader?_publish b x id).trans h.reader⟩, (List.append_nil _).symm⟩
    show (b.publish x).Keeps (older ++ (s.published ++ [x]))
    rw [← List.append_assoc]
    exact h.keeps.publish h.readers_ne_nil x
  | subscribe =>
    refine ⟨⟨h.keeps.act rfl, ?_⟩, (List.append_nil _).symm⟩
    show b.subscribe.1.reader? id = _
    rw [reader?_subscribe, h.reader]
    rfl
  | leave other =>
    have hother : other ≠ id := fun heq => hop (heq ▸ rfl)
    exact ⟨⟨h.keeps.act rfl, (reader?_leave hother).trans h.reader⟩, (List.append_nil _).symm⟩
  | read other =>
    by_cases hother : other = id
    · subst hother
      rw [Operation.occasion?, if_pos rfl, answer?, if_pos rfl, Bus.act, h.read]
      refine ⟨⟨h.keeps.of_eq rfl rfl rfl, ?_⟩, rfl⟩
      rw [reader?_setReader, if_pos rfl, h.reader]
      rfl
    · rw [Operation.occasion?, if_neg hother, answer?, if_neg hother]
      refine ⟨⟨h.keeps.act rfl, ?_⟩, (List.append_nil _).symm⟩
      -- another reader's state is somewhere else
      rcases read_snd b other with heq | ⟨r, hr, heq⟩ <;> rw [Bus.act, heq]
      · exact h.reader
      · rw [reader?_setReader, if_neg (hr ▸ hother)]
        exact h.reader

theorem meetAll_ownPart_cons (window : Nat) (s : Reading α) (id : ReaderId) (op : Operation α)
    (ops : List (Operation α)) :
    s.meetAll window (ownPart id (op :: ops)) =
      (s.meetAll window (op.occasion? id).toList).meetAll window (ownPart id ops) := by
  rw [ownPart, List.filterMap_cons]
  cases op.occasion? id <;> rfl

/-- **Any number of operations.** -/
theorem Serves.run (h : b.Serves id older s) {ops : List (Operation α)}
    (hstays : .leave id ∉ ops) :
    (b.run ops).Serves id older (s.meetAll b.window (ownPart id ops)) ∧
      (s.meetAll b.window (ownPart id ops)).returned = s.returned ++ b.returned id ops := by
  induction ops generalizing b s with
  | nil => exact ⟨h, (List.append_nil _).symm⟩
  | cons op ops ih =>
    rw [List.mem_cons, not_or] at hstays
    obtain ⟨hact, hanswer⟩ := h.act (Ne.symm hstays.1)
    obtain ⟨hrun, hreturned⟩ := ih hact hstays.2
    rw [window_act] at hrun hreturned
    rw [meetAll_ownPart_cons]
    exact ⟨hrun, by rw [hreturned, hanswer, returned, List.append_assoc]⟩

/-! ### The beginning of a reader -/

/-- The identities of readers are not given out twice, and the bus keeps the last of some values. -/
structure Sound (b : Bus α) : Prop where
  keeps : ∃ log, b.Keeps log
  given : ∀ r ∈ b.readers, r.id.index < b.nextReader.index
  distinct : (b.readers.map Reader.id).Nodup

theorem sound_of_ofCapacity? {capacity limit : Nat} (h : ofCapacity? capacity limit = some b) :
    b.Sound := by
  unfold ofCapacity? at h
  split at h
  · cases h
  · cases h
    exact ⟨⟨[], rfl, List.drop_nil.symm⟩, fun r hr => (List.not_mem_nil hr).elim, List.nodup_nil⟩

theorem window_of_ofCapacity? {capacity limit : Nat} (h : ofCapacity? capacity limit = some b) :
    b.window = windowOf capacity := by
  unfold ofCapacity? at h
  split at h
  · cases h
  · cases h
    rfl

theorem map_id_setReader (b : Bus α) (r : Reader) :
    (b.setReader r).readers.map Reader.id = b.readers.map Reader.id := by
  rw [Bus.setReader, List.map_map]
  refine List.map_congr_left fun old _ => ?_
  simp only [Function.comp_apply]
  split
  · rename_i h
    exact (beq_iff_eq.mp h).symm
  · rfl

theorem Sound.setReader (h : b.Sound) (r : Reader) : (b.setReader r).Sound where
  keeps := h.keeps.imp fun _ hkeeps => hkeeps.of_eq rfl rfl rfl
  given := by
    intro r' hr'
    have hmem : r'.id ∈ b.readers.map Reader.id :=
      map_id_setReader b r ▸ List.mem_map_of_mem hr'
    obtain ⟨old, hold, hid⟩ := List.mem_map.mp hmem
    exact hid ▸ h.given old hold
  distinct := by
    rw [map_id_setReader]
    exact h.distinct

/-- The identity of the reader to come is new. -/
theorem Sound.nextReader_not_mem (h : b.Sound) : b.nextReader ∉ b.readers.map Reader.id := by
  intro hmem
  obtain ⟨r, hr, hid⟩ := List.mem_map.mp hmem
  have := h.given r hr
  rw [hid] at this
  exact Nat.lt_irrefl _ this

theorem Sound.act (h : b.Sound) (op : Operation α) : (b.act op).Sound := by
  cases op with
  | publish x =>
    obtain ⟨log, hkeeps⟩ := h.keeps
    by_cases hreaders : b.readers = []
    · rw [Bus.act, publish_of_isEmpty hreaders]
      exact h
    · refine ⟨⟨_, hkeeps.publish hreaders x⟩, ?_, ?_⟩ <;> rw [Bus.act, readers_publish]
      · -- publishing makes no reader
        have hnext : (b.publish x).nextReader = b.nextReader := by
          unfold Bus.publish
          split <;> rfl
        rw [hnext]
        exact h.given
      · exact h.distinct
  | subscribe =>
    refine ⟨h.keeps.imp fun _ hkeeps => hkeeps.act rfl, ?_, ?_⟩
    · intro r hr
      rcases List.mem_append.mp hr with hr | hr
      · exact Nat.lt_succ_of_lt (h.given r hr)
      · rw [List.mem_singleton.mp hr]
        exact Nat.lt_succ_self _
    · show ((b.readers ++ [_]).map Reader.id).Nodup
      rw [List.map_append, List.map_singleton]
      refine List.nodup_append.mpr ⟨h.distinct, List.pairwise_singleton .., ?_⟩
      -- the new reader has an identity that was not given out before
      rintro id hid _ hnew rfl
      have hnext : id = b.nextReader := List.mem_singleton.mp hnew
      exact h.nextReader_not_mem (hnext ▸ hid)
  | leave id =>
    exact ⟨h.keeps.imp fun _ hkeeps => hkeeps.act rfl,
      fun r hr => h.given r (List.mem_filter.mp hr).1,
      h.distinct.sublist (List.filter_sublist.map _)⟩
  | read id =>
    rcases read_snd b id with heq | ⟨r, -, heq⟩ <;> rw [Bus.act, heq]
    · exact h
    · exact h.setReader r

theorem Sound.run (h : b.Sound) (ops : List (Operation α)) : (b.run ops).Sound := by
  induction ops generalizing b with
  | nil => exact h
  | cons op ops ih => exact ih (h.act op)

/-- A new reader has everything before it. -/
theorem Sound.subscribe (h : b.Sound) :
    ∃ older, b.subscribe.1.Serves b.subscribe.2 older Reading.fresh := by
  obtain ⟨log, hkeeps⟩ := h.keeps
  refine ⟨log, ⟨?_, ?_⟩⟩
  · show b.subscribe.1.Keeps (log ++ [])
    rw [List.append_nil]
    exact hkeeps.of_eq rfl rfl rfl
  · have hnone : b.reader? b.nextReader = none := by
      refine List.find?_eq_none.mpr fun r hr hid => h.nextReader_not_mem ?_
      exact beq_iff_eq.mp hid ▸ List.mem_map_of_mem hr
    show b.subscribe.1.reader? b.nextReader = _
    rw [reader?_subscribe, hnone, if_pos rfl, hkeeps.sent]
    rfl

/-! ### A read as a loop -/

/-- What a bus answers a reader. -/
inductive Poll (α : Type) where
  /-- The next value. -/
  | value (x : α)
  /-- So many values have been lost; the reader goes on with the oldest that is kept. -/
  | lagged (count : Nat)
  /-- There is nothing to read. -/
  | nothing

/-- Asks a bus for the next value once. -/
def poll (b : Bus α) (id : ReaderId) : Poll α × Bus α :=
  match b.reader? id with
  | none => (.nothing, b)
  | some r =>
    if r.next < b.oldest then
      (.lagged (b.oldest - r.next), b.setReader { r with next := b.oldest })
    else
      match b.upcoming? r with
      | none => (.nothing, b)
      | some x => (.value x, b.setReader { r with next := r.next + 1 })

/-- Counts values that a reader has lost. -/
def countLost (b : Bus α) (id : ReaderId) (count : Nat) : Bus α :=
  (b.reader? id).elim b fun r => b.setReader { r with skipped := r.skipped + count }

theorem setReader_setReader (b : Bus α) {r r' : Reader} (h : r.id = r'.id) :
    (b.setReader r).setReader r' = b.setReader r' := by
  simp only [Bus.setReader, List.map_map]
  congr 1
  refine List.map_congr_left fun old _ => ?_
  by_cases hold : old.id = r'.id <;> simp [Function.comp_apply, h, hold]

/-- Nothing changes if a reader is replaced by itself. -/
theorem Sound.setReader_self (h : b.Sound) {r : Reader} (hr : b.reader? id = some r) :
    b.setReader r = b := by
  have hself : ∀ old ∈ b.readers, (if old.id == r.id then r else old) = old := by
    intro old hold
    split
    · rename_i hid
      exact (List.inj_on_of_nodup_map h.distinct hold (List.mem_of_find?_eq_some hr)
        (beq_iff_eq.mp hid)).symm
    · rfl
  simp only [Bus.setReader, List.map_congr_left hself, List.map_id']

/-- **A read is a loop**: the bus is asked until it has answered with a value or with nothing, and
what it says is lost is counted on the way. -/
theorem Sound.read_eq_poll (h : b.Sound) (id : ReaderId) :
    b.read id =
      match b.poll id with
      | (.value x, b') => (some x, b')
      | (.nothing, b') => (none, b')
      | (.lagged count, b') => (b'.countLost id count).read id := by
  unfold poll
  cases hr : b.reader? id with
  | none => simp only [Bus.read, hr]
  | some r =>
    have hid := id_of_reader? hr
    by_cases hlost : r.next < b.oldest
    · -- once the loss is counted, the reader stands at the oldest value
      have hcount : (b.setReader { r with next := b.oldest }).countLost id (b.oldest - r.next) =
          b.setReader (b.caughtUp r) := by
        rw [countLost, reader?_setReader, if_pos hid, hr]
        rw [caughtUp, Nat.max_eq_right (Nat.le_of_lt hlost)]
        exact setReader_setReader b rfl
      have hcaught : (b.setReader (b.caughtUp r)).reader? id = some (b.caughtUp r) := by
        rw [reader?_setReader, if_pos (show (b.caughtUp r).id = id from hid), hr]
        rfl
      have hagain : (b.setReader (b.caughtUp r)).caughtUp (b.caughtUp r) = b.caughtUp r := by
        simp only [caughtUp, Bus.oldest, Bus.setReader, Reader.mk.injEq, true_and]
        omega
      simp only [hlost, if_true, hcount, Bus.read, hcaught, hr, hagain]
      have hnext : (b.setReader (b.caughtUp r)).upcoming? (b.caughtUp r) =
        b.upcoming? (b.caughtUp r) := rfl
      rw [hnext]
      cases b.upcoming? (b.caughtUp r) <;> simp [setReader_setReader]
    · -- nothing is lost, so nothing is counted
      have hcaught : b.caughtUp r = r := by
        have : max r.next b.oldest = r.next ∧ r.skipped + (b.oldest - r.next) = r.skipped := by
          omega
        rw [caughtUp, this.1, this.2]
      simp only [hlost, if_false, Bus.read, hr, hcaught]
      cases b.upcoming? r with
      | none => rw [h.setReader_self hr]
      | some x => rfl

/-! ### What is left to read -/

/-- The values that are kept for a reader are the published ones that it has not passed. -/
theorem Serves.length_unread (h : b.Serves id older s) :
    (b.unread id).length = s.published.length - s.reached b.window := by
  have hsent : (older ++ s.published).length = older.length + s.published.length :=
    List.length_append
  rw [unread, h.reader, Option.elim_some, List.length_drop, h.keeps.oldest, h.keeps.kept,
    List.length_drop, hsent]
  dsimp only [Reading.reached]
  omega

theorem Serves.skipped (h : b.Serves id older s) : b.skipped id = s.skipped := by
  rw [Bus.skipped, h.reader]
  rfl

theorem published_meetAll (window : Nat) (s : Reading α) (id : ReaderId)
    (ops : List (Operation α)) :
    (s.meetAll window (ownPart id ops)).published = s.published ++ published ops := by
  induction ops generalizing s with
  | nil => exact (List.append_nil _).symm
  | cons op ops ih =>
    rw [meetAll_ownPart_cons, ih, published, published, List.filterMap_cons]
    cases op with
    | publish x => exact List.append_assoc ..
    | subscribe => rfl
    | leave other => rfl
    | read other =>
      rw [Operation.occasion?]
      split <;> rfl

theorem ownPart_append (id : ReaderId) (ops more : List (Operation α)) :
    ownPart id (ops ++ more) = ownPart id ops ++ ownPart id more := List.filterMap_append ..

/-! ### A reader from its subscription on -/

/-- How a reader fares from its subscription on, on a bus of the given capacity. -/
def course (capacity : Nat) (id : ReaderId) (ops : List (Operation α)) : Reading α :=
  Reading.fresh.meetAll (windowOf capacity) (ownPart id ops)

theorem published_course (capacity : Nat) (id : ReaderId) (ops : List (Operation α)) :
    (course capacity id ops).published = published ops := by
  rw [course, published_meetAll]
  rfl

theorem sound_course (capacity : Nat) (id : ReaderId) (ops : List (Operation α)) :
    (course capacity id ops).Sound := Reading.sound_fresh.meetAll _

theorem course_concat (capacity : Nat) (id : ReaderId) (ops : List (Operation α))
    (op : Operation α) :
    course capacity id (ops ++ [op]) =
      (course capacity id ops).meetAll (windowOf capacity) (op.occasion? id).toList := by
  have hpart : ownPart id [op] = (op.occasion? id).toList := by
    rw [ownPart, List.filterMap_cons]
    cases op.occasion? id <;> rfl
  rw [course, ownPart_append, hpart]
  exact List.foldl_append ..

variable {capacity limit : Nat} {new : Bus α} {before after : List (Operation α)}

theorem window_of_subscribe (hnew : ofCapacity? capacity limit = some new)
    (hb : (new.run before).subscribe = (b, id)) : b.window = windowOf capacity := by
  have hsubscribe : (new.run before).subscribe.1.window = windowOf capacity :=
    (window_run new before).trans (window_of_ofCapacity? hnew)
  rwa [hb] at hsubscribe

/-- **A reader that has subscribed** fares as its own part of the operations says. -/
theorem serves_course (hnew : ofCapacity? capacity limit = some new)
    (hb : (new.run before).subscribe = (b, id)) (hstays : .leave id ∉ after) :
    (∃ older, (b.run after).Serves id older (course capacity id after)) ∧
      (course capacity id after).returned = b.returned id after := by
  have hwindow := window_of_subscribe hnew hb
  obtain ⟨older, hserves⟩ := ((sound_of_ofCapacity? hnew).run before).subscribe
  rw [hb] at hserves
  obtain ⟨hrun, hreturned⟩ := hserves.run hstays
  rw [hwindow] at hrun hreturned
  exact ⟨⟨older, hrun⟩, hreturned⟩

/-- What a reader that keeps up has received at a moment. -/
theorem gapless_course (hnew : ofCapacity? capacity limit = some new)
    (hb : (new.run before).subscribe = (b, id)) (hstays : .leave id ∉ after)
    (hbehind : ∀ earlier later, after = earlier ++ .read id :: later →
      (published earlier).length ≤
        (b.returned id earlier).length + (b.run earlier).skipped id + capacity) :
    (course capacity id after).Gapless := by
  induction after using List.reverseRecOn with
  | nil => exact Reading.gapless_fresh
  | append_singleton ops op ih =>
    have hops : .leave id ∉ ops := fun hmem => hstays (List.mem_append_left _ hmem)
    have hgapless := ih hops fun earlier later heq =>
      hbehind earlier (later ++ [op]) (by rw [heq, List.append_assoc, List.cons_append])
    rw [course_concat]
    cases op with
    | publish x =>
      show ((course capacity id ops).meet (windowOf capacity) (.published x)).Gapless
      exact hgapless.meet (sound_course ..) _ nofun
    | subscribe => exact hgapless
    | leave other => exact hgapless
    | read other =>
      by_cases hother : other = id
      · subst hother
        obtain ⟨⟨older, hserves⟩, hreturned⟩ := serves_course hnew hb hops
        have hread := hbehind ops [] rfl
        rw [← hreturned, hserves.skipped, (sound_course ..).passed] at hread
        have := le_windowOf capacity
        rw [Operation.occasion?, if_pos rfl]
        refine hgapless.meet (sound_course ..) .read fun _ => ?_
        rw [published_course]
        omega
      · rw [Operation.occasion?, if_neg hother]
        exact hgapless

/-- **Every published value is returned, skipped or kept.**  A reader subscribes on a bus that may
have been in use before, and then goes on reading.  What it receives is a part of what is published
after its subscription, in this order and each value once.  After each of its reads the values that
it has received, that it has skipped and that are still kept for it make up all that have been
published; if the read has returned nothing, none is kept any more.  The next read returns the
oldest value in the window that it has not passed.  If it is never further behind than the
capacity when it reads, it skips nothing.  And all this depends on what is published and on when it
reads itself, and on no other operation of the bus. -/
theorem reader_accounts (hnew : ofCapacity? capacity limit = some new)
    (hb : (new.run before).subscribe = (b, id)) (hstays : .leave id ∉ after) :
    (b.returned id after).Sublist (published after) ∧
    (∀ earlier, after = earlier ++ [.read id] →
      (b.returned id after).length + (b.run after).skipped id + ((b.run after).unread id).length =
        (published after).length ∧
      (((b.run earlier).read id).1 = none →
        (b.returned id after).length + (b.run after).skipped id = (published after).length)) ∧
    ((b.run after).read id).1 =
      (published after)[max ((b.returned id after).length + (b.run after).skipped id)
        ((published after).length - windowOf capacity)]? ∧
    ((∀ earlier later, after = earlier ++ .read id :: later →
        (published earlier).length ≤
          (b.returned id earlier).length + (b.run earlier).skipped id + capacity) →
      (b.run after).skipped id = 0 ∧
        b.returned id after = (published after).take (b.returned id after).length) ∧
    ∀ {before' after' b' id'}, (new.run before').subscribe = (b', id') → .leave id' ∉ after' →
      ownPart id' after' = ownPart id after →
        b'.returned id' after' = b.returned id after ∧
          (b'.run after').skipped id' = (b.run after).skipped id := by
  obtain ⟨⟨older, hserves⟩, hreturned⟩ := serves_course hnew hb hstays
  have hsound := sound_course capacity id after
  have hpublished := published_course capacity id after
  have hwindow : (b.run after).window = windowOf capacity :=
    (window_run b after).trans (window_of_subscribe hnew hb)
  rw [← hreturned, hserves.skipped, ← hpublished]
  refine ⟨hsound.sublist.trans (List.take_sublist ..), ?_, ?_, ?_, ?_⟩
  · rintro earlier rfl
    -- the reader stands where its last read has left it
    have hread : course capacity id (earlier ++ [.read id]) =
        (course capacity id earlier).meet (windowOf capacity) .read := by
      rw [course_concat, Operation.occasion?, if_pos rfl]
      rfl
    have hearlier : .leave id ∉ earlier := fun hmem => hstays (List.mem_append_left _ hmem)
    have hle := hsound.position_le
    rw [hserves.length_unread, hwindow, hsound.passed]
    refine ⟨?_, fun hnone => Nat.le_antisymm hle ?_⟩
    · rw [hread, Reading.reached_meet_read, ← hread]
      exact Nat.add_sub_cancel' hle
    · -- a read that brings nothing leaves nothing unread
      obtain ⟨⟨older', hserves'⟩, -⟩ := serves_course hnew hb hearlier
      rw [hserves'.read, window_run, window_of_subscribe hnew hb] at hnone
      rw [hread]
      exact Reading.length_le_position_meet_read hnone
  · rw [hserves.read, hwindow, hsound.passed]
    rfl
  · -- a reader that never falls too far behind loses nothing
    intro hbehind
    obtain ⟨hskipped, hall⟩ := gapless_course hnew hb hstays hbehind
    have hposition := hsound.passed
    rw [hskipped, Nat.add_zero] at hposition
    exact ⟨hskipped, by rw [hposition]; exact hall⟩
  · -- only its own operations and what is published matter to the reader
    intro before' after' b' id' hb' hstays' hown
    obtain ⟨⟨older', hserves'⟩, hreturned'⟩ := serves_course hnew hb' hstays'
    have hcourse : course capacity id' after' = course capacity id after := by
      rw [course, hown, course]
    rw [← hreturned', hserves'.skipped, hcourse]
    exact ⟨rfl, rfl⟩

/-! ### A reader that falls behind -/

/-- A bus for numbers that keeps four of them. -/
def small : Bus Nat := ⟨4, 0, [], [], ⟨0⟩⟩

/-- The bus after a first reader has read a number, and a second one has subscribed. -/
def shared : Bus Nat := ⟨4, 1, [1], [⟨⟨0⟩, 1, 0⟩, ⟨⟨1⟩, 1, 0⟩], ⟨2⟩⟩

/-- The second reader reads only after seven numbers, and the first one leaves meanwhile. -/
def lagging : List (Operation Nat) :=
  [.publish 2, .publish 3, .read ⟨0⟩, .publish 4, .publish 5, .leave ⟨0⟩, .publish 6, .publish 7,
    .publish 8, .read ⟨1⟩, .read ⟨1⟩, .publish 9, .read ⟨1⟩]

/-- The second reader has skipped three numbers and received three, and two are kept for it. -/
theorem reader_accounts_lagging : ofCapacity? 3 = some small ∧
    (small.run [.subscribe, .publish 1, .read ⟨0⟩]).subscribe = (shared, ⟨1⟩) ∧
    .leave ⟨1⟩ ∉ lagging ∧
    shared.returned ⟨1⟩ lagging = [5, 6, 7] ∧ (shared.run lagging).skipped ⟨1⟩ = 3 ∧
    (shared.run lagging).unread ⟨1⟩ = [8, 9] ∧ [5, 6, 7].Sublist (published lagging) ∧
    3 + 3 + 2 = (published lagging).length := by
  have hnew : ofCapacity? 3 = some small := rfl
  have hb : (small.run [.subscribe, .publish 1, .read ⟨0⟩]).subscribe = (shared, ⟨1⟩) := rfl
  have hstays : Operation.leave ⟨1⟩ ∉ lagging := by simp [lagging]
  obtain ⟨hsublist, hread, -⟩ := reader_accounts hnew hb hstays
  exact ⟨hnew, hb, hstays, rfl, rfl, rfl, hsublist, (hread (lagging.take 12) rfl).1⟩

end Bus

end RoomSearch
