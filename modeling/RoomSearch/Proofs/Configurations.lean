import RoomSearch.Diagnostics
import RoomSearch.Proofs.Buildable

/-!
# The texts of configurations

A configuration is given by some of its fields; the others have their defaults.  In an object every
field may stand under its key, once, and members with other keys may stand anywhere; in an array the
values of the first fields stand in the order of declaration.  The value of a field has to be one
that the field can be written with.  What a text gives is said here without any reading: reading is
then shown to succeed for the texts that give something, and for no others, unless what they give is
that no event is kept.

## Main definitions

* `Config.Given` — some of the fields; `Config.Given.onDefaults` has the defaults for the others.
* `Config.WritesMode`, `Config.WritesCapacity`, `Config.WritesName` — the values that a field is
  written with.
* `Config.GivenByObject`, `Config.GivenByArray`, `Config.GivenBy` — what an object, an array and a
  text give.

## Main results

* `Config.ofJson?_object_iff`, `Config.ofJson?_array_iff` — what is read from an object and from an
  array is what they give.
* `Config.ofJson?_array` — **an array** is read as the object with the keys of its items.
* `Config.decoding_law` — **a configuration** is accepted from a text, and from a file with that
  text, exactly if the text gives it, and it is refused for the reason that applies.
-/

namespace RoomSearch

open Json Json.Value

namespace Config

/-! ### What a text gives -/

/-- Some of the fields of a configuration. -/
structure Given where
  /-- The mode of comparison. -/
  matchMode : Option MatchMode
  /-- The number of events. -/
  busCapacity : Option UInt64
  /-- The name that is shown. -/
  displayName : Option String

/-- The defaults, with the fields that are given in their places. -/
def Given.onDefaults (g : Given) : Config where
  matchMode := g.matchMode.getD default.matchMode
  busCapacity := g.busCapacity.getD default.busCapacity
  displayName := g.displayName.getD default.displayName

/-- The values that a mode is written with. -/
inductive WritesMode : Value → MatchMode → Prop where
  /-- Its name. -/
  | name (mode : MatchMode) : WritesMode (.text (some (Named.name mode))) mode
  /-- An object whose only key is the name, with an absent value. -/
  | object (mode : MatchMode) : WritesMode (.object [(some (Named.name mode), .null)]) mode

/-- The values that a number of events is written with. -/
inductive WritesCapacity : Value → UInt64 → Prop where
  /-- Its digits, without a sign, a point or an exponent. -/
  | digits (n : UInt64) : WritesCapacity (.number (.ofNat n.toNat)) n

/-- The values that a name is written with. -/
inductive WritesName : Value → String → Prop where
  /-- The text. -/
  | text (s : String) : WritesName (.text (some s)) s

/-- What the values of a field give for it: nothing if there are none, and otherwise there is one,
which the field can be written with. -/
inductive Gives {α : Type} (Writes : Value → α → Prop) : List Value → Option α → Prop where
  /-- The field is left out. -/
  | nothing : Gives Writes [] none
  /-- The field is given once. -/
  | once {v : Value} {a : α} (h : Writes v a) : Gives Writes [v] (some a)

/-- The values of the members with the given key, in order. -/
def valuesOf (key : String) (members : List (Option String × Value)) : List Value :=
  (members.filter fun member => member.1 == some key).map Prod.snd

/-- What an object gives.  Members with other keys count for nothing, but all keys have to be proper
texts. -/
structure GivenByObject (members : List (Option String × Value)) (g : Given) : Prop where
  /-- All keys are proper texts. -/
  proper : ProperKeys members
  /-- The mode of comparison. -/
  matchMode : Gives WritesMode (valuesOf "match_mode" members) g.matchMode
  /-- The number of events. -/
  busCapacity : Gives WritesCapacity (valuesOf "event_bus_capacity" members) g.busCapacity
  /-- The name that is shown. -/
  displayName : Gives WritesName (valuesOf "source_display_name" members) g.displayName

/-- What an array gives: the first fields, in the order of declaration. -/
inductive GivenByArray : List Value → Given → Prop where
  /-- No field. -/
  | none : GivenByArray [] ⟨.none, .none, .none⟩
  /-- The mode of comparison. -/
  | one {v₁ : Value} {mode : MatchMode} (h₁ : WritesMode v₁ mode) :
    GivenByArray [v₁] ⟨some mode, .none, .none⟩
  /-- The mode and the number of events. -/
  | two {v₁ v₂ : Value} {mode : MatchMode} {capacity : UInt64} (h₁ : WritesMode v₁ mode)
    (h₂ : WritesCapacity v₂ capacity) : GivenByArray [v₁, v₂] ⟨some mode, some capacity, .none⟩
  /-- All fields. -/
  | three {v₁ v₂ v₃ : Value} {mode : MatchMode} {capacity : UInt64} {name : String}
    (h₁ : WritesMode v₁ mode) (h₂ : WritesCapacity v₂ capacity) (h₃ : WritesName v₃ name) :
    GivenByArray [v₁, v₂, v₃] ⟨some mode, some capacity, some name⟩

/-- What a text gives. -/
inductive GivenBy (text : String) (g : Given) : Prop where
  /-- The text is that of an object. -/
  | object {members : List (Option String × Value)}
    (htext : Value.parse? text = some (.object members)) (h : GivenByObject members g)
  /-- The text is that of an array. -/
  | array {items : List Value} (htext : Value.parse? text = some (.array items))
    (h : GivenByArray items g)

/-! ### Reading a field -/

theorem eq_null_of_isNothing {v : Value} (h : v.isNothing false = true) : v = .null := by
  cases v with
  | null => rfl
  | object members =>
    rw [isNothing_object, Bool.and_false] at h
    cases h
  | bool | number | text | array => cases h

/-- An alternative has a name if it is written as the name or as the object with it. -/
theorem name?_eq_some_iff {v : Value} {name : String} : v.name? false = some name ↔
    v = .text (some name) ∨ v = .object [(some name, .null)] := by
  constructor
  · intro h
    cases v with
    | text s => exact .inl (congrArg Value.text h)
    | object members =>
      by_cases hlength : members.length = 1
      · obtain ⟨⟨key, value⟩, rfl⟩ := List.length_eq_one_iff.mp hlength
        cases key with
        | none => cases h
        | some key =>
          simp only [name?] at h
          split at h
          case isTrue hnothing =>
            obtain rfl : key = name := Option.some.inj h
            exact .inr (by rw [eq_null_of_isNothing hnothing])
          case isFalse => cases h
      · rw [name?_object_of_length_ne hlength] at h
        cases h
    | null | bool | number | array => cases h
  · rintro (rfl | rfl) <;> rfl

theorem ofJson?_mode_iff {v : Value} {mode : MatchMode} :
    Named.ofJson? false v = some mode ↔ WritesMode v mode := by
  constructor
  · intro h
    obtain ⟨name, hname, hmode⟩ := Option.bind_eq_some_iff.mp h
    obtain rfl := Named.name_eq_of_ofName? hmode
    rcases name?_eq_some_iff.mp hname with rfl | rfl
    · exact .name mode
    · exact .object mode
  · rintro (_ | _)
    · exact Named.ofName?_name mode
    · exact Named.ofName?_name mode

theorem word?_eq_some_iff {n : Nat} {word : UInt64} : word? n = some word ↔ n = word.toNat := by
  unfold word?
  split
  case isTrue hlt =>
    rw [Option.some.injEq, ← UInt64.toNat_inj, UInt64.toNat_ofNat_of_lt' hlt]
  case isFalse hge =>
    have := word.toNat_lt
    simp only [reduceCtorEq, false_iff]
    rintro rfl
    exact hge this

theorem natural?_word_iff {v : Value} {n : UInt64} :
    v.natural?.bind word? = some n ↔ WritesCapacity v n := by
  constructor
  · intro h
    obtain ⟨digits, hdigits, hword⟩ := Option.bind_eq_some_iff.mp h
    obtain rfl := word?_eq_some_iff.mp hword
    match v, hdigits with
    | .number ⟨false, _, none, none⟩, rfl => exact .digits n
  · rintro ⟨⟩
    exact word?_eq_some_iff.mpr rfl

theorem text?_eq_some_iff {v : Value} {s : String} : v.text? = some s ↔ WritesName v s := by
  constructor
  · intro h
    match v, h with
    | .text _, rfl => exact .text s
  · rintro ⟨⟩
    rfl

section

variable {α : Type} {read : Value → Option α} {Writes : Value → α → Prop}

/-- **A field** is read as what its value gives, or as the default. -/
theorem fieldOr_eq_some_iff (h : ∀ v a, read v = some a ↔ Writes v a)
    (fields : List (String × Value)) (name : String) (value a : α) :
    fieldOr fields name value read = some a ↔
      ∃ g, Gives Writes (fields.lookup name).toList g ∧ a = g.getD value := by
  unfold fieldOr
  cases fields.lookup name with
  | none =>
    constructor
    · rintro ⟨⟩
      exact ⟨none, .nothing, rfl⟩
    · rintro ⟨g, ⟨⟩, rfl⟩
      rfl
  | some v =>
    constructor
    · intro hread
      exact ⟨some a, .once ((h v a).mp hread), rfl⟩
    · rintro ⟨g, hgives, rfl⟩
      cases hgives with
      | once hwrites => exact (h v _).mpr hwrites

theorem Gives.length_le {values : List Value} {g : Option α} (h : Gives Writes values g) :
    values.length ≤ 1 := by
  cases h with
  | nothing => exact Nat.zero_le 1
  | once => exact Nat.le_refl 1

end

/-! ### Reading an object -/

/-- The values of a field are those of the members with its name. -/
theorem valuesOf_eq (names : List String) (members : List (Option String × Value)) {name : String}
    (h : name ∈ names) : ((given names members).filter fun field => field.1 == name).map Prod.snd =
      valuesOf name members := by
  induction members with
  | nil => rfl
  | cons member rest ih =>
    obtain ⟨key, v⟩ := member
    rw [given_cons, List.filter_append, List.map_append, ih]
    cases key with
    | none => rfl
    | some key =>
      by_cases hkey : key = name
      · subst hkey
        rw [given_of_mem h]
        simp [valuesOf]
      · have hother : ((given names [(some key, v)]).filter fun field => field.1 == name) = [] := by
          by_cases hmem : key ∈ names
          · rw [given_of_mem hmem]
            simp [hkey]
          · rw [given_of_not_mem hmem, List.filter_nil]
        rw [hother]
        simp [valuesOf, hkey]

/-- Fields with different names are looked up as they stand. -/
theorem toList_lookup {fields : List (String × Value)} (h : (fields.map Prod.fst).Nodup)
    (name : String) : (fields.lookup name).toList =
      (fields.filter fun field => field.1 == name).map Prod.snd := by
  induction fields with
  | nil => rfl
  | cons field rest ih =>
    obtain ⟨key, v⟩ := field
    rw [List.map_cons, List.nodup_cons] at h
    rw [List.lookup_cons]
    by_cases hkey : name = key
    · subst hkey
      have hnone : rest.filter (fun field => field.1 == name) = [] := by
        refine List.filter_eq_nil_iff.mpr fun field hmem heq => h.1 ?_
        exact List.mem_map.mpr ⟨field, hmem, beq_iff_eq.mp heq⟩
      simp [hnone]
    · have hbeq : (name == key) = false := beq_eq_false_iff_ne.mpr hkey
      rw [List.filter_cons_of_neg (by simpa using Ne.symm hkey)]
      simpa only [hbeq] using ih h.2

/-- Each name occurs at most once among fields that are different. -/
theorem nodup_of_length_le {names : List String} {members : List (Option String × Value)}
    (h : ∀ name ∈ names, (valuesOf name members).length ≤ 1) :
    ((given names members).map Prod.fst).Nodup := by
  refine List.nodup_iff_count.mpr fun name => ?_
  by_cases hname : name ∈ names
  · have hcount : ((given names members).map Prod.fst).count name =
        (valuesOf name members).length := by
      rw [← valuesOf_eq names members hname, List.length_map, List.count, List.countP_map,
        List.countP_eq_length_filter]
      rfl
    rw [hcount]
    exact h name hname
  · -- only members with these names count as fields
    have hnot : name ∉ (given names members).map Prod.fst := by
      intro hmem
      obtain ⟨field, hfield, rfl⟩ := List.mem_map.mp hmem
      exact hname (List.contains_iff_mem.mp ((List.mem_filter.mp hfield).2))
    rw [List.count_eq_zero_of_not_mem hnot]
    exact Nat.zero_le 1

/-- The rest of the reading, once the fields are known. -/
def ofFields? (fields : List (String × Value)) : Option Config := do
  let matchMode ← fieldOr fields "match_mode" default.matchMode (Named.ofJson? false)
  let busCapacity ← fieldOr fields "event_bus_capacity" default.busCapacity
    fun v => v.natural?.bind word?
  let displayName ← fieldOr fields "source_display_name" default.displayName Value.text?
  some ⟨matchMode, busCapacity, displayName⟩

theorem ofJson?_eq (v : Value) : ofJson? v = (v.fields? fieldNames).bind ofFields? := rfl

theorem ofFields?_eq_some_iff {fields : List (String × Value)} {config : Config} :
    ofFields? fields = some config ↔ ∃ g : Given,
      Gives WritesMode (fields.lookup "match_mode").toList g.matchMode ∧
      Gives WritesCapacity (fields.lookup "event_bus_capacity").toList g.busCapacity ∧
      Gives WritesName (fields.lookup "source_display_name").toList g.displayName ∧
      config = g.onDefaults := by
  simp only [ofFields?, Option.bind_eq_bind, Option.bind_eq_some_iff,
    fieldOr_eq_some_iff @ofJson?_mode_iff, fieldOr_eq_some_iff @natural?_word_iff,
    fieldOr_eq_some_iff @text?_eq_some_iff, Option.some.injEq]
  constructor
  · rintro ⟨_, ⟨mode, hmode, rfl⟩, _, ⟨capacity, hcapacity, rfl⟩, _, ⟨name, hname, rfl⟩, rfl⟩
    exact ⟨⟨mode, capacity, name⟩, hmode, hcapacity, hname, rfl⟩
  · rintro ⟨g, hmode, hcapacity, hname, rfl⟩
    exact ⟨_, ⟨_, hmode, rfl⟩, _, ⟨_, hcapacity, rfl⟩, _, ⟨_, hname, rfl⟩, rfl⟩

/-- **From an object** that is read which it gives. -/
theorem ofJson?_object_iff {members : List (Option String × Value)} {config : Config} :
    ofJson? (.object members) = some config ↔
      ∃ g, GivenByObject members g ∧ config = g.onDefaults := by
  have hlookup : ((given fieldNames members).map Prod.fst).Nodup → ∀ name ∈ fieldNames,
      ((given fieldNames members).lookup name).toList = valuesOf name members :=
    fun hnodup name hname => (toList_lookup hnodup name).trans (valuesOf_eq _ _ hname)
  rw [ofJson?_eq, fields?_object]
  constructor
  · intro h
    obtain ⟨fields, hfields, hread⟩ := Option.bind_eq_some_iff.mp h
    obtain ⟨⟨hproper, hnodup⟩, hgiven⟩ := Option.ite_none_right_eq_some.mp hfields
    obtain rfl := Option.some.inj hgiven
    obtain ⟨g, hmode, hcapacity, hname, rfl⟩ := ofFields?_eq_some_iff.mp hread
    rw [hlookup hnodup _ (by decide)] at hmode hcapacity hname
    exact ⟨g, ⟨hproper, hmode, hcapacity, hname⟩, rfl⟩
  · rintro ⟨g, ⟨hproper, hmode, hcapacity, hname⟩, rfl⟩
    have hnodup : ((given fieldNames members).map Prod.fst).Nodup := by
      refine nodup_of_length_le ?_
      simp only [fieldNames, List.forall_mem_cons]
      exact ⟨hmode.length_le, hcapacity.length_le, hname.length_le, List.forall_mem_nil _⟩
    rw [if_pos ⟨hproper, hnodup⟩, Option.bind_some]
    refine ofFields?_eq_some_iff.mpr ⟨g, ?_, ?_, ?_, rfl⟩
    · rwa [hlookup hnodup _ (by decide)]
    · rwa [hlookup hnodup _ (by decide)]
    · rwa [hlookup hnodup _ (by decide)]

/-! ### Reading an array -/

/-- The items of an array as members, each under the key of the field in its place. -/
def keyed (items : List Value) : List (Option String × Value) :=
  (fieldNames.zip items).map fun (key, v) => (some key, v)

/-- **An array** is read as the object with the keys of its items. -/
theorem ofJson?_array {items : List Value} (h : items.length ≤ 3) :
    ofJson? (.array items) = ofJson? (.object (keyed items)) := by
  rw [ofJson?_eq, ofJson?_eq, keyed, fields?_arrayed (by decide) h]

theorem properKeys_keyed (items : List Value) : ProperKeys (keyed items) := by
  intro member hmem
  obtain ⟨field, -, rfl⟩ := List.mem_map.mp hmem
  rfl

section

variable {α : Type} {Writes : Value → α → Prop} {v : Value} {g : Option α}

theorem Gives.eq_none (h : Gives Writes [] g) : g = none := by
  cases h
  rfl

theorem Gives.exists_eq_some (h : Gives Writes [v] g) : ∃ a, Writes v a ∧ g = some a := by
  cases h with
  | once h => exact ⟨_, h, rfl⟩

end

/-- An array gives what the object with the keys of its items gives, if it is not too long. -/
theorem givenByArray_iff {items : List Value} {g : Given} :
    GivenByArray items g ↔ items.length ≤ 3 ∧ GivenByObject (keyed items) g := by
  constructor
  · rintro (_ | h₁ | ⟨h₁, h₂⟩ | ⟨h₁, h₂, h₃⟩)
    · exact ⟨by decide, properKeys_keyed [], .nothing, .nothing, .nothing⟩
    · exact ⟨by simp, properKeys_keyed [_], .once h₁, .nothing, .nothing⟩
    · exact ⟨by simp, properKeys_keyed [_, _], .once h₁, .once h₂, .nothing⟩
    · exact ⟨by simp, properKeys_keyed [_, _, _], .once h₁, .once h₂, .once h₃⟩
  · obtain ⟨mode, capacity, name⟩ := g
    rintro ⟨hlength, -, hmode, hcapacity, hname⟩
    match items with
    | [] =>
      obtain rfl : mode = none := hmode.eq_none
      obtain rfl : capacity = none := hcapacity.eq_none
      obtain rfl : name = none := hname.eq_none
      exact .none
    | [v₁] =>
      obtain ⟨_, h₁, rfl⟩ : ∃ a, WritesMode v₁ a ∧ mode = some a := hmode.exists_eq_some
      obtain rfl : capacity = none := hcapacity.eq_none
      obtain rfl : name = none := hname.eq_none
      exact .one h₁
    | [v₁, v₂] =>
      obtain ⟨_, h₁, rfl⟩ : ∃ a, WritesMode v₁ a ∧ mode = some a := hmode.exists_eq_some
      obtain ⟨_, h₂, rfl⟩ : ∃ a, WritesCapacity v₂ a ∧ capacity = some a := hcapacity.exists_eq_some
      obtain rfl : name = none := hname.eq_none
      exact .two h₁ h₂
    | [v₁, v₂, v₃] =>
      obtain ⟨_, h₁, rfl⟩ : ∃ a, WritesMode v₁ a ∧ mode = some a := hmode.exists_eq_some
      obtain ⟨_, h₂, rfl⟩ : ∃ a, WritesCapacity v₂ a ∧ capacity = some a := hcapacity.exists_eq_some
      obtain ⟨_, h₃, rfl⟩ : ∃ a, WritesName v₃ a ∧ name = some a := hname.exists_eq_some
      exact .three h₁ h₂ h₃
    | _ :: _ :: _ :: _ :: _ =>
      simp only [List.length_cons] at hlength
      omega

/-- **From an array** that is read which it gives. -/
theorem ofJson?_array_iff {items : List Value} {config : Config} :
    ofJson? (.array items) = some config ↔
      ∃ g, GivenByArray items g ∧ config = g.onDefaults := by
  simp only [givenByArray_iff, and_assoc]
  by_cases hlength : items.length ≤ 3
  · simp only [ofJson?_array hlength, ofJson?_object_iff, hlength, true_and]
  · have hnone : (Value.array items).fields? fieldNames = none := if_neg hlength
    simp [ofJson?_eq, hnone, hlength]

/-! ### Reading a text -/

/-- **From a text** that is read which it gives. -/
theorem ofJson?_text_iff {text : String} {config : Config} :
    (Value.parse? text).bind ofJson? = some config ↔
      ∃ g, GivenBy text g ∧ config = g.onDefaults := by
  constructor
  · intro h
    obtain ⟨v, htext, hread⟩ := Option.bind_eq_some_iff.mp h
    cases v with
    | object members =>
      obtain ⟨g, hg, rfl⟩ := ofJson?_object_iff.mp hread
      exact ⟨g, .object htext hg, rfl⟩
    | array items =>
      obtain ⟨g, hg, rfl⟩ := ofJson?_array_iff.mp hread
      exact ⟨g, .array htext hg, rfl⟩
    | null | bool | number | text => cases hread
  · rintro ⟨g, htext | htext, rfl⟩
    · rw [htext, Option.bind_some, ofJson?_object_iff]
      exact ⟨g, ‹_›, rfl⟩
    · rw [htext, Option.bind_some, ofJson?_array_iff]
      exact ⟨g, ‹_›, rfl⟩

theorem Given.busCapacity_onDefaults_eq_zero_iff {g : Given} :
    g.onDefaults.busCapacity = 0 ↔ g.busCapacity = some 0 := by
  obtain ⟨_, capacity, _⟩ := g
  cases capacity with
  | none =>
    have hdefault : default.busCapacity ≠ 0 := by decide
    simpa [onDefaults] using hdefault
  | some n => simp [onDefaults]

/-- **A text** is accepted for what it gives, unless that is a number of events of zero. -/
theorem ofText?_eq_ok_iff_givenBy {text : String} {config : Config} : ofText? text = .ok config ↔
    ∃ g, GivenBy text g ∧ g.busCapacity ≠ some 0 ∧ config = g.onDefaults := by
  rw [ofText?_eq_ok_iff, ofJson?_text_iff]
  constructor
  · rintro ⟨⟨g, hg, rfl⟩, hne⟩
    exact ⟨g, hg, fun hzero => hne (Given.busCapacity_onDefaults_eq_zero_iff.mpr hzero), rfl⟩
  · rintro ⟨g, hg, hne, rfl⟩
    exact ⟨⟨g, hg, rfl⟩, fun hzero => hne (Given.busCapacity_onDefaults_eq_zero_iff.mp hzero)⟩

theorem ofText?_eq_zeroCapacity_iff {text : String} : ofText? text = .error .zeroCapacity ↔
    ∃ g, GivenBy text g ∧ g.busCapacity = some 0 := by
  have hread : ofText? text = .error .zeroCapacity ↔
      ∃ config, (Value.parse? text).bind ofJson? = some config ∧ config.busCapacity = 0 := by
    unfold ofText?
    cases (Value.parse? text).bind ofJson? with
    | none => simp
    | some config => by_cases hzero : config.busCapacity = 0 <;> simp [hzero]
  rw [hread]
  constructor
  · rintro ⟨_, hconfig, hzero⟩
    obtain ⟨g, hg, rfl⟩ := ofJson?_text_iff.mp hconfig
    exact ⟨g, hg, Given.busCapacity_onDefaults_eq_zero_iff.mp hzero⟩
  · rintro ⟨g, hg, hzero⟩
    exact ⟨_, ofJson?_text_iff.mpr ⟨g, hg, rfl⟩, Given.busCapacity_onDefaults_eq_zero_iff.mpr hzero⟩

theorem ofText?_eq_malformed_iff {text : String} : ofText? text = .error .malformed ↔
    ¬ ∃ g, GivenBy text g := by
  have hread : ofText? text = .error .malformed ↔ (Value.parse? text).bind ofJson? = none := by
    unfold ofText?
    cases (Value.parse? text).bind ofJson? with
    | none => simp
    | some config => by_cases hzero : config.busCapacity = 0 <;> simp [hzero]
  rw [hread, Option.eq_none_iff_forall_ne_some]
  constructor
  · rintro h ⟨g, hg⟩
    exact h _ (ofJson?_text_iff.mpr ⟨g, hg, rfl⟩)
  · rintro h config hconfig
    obtain ⟨g, hg, -⟩ := ofJson?_text_iff.mp hconfig
    exact h ⟨g, hg⟩

/-! ### Reading a file -/

/-- Bytes are taken for the text that they encode. -/
theorem fromUTF8?_eq_some_iff {bytes : ByteArray} {text : String} :
    String.fromUTF8? bytes = some text ↔ bytes = text.toUTF8 := by
  constructor
  · intro h
    unfold String.fromUTF8? at h
    split at h
    · cases h
      rfl
    · cases h
  · rintro rfl
    exact fromUTF8?_toUTF8 text

/-- Whatever is refused in a text is refused in a file with that text. -/
theorem ofFile?_toUTF8_eq (file text : String) :
    ofFile? file (some text.toUTF8) = (ofText? text).mapError (.invalid file) := by
  rw [ofFile?, Option.bind_some, fromUTF8?_toUTF8]

theorem ofFile?_eq_unreadable {bytes : Option ByteArray}
    (h : ¬ ∃ content : String, bytes = some content.toUTF8) (file : String) :
    ofFile? file bytes = .error (.unreadable file) := by
  have hnone : bytes.bind String.fromUTF8? = none := by
    refine Option.eq_none_iff_forall_ne_some.mpr fun content hcontent => ?_
    obtain ⟨bytes, rfl, htext⟩ := Option.bind_eq_some_iff.mp hcontent
    exact h ⟨content, congrArg some (fromUTF8?_eq_some_iff.mp htext)⟩
  rw [ofFile?, hnone]

/-- **A file** is accepted for the text in it. -/
theorem ofFile?_eq_ok_iff {file : String} {bytes : Option ByteArray} {config : Config} :
    ofFile? file bytes = .ok config ↔
      ∃ content : String, bytes = some content.toUTF8 ∧ ofText? content = .ok config := by
  have hmapped : ∀ content, (ofText? content).mapError (ConfigError.invalid file) = .ok config ↔
      ofText? content = .ok config := by
    intro content
    cases ofText? content with
    | error e => exact iff_of_false (fun h => by cases h) (fun h => by cases h)
    | ok read => exact Iff.rfl
  by_cases hbytes : ∃ content : String, bytes = some content.toUTF8
  · obtain ⟨content, rfl⟩ := hbytes
    rw [ofFile?_toUTF8_eq, hmapped]
    constructor
    · exact fun h => ⟨content, rfl, h⟩
    · rintro ⟨content', heq, h⟩
      have : some content = some content' := by
        rw [← fromUTF8?_toUTF8 content, ← fromUTF8?_toUTF8 content', Option.some.inj heq]
      rwa [Option.some.inj this]
  · rw [ofFile?_eq_unreadable hbytes]
    constructor
    · intro h
      cases h
    · rintro ⟨content, heq, -⟩
      exact absurd ⟨content, heq⟩ hbytes

/-- How a text is decoded, and how a file is: with bytes, or with none if there is no such file. -/
structure Decoded (text file : String) (bytes : Option ByteArray) : Prop where
  /-- A text is accepted exactly if it gives fields, among them not the number zero; what is not
  given has its default. -/
  accepted : ∀ config, ofText? text = .ok config ↔
    ∃ g, GivenBy text g ∧ g.busCapacity ≠ some 0 ∧ config = g.onDefaults
  /-- A text that gives the number zero is refused for that. -/
  zero : ofText? text = .error .zeroCapacity ↔ ∃ g, GivenBy text g ∧ g.busCapacity = some 0
  /-- Every other text is refused as malformed. -/
  malformed : ofText? text = .error .malformed ↔ ¬ ∃ g, GivenBy text g
  /-- The text of an array that is not too long has the outcome of any text of the object with the
  keys of its items. -/
  arrayed : ∀ items, Value.parse? text = some (.array items) → items.length ≤ 3 →
    ∀ other, Value.parse? other = some (.object (keyed items)) → ofText? text = ofText? other
  /-- A file is accepted exactly if its bytes encode a text that is accepted. -/
  loaded : ∀ config, ofFile? file bytes = .ok config ↔
    ∃ content : String, bytes = some content.toUTF8 ∧ ofText? content = .ok config
  /-- If the text in a file is refused, the file is refused with one more context outside. -/
  nested : ∀ (content : String) (e : ConfigError), ofText? content = .error e →
    bytes = some content.toUTF8 → ∃ outer, ofFile? file bytes = .error outer ∧
      outer.contexts = ("Invalid query config: " ++ Text.quoted file) :: e.contexts
  /-- Bytes that encode no text, or their lack, are reported as such. -/
  unreadable : (¬ ∃ content : String, bytes = some content.toUTF8) →
    ofFile? file bytes = .error (.unreadable file)

/-- **The decoding of configurations.** -/
theorem decoding_law (text file : String) (bytes : Option ByteArray) : Decoded text file bytes where
  accepted _ := ofText?_eq_ok_iff_givenBy
  zero := ofText?_eq_zeroCapacity_iff
  malformed := ofText?_eq_malformed_iff
  arrayed items htext hlength other hother := by
    rw [ofText?, ofText?, htext, hother, Option.bind_some, Option.bind_some, ofJson?_array hlength]
  loaded _ := ofFile?_eq_ok_iff
  nested content e herror hbytes := by
    refine ⟨.invalid file e, ?_, rfl⟩
    rw [hbytes, ofFile?_toUTF8_eq, herror]
    rfl
  unreadable h := ofFile?_eq_unreadable h file

example : ofText? "\x7b\"event_bus_capacity\": 0, \"colour\": []\x7d" = .error .zeroCapacity := by
  cbv

end Config

end RoomSearch
