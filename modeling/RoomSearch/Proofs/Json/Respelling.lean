import Mathlib.Logic.Relation
import RoomSearch.Json.Record
import RoomSearch.Proofs.Json.Scanning

/-!
# Spellings of a record

A record may be spelled in more than one way: the members of an object may stand in any order,
members that are no fields of the record may stand between them, and the values alone may stand in
an array.  What is read is the same, since a record is read from its fields only, and each field
from its value only.

## Main definitions

* `Value.Reordered` — the members of one object in a value stand in another order.
* `Value.Respelled` — a record is spelled in another way.
* `Value.Agree` — the fields of two records have the same values, or related ones.
* `Value.ReadsFields` — a record is read from its fields.

## Main results

* `Value.fields?_reordered`, `Value.fields?_padded`, `Value.fields?_arrayed` — the fields of the
  spellings of a record agree.
* `Value.ReadsFields.respelled` — **a record** is read as the same in every spelling.
* `Value.isPlain_respelled`, `Value.isNatural_respelled` — the spellings of a record can be set
  aside alike, and have natural numbers alike.
-/

namespace RoomSearch.Json.Value

/-- A value of its own, without parts: the absent value, a truth value or a proper text. -/
def IsScalar : Value → Prop
  | .null => True
  | .bool _ => True
  | .text s => s.isSome = true
  | _ => False

/-- The members of one object, somewhere in the value, stand in another order. -/
inductive Reordered : Value → Value → Prop where
  /-- The object is the value itself. -/
  | members {members members' : List (Option String × Value)} (h : members.Perm members') :
    Reordered (.object members) (.object members')
  /-- The object stands in an item of an array. -/
  | item (before after : List Value) {v v' : Value} (h : Reordered v v') :
    Reordered (.array (before ++ v :: after)) (.array (before ++ v' :: after))
  /-- The object stands in a member of another object. -/
  | member (before after : List (Option String × Value)) (key : Option String) {v v' : Value}
    (h : Reordered v v') :
    Reordered (.object (before ++ (key, v) :: after)) (.object (before ++ (key, v') :: after))

/-- A record with the named fields is spelled in another way. -/
inductive Respelled (names : List String) : Value → Value → Prop where
  /-- The members of an object stand in another order. -/
  | reordered {v v' : Value} (h : Reordered v v') : Respelled names v v'
  /-- There is another member in the object, which is no field of the record. -/
  | padded (before after : List (Option String × Value)) {key : String} {v : Value}
    (hkey : key ∉ names) (hv : v.IsScalar) :
    Respelled names (.object (before ++ after)) (.object (before ++ (some key, v) :: after))
  /-- The values of all fields stand in an array. -/
  | arrayed {items : List Value} (h : items.length = names.length) :
    Respelled names (.object ((names.zip items).map fun (key, v) => (some key, v))) (.array items)

/-! ### The fields of an object -/

/-- A member with its key, if that is a proper text. -/
def named? (member : Option String × Value) : Option (String × Value) :=
  member.1.map (·, member.2)

/-- The members of an object that are fields with the given names. -/
def given (names : List String) (members : List (Option String × Value)) : List (String × Value) :=
  (members.filterMap named?).filter fun field => names.contains field.1

/-- All keys are proper texts. -/
def ProperKeys (members : List (Option String × Value)) : Prop :=
  ∀ member ∈ members, member.1.isSome = true

instance (members : List (Option String × Value)) : Decidable (ProperKeys members) :=
  inferInstanceAs (Decidable (∀ member ∈ members, member.1.isSome = true))

theorem properKeys_cons {member : Option String × Value} {members : List (Option String × Value)} :
    ProperKeys (member :: members) ↔ member.1.isSome = true ∧ ProperKeys members :=
  List.forall_mem_cons

theorem mapM_named? (members : List (Option String × Value)) :
    members.mapM named? = if ProperKeys members then some (members.filterMap named?) else none := by
  induction members with
  | nil => rfl
  | cons member members ih =>
    obtain ⟨key, v⟩ := member
    rw [List.mapM_cons, ih]
    cases key with
    | none =>
      have hkey : ¬ ProperKeys ((none, v) :: members) := fun h =>
        Bool.false_ne_true (properKeys_cons.mp h).1
      rw [if_neg hkey]
      rfl
    | some key =>
      by_cases h : ProperKeys members
      · rw [if_pos h, if_pos (properKeys_cons.mpr ⟨rfl, h⟩)]
        rfl
      · rw [if_neg h, if_neg fun hcons => h (properKeys_cons.mp hcons).2]
        rfl

/-- The fields of an object are the members with their names. -/
theorem fields?_object (names : List String) (members : List (Option String × Value)) :
    fields? names (.object members) =
      if ProperKeys members ∧ ((given names members).map Prod.fst).Nodup then
        some (given names members)
      else none := by
  have hfields : fields? names (.object members) = (members.mapM named?).bind fun named =>
      let fields := named.filter fun field => names.contains field.1
      if (fields.map Prod.fst).Nodup then some fields else none := rfl
  rw [hfields, mapM_named?]
  by_cases h : ProperKeys members
  · simp only [h, if_true, true_and, Option.bind_some, given]
  · simp only [h, if_false, false_and, Option.bind_none]

/-- The fields of two objects are related if the members are that count as fields. -/
theorem rel_fields?_object {P : List (String × Value) → List (String × Value) → Prop}
    {names : List String} {members members' : List (Option String × Value)}
    (hkeys : ProperKeys members ↔ ProperKeys members')
    (hnodup : ((given names members).map Prod.fst).Nodup ↔
      ((given names members').map Prod.fst).Nodup)
    (h : ((given names members).map Prod.fst).Nodup →
      P (given names members) (given names members')) :
    Option.Rel P (fields? names (.object members)) (fields? names (.object members')) := by
  rw [fields?_object, fields?_object]
  by_cases hgiven : ProperKeys members ∧ ((given names members).map Prod.fst).Nodup
  · rw [if_pos hgiven, if_pos ⟨hkeys.mp hgiven.1, hnodup.mp hgiven.2⟩]
    exact .some (h hgiven.2)
  · rw [if_neg hgiven, if_neg fun h => hgiven ⟨hkeys.mpr h.1, hnodup.mpr h.2⟩]
    exact .none

theorem given_append (names : List String) (before after : List (Option String × Value)) :
    given names (before ++ after) = given names before ++ given names after := by
  simp [given]

theorem given_cons (names : List String) (member : Option String × Value)
    (members : List (Option String × Value)) :
    given names (member :: members) = given names [member] ++ given names members :=
  given_append names [member] members

/-- A member under the name of a field is a field. -/
theorem given_of_mem {names : List String} {name : String} (h : name ∈ names) (v : Value) :
    given names [(some name, v)] = [(name, v)] :=
  List.filter_cons_of_pos (List.contains_iff_mem.mpr h)

/-- A member under another key is passed over. -/
theorem given_of_not_mem {names : List String} {key : String} (h : key ∉ names) (v : Value) :
    given names [(some key, v)] = [] :=
  List.filter_cons_of_neg fun hcontains => h (List.contains_iff_mem.mp hcontains)

/-! ### Fields that agree -/

/-- The fields with one name have the same value, or values that the relation allows. -/
def Agree (R : String → Value → Value → Prop) (fields fields' : List (String × Value)) : Prop :=
  ∀ name, Option.Rel (fun v v' => v = v' ∨ R name v v') (fields.lookup name) (fields'.lookup name)

variable {R : String → Value → Value → Prop}

theorem agree_of_lookup_eq {fields fields' : List (String × Value)}
    (h : ∀ name, fields.lookup name = fields'.lookup name) : Agree R fields fields' := by
  intro name
  rw [h name]
  cases fields'.lookup name with
  | none => exact .none
  | some v => exact .some (.inl rfl)

theorem Agree.refl (fields : List (String × Value)) : Agree R fields fields :=
  agree_of_lookup_eq fun _ => rfl

theorem lookup_eq_some_iff_mem {fields : List (String × Value)} (h : (fields.map Prod.fst).Nodup)
    (name : String) (v : Value) : fields.lookup name = some v ↔ (name, v) ∈ fields := by
  induction fields with
  | nil => simp
  | cons field fields ih =>
    obtain ⟨key, w⟩ := field
    rw [List.map_cons, List.nodup_cons] at h
    rw [List.lookup_cons, List.mem_cons, Prod.mk.injEq]
    by_cases hname : name = key
    · subst hname
      have hlater : (name, v) ∉ fields := fun hmem => h.1 (List.mem_map.mpr ⟨_, hmem, rfl⟩)
      simp only [beq_self_eq_true, Option.some.injEq, true_and, hlater, or_false, eq_comm]
    · have hbeq : (name == key) = false := beq_eq_false_iff_ne.mpr hname
      simp only [hbeq, hname, false_and, false_or, ih h.2]

/-- The order of fields with different names does not matter. -/
theorem agree_of_perm {fields fields' : List (String × Value)} (h : fields.Perm fields')
    (hnodup : (fields.map Prod.fst).Nodup) : Agree R fields fields' := by
  refine agree_of_lookup_eq fun name => Option.ext fun v => ?_
  rw [lookup_eq_some_iff_mem hnodup,
    lookup_eq_some_iff_mem ((h.map Prod.fst).nodup_iff.mp hnodup), h.mem_iff]

/-- One field may have a related value. -/
theorem agree_middle (before after : List (String × Value)) {name : String} {v v' : Value}
    (h : R name v v') : Agree R (before ++ (name, v) :: after) (before ++ (name, v') :: after) := by
  intro wanted
  rw [List.lookup_append, List.lookup_append]
  cases before.lookup wanted with
  | some w => exact .some (.inl rfl)
  | none =>
    rw [Option.none_or, Option.none_or, List.lookup_cons, List.lookup_cons]
    by_cases hname : wanted = name
    · subst hname
      simp only [beq_self_eq_true]
      exact .some (.inr h)
    · have hbeq : (wanted == name) = false := beq_eq_false_iff_ne.mpr hname
      simp only [hbeq]
      exact Agree.refl after wanted

/-- What is read from a field is the same if the reader does not tell the values apart. -/
theorem Agree.bind_eq {α : Type} {fields fields' : List (String × Value)}
    (h : Agree R fields fields') (name : String) {read : Value → Option α}
    (hread : ∀ v v', R name v v' → read v = read v') :
    (fields.lookup name).bind read = (fields'.lookup name).bind read := by
  match fields.lookup name, fields'.lookup name, h name with
  | _, _, .none => rfl
  | _, _, .some (.inl heq) => rw [heq]
  | some v, some v', .some (.inr hv) => exact hread v v' hv

/-! ### The fields of a spelling -/

theorem properKeys_of_perm {members members' : List (Option String × Value)}
    (h : members.Perm members') : ProperKeys members ↔ ProperKeys members' :=
  ⟨fun hkeys member hmem => hkeys member (h.mem_iff.mpr hmem),
    fun hkeys member hmem => hkeys member (h.mem_iff.mp hmem)⟩

theorem properKeys_middle {before after : List (Option String × Value)}
    {member : Option String × Value} : ProperKeys (before ++ member :: after) ↔
      member.1.isSome = true ∧ ProperKeys (before ++ after) :=
  (properKeys_of_perm List.perm_middle).trans properKeys_cons

/-- **A member with another value** makes one field different, if it is a field. -/
theorem fields?_member (names : List String) (before after : List (Option String × Value))
    {key : Option String} {v v' : Value} (h : ∀ name, key = some name → R name v v') :
    Option.Rel (Agree R) (fields? names (.object (before ++ (key, v) :: after)))
      (fields? names (.object (before ++ (key, v') :: after))) := by
  -- the key decides whether the member is a field
  have hgiven : (∀ w, given names [(key, w)] = []) ∨
      ∃ name, key = some name ∧ ∀ w, given names [(key, w)] = [(name, w)] := by
    cases key with
    | none => exact .inl fun _ => rfl
    | some name =>
      by_cases hname : name ∈ names
      · exact .inr ⟨name, rfl, given_of_mem hname⟩
      · exact .inl (given_of_not_mem hname)
  have hobject : ∀ w, given names (before ++ (key, w) :: after) =
      given names before ++ (given names [(key, w)] ++ given names after) := by
    intro w
    rw [given_append, given_cons]
  have hkeys : ∀ w, ProperKeys (before ++ (key, w) :: after) ↔
      key.isSome = true ∧ ProperKeys (before ++ after) := fun w => properKeys_middle
  refine rel_fields?_object ((hkeys v).trans (hkeys v').symm) ?_ fun _ => ?_
  · rcases hgiven with hgiven | ⟨name, -, hgiven⟩
    · rw [hobject, hobject, hgiven, hgiven]
    · rw [hobject, hobject, hgiven, hgiven]
      simp only [List.map_append, List.map_cons, List.map_nil]
  · rcases hgiven with hgiven | ⟨name, hname, hgiven⟩
    · rw [hobject, hobject, hgiven, hgiven]
      exact Agree.refl _
    · rw [hobject, hobject, hgiven, hgiven]
      exact agree_middle _ _ (h name hname)

/-- An item of an array is the value of a field, or of none. -/
theorem zip_middle (names : List String) (before after : List Value) :
    (∀ v v', names.zip (before ++ v :: after) = names.zip (before ++ v' :: after)) ∨
      ∃ name fields fields', ∀ v,
        names.zip (before ++ v :: after) = fields ++ (name, v) :: fields' := by
  induction before generalizing names with
  | nil =>
    cases names with
    | nil => exact .inl fun _ _ => rfl
    | cons name names => exact .inr ⟨name, [], names.zip after, fun _ => rfl⟩
  | cons item before ih =>
    cases names with
    | nil => exact .inl fun _ _ => rfl
    | cons name names =>
      rcases ih names with hsame | ⟨found, fields, fields', hmiddle⟩
      · exact .inl fun v v' => congrArg ((name, item) :: ·) (hsame v v')
      · exact .inr ⟨found, (name, item) :: fields, fields', fun v =>
          congrArg ((name, item) :: ·) (hmiddle v)⟩

/-- **Another item** makes one field different, if its place is that of a field. -/
theorem fields?_item (names : List String) (before after : List Value) {v v' : Value}
    (h : ∀ name, R name v v') :
    Option.Rel (Agree R) (fields? names (.array (before ++ v :: after)))
      (fields? names (.array (before ++ v' :: after))) := by
  have hlength : (before ++ v' :: after).length = (before ++ v :: after).length := by
    simp only [List.length_append, List.length_cons]
  simp only [fields?, hlength]
  split
  · refine .some ?_
    rcases zip_middle names before after with hsame | ⟨name, fields, fields', hmiddle⟩
    · rw [hsame v v']
      exact Agree.refl _
    · rw [hmiddle v, hmiddle v']
      exact agree_middle fields fields' (h name)
  · exact .none

/-- Where the members of an object stand in another order, the fields have the same values, but for
the order of members within them. -/
theorem fields?_reordered (names : List String) {v v' : Value} (h : Reordered v v') :
    Option.Rel (Agree fun _ => Reordered) (v.fields? names) (v'.fields? names) := by
  cases h with
  | members h =>
    have hgiven := (h.filterMap named?).filter fun field => names.contains field.1
    exact rel_fields?_object (properKeys_of_perm h) (hgiven.map Prod.fst).nodup_iff
      fun hnodup => agree_of_perm hgiven hnodup
  | item before after h => exact fields?_item names before after fun _ => h
  | member before after key h => exact fields?_member names before after fun _ _ => h

/-- A member that is no field is passed over. -/
theorem fields?_padded {names : List String} (before after : List (Option String × Value))
    {key : String} {v : Value} (hkey : key ∉ names) :
    fields? names (.object (before ++ after)) =
      fields? names (.object (before ++ (some key, v) :: after)) := by
  have hgiven : given names (before ++ (some key, v) :: after) = given names (before ++ after) := by
    rw [given_append, given_cons, given_of_not_mem hkey, List.nil_append, given_append]
  have hkeys : ProperKeys (before ++ (some key, v) :: after) ↔ ProperKeys (before ++ after) :=
    properKeys_middle.trans ⟨And.right, fun h => ⟨rfl, h⟩⟩
  simp only [fields?_object, hgiven, hkeys]

/-- The names that stand beside items are the first ones. -/
theorem map_fst_zip_isPrefix (names : List String) (items : List Value) :
    (names.zip items).map Prod.fst <+: names := by
  induction names generalizing items with
  | nil => exact List.prefix_rfl
  | cons name names ih =>
    cases items with
    | nil => exact List.nil_prefix
    | cons item items => exact List.cons_prefix_cons.mpr ⟨rfl, ih items⟩

/-- The values in an array are those of the first fields in the order of their declaration. -/
theorem fields?_arrayed {names : List String} (hnames : names.Nodup) {items : List Value}
    (h : items.length ≤ names.length) :
    fields? names (.object ((names.zip items).map fun (key, v) => (some key, v))) =
      fields? names (.array items) := by
  have hgiven : given names ((names.zip items).map fun (key, v) => (some key, v)) =
      names.zip items := by
    rw [given, List.filterMap_map]
    have hnamed : named? ∘ (fun (key, v) => (some key, v)) =
        (some : String × Value → Option (String × Value)) := rfl
    rw [hnamed, List.filterMap_some, List.filter_eq_self]
    exact fun field hmem => List.contains_iff_mem.mpr (List.of_mem_zip hmem).1
  have hproper : ProperKeys ((names.zip items).map fun (key, v) => (some key, v)) := by
    intro member hmem
    obtain ⟨field, -, rfl⟩ := List.mem_map.mp hmem
    rfl
  have hnodup : ((names.zip items).map Prod.fst).Nodup :=
    (map_fst_zip_isPrefix names items).sublist.nodup hnames
  rw [fields?_object, hgiven, if_pos ⟨hproper, hnodup⟩, fields?, if_pos h]

/-! ### Reading a record -/

/-- A record is read from its fields, whatever the order of members within their values. -/
def ReadsFields {α : Type} (names : List String) (read : Value → Option α) : Prop :=
  ∃ body : List (String × Value) → Option α, (∀ v, read v = (v.fields? names).bind body) ∧
    ∀ fields fields', Agree (fun _ => Reordered) fields fields' → body fields = body fields'

variable {α : Type} {names : List String} {read : Value → Option α}

theorem ReadsFields.reordered (h : ReadsFields names read) {v v' : Value} (hv : Reordered v v') :
    read v = read v' := by
  obtain ⟨body, hread, hbody⟩ := h
  rw [hread, hread]
  match v.fields? names, v'.fields? names, fields?_reordered names hv with
  | _, _, .none => rfl
  | some fields, some fields', .some hagree => exact hbody fields fields' hagree

/-- **A record** is read as the same in every spelling. -/
theorem ReadsFields.respelled (h : ReadsFields names read) (hnames : names.Nodup) {v v' : Value}
    (hv : Respelled names v v') : read v = read v' := by
  cases hv with
  | reordered hv => exact h.reordered hv
  | padded before after hkey _ =>
    obtain ⟨body, hread, -⟩ := h
    rw [hread, hread, fields?_padded before after hkey]
  | arrayed hlength =>
    obtain ⟨body, hread, -⟩ := h
    rw [hread, hread, fields?_arrayed hnames (Nat.le_of_eq hlength)]

/-! ### Reading a scalar -/

section Scalars

variable {v v' : Value}

theorem text?_reordered (h : Reordered v v') : v.text? = v'.text? := by cases h <;> rfl

theorem bool?_reordered (h : Reordered v v') : v.bool? = v'.bool? := by cases h <;> rfl

theorem natural?_reordered (h : Reordered v v') : v.natural? = v'.natural? := by cases h <;> rfl

theorem isNothing_object (aside : Bool) (members : List (Option String × Value)) :
    isNothing aside (.object members) = (members.isEmpty && aside) := by
  cases members <;> rfl

theorem isNothing_reordered (aside : Bool) (h : Reordered v v') :
    v.isNothing aside = v'.isNothing aside := by
  cases h with
  | members h => rw [isNothing_object, isNothing_object, h.isEmpty_eq]
  | item => rfl
  | member before after key =>
    have hne : ∀ w, (before ++ (key, w) :: after).isEmpty = false := fun w =>
      List.isEmpty_eq_false_iff.mpr (List.append_ne_nil_of_right_ne_nil _ (List.cons_ne_nil _ _))
    rw [isNothing_object, isNothing_object, hne, hne]

/-- A member among others is not the only one. -/
theorem length_middle_ne_one {before after : List (Option String × Value)}
    (h : (before ++ after).length ≠ 0) (member : Option String × Value) :
    (before ++ member :: after).length ≠ 1 := by
  simp only [List.length_append, List.length_cons] at h ⊢
  omega

theorem name?_object_of_length_ne {aside : Bool} {members : List (Option String × Value)}
    (h : members.length ≠ 1) : name? aside (.object members) = none := by
  match members with
  | [] => rfl
  | [_] => exact absurd rfl h
  | (none, _) :: _ :: _ => rfl
  | (some _, _) :: _ :: _ => rfl

theorem name?_reordered (aside : Bool) (h : Reordered v v') : v.name? aside = v'.name? aside := by
  cases h with
  | @members members members' h =>
    by_cases hlength : members.length = 1
    · obtain ⟨member, rfl⟩ := List.length_eq_one_iff.mp hlength
      rw [List.perm_singleton.mp h.symm]
    · rw [name?_object_of_length_ne hlength,
        name?_object_of_length_ne (h.length_eq ▸ hlength)]
  | item => rfl
  | member before after key h =>
    by_cases hlength : (before ++ after).length = 0
    · obtain ⟨rfl, rfl⟩ := List.append_eq_nil_iff.mp (List.length_eq_zero_iff.mp hlength)
      cases key with
      | none => rfl
      | some key => simp only [List.nil_append, name?, isNothing_reordered aside h]
    · rw [name?_object_of_length_ne (length_middle_ne_one hlength _),
        name?_object_of_length_ne (length_middle_ne_one hlength _)]

end Scalars

/-! ### Setting a record aside -/

/-- A value of its own can be set aside at any depth. -/
theorem isPlain_of_isScalar {v : Value} (h : v.IsScalar) (depth : Nat) :
    v.isPlain depth = true := by
  cases v with
  | null => cases depth <;> rfl
  | bool => cases depth <;> rfl
  | text s => cases depth <;> exact h
  | number | array | object => exact h.elim

theorem isPlain_array (depth : Nat) (items : List Value) :
    isPlain (depth + 1) (.array items) = items.all (isPlain depth) := rfl

theorem isPlain_object (depth : Nat) (members : List (Option String × Value)) :
    isPlain (depth + 1) (.object members) =
      members.all fun member => member.1.isSome && isPlain depth member.2 := rfl

theorem isPlain_member (before after : List (Option String × Value)) (key : Option String)
    {v v' : Value} (h : ∀ depth, v.isPlain depth = v'.isPlain depth) (depth : Nat) :
    isPlain depth (.object (before ++ (key, v) :: after)) =
      isPlain depth (.object (before ++ (key, v') :: after)) := by
  cases depth with
  | zero => rfl
  | succ depth =>
    rw [isPlain_object, isPlain_object, List.all_append, List.all_append, List.all_cons,
      List.all_cons, h]

theorem isPlain_reordered (depth : Nat) {v v' : Value} (h : Reordered v v') :
    v.isPlain depth = v'.isPlain depth := by
  induction h generalizing depth with
  | members h =>
    cases depth with
    | zero => rfl
    | succ depth => rw [isPlain_object, isPlain_object, h.all_eq]
  | item before after _ ih =>
    cases depth with
    | zero => rfl
    | succ depth =>
      rw [isPlain_array, isPlain_array, List.all_append, List.all_append, List.all_cons,
        List.all_cons, ih]
  | member before after key _ ih => exact isPlain_member before after key ih depth

/-- The member that is no field can always be set aside. -/
theorem isPlain_padded (depth : Nat) (before after : List (Option String × Value)) {key : String}
    {v : Value} (hv : v.IsScalar) : isPlain depth (.object (before ++ after)) =
      isPlain depth (.object (before ++ (some key, v) :: after)) := by
  cases depth with
  | zero => rfl
  | succ depth =>
    rw [isPlain_object, isPlain_object, List.all_append, List.all_append, List.all_cons,
      isPlain_of_isScalar hv, Option.isSome_some, Bool.and_true, Bool.true_and]

/-- **The spellings** of a record can be set aside alike. -/
theorem isPlain_respelled (depth : Nat) {names : List String} {v v' : Value}
    (h : Respelled names v v') : v.isPlain depth = v'.isPlain depth := by
  cases h with
  | reordered h => exact isPlain_reordered depth h
  | padded before after _ hv => exact isPlain_padded depth before after hv
  | @arrayed items hlength =>
    cases depth with
    | zero => rfl
    | succ depth =>
      have hitems : (names.zip items).map Prod.snd = items :=
        List.map_snd_zip (Nat.le_of_eq hlength)
      rw [isPlain_object, isPlain_array, List.all_map]
      conv => rhs; rw [← hitems, List.all_map]
      rfl

/-! ### The numbers of a record -/

theorem isNatural_of_isScalar {v : Value} (h : v.IsScalar) : v.IsNatural := by
  cases v with
  | null | bool | text => simp [IsNatural, tokens, Token.IsNatural]
  | number | array | object => exact h.elim

theorem isNatural_reordered {v v' : Value} (h : Reordered v v') : v.IsNatural ↔ v'.IsNatural := by
  induction h with
  | members h => simp only [isNatural_object, h.mem_iff]
  | item before after _ ih =>
    simp only [isNatural_array, List.forall_mem_append, List.forall_mem_cons, ih]
  | member before after key _ ih =>
    simp only [isNatural_object, List.forall_mem_append, List.forall_mem_cons, ih]

theorem isNatural_padded (before after : List (Option String × Value)) {key : String} {v : Value}
    (hv : v.IsScalar) : (object (before ++ after)).IsNatural ↔
      (object (before ++ (some key, v) :: after)).IsNatural := by
  simp only [isNatural_object, List.forall_mem_append, List.forall_mem_cons,
    isNatural_of_isScalar hv, true_and]

/-- **The spellings** of a record have natural numbers alike. -/
theorem isNatural_respelled {names : List String} {v v' : Value} (h : Respelled names v v') :
    v.IsNatural ↔ v'.IsNatural := by
  cases h with
  | reordered h => exact isNatural_reordered h
  | padded before after _ hv => exact isNatural_padded before after hv
  | @arrayed items hlength =>
    have hitems : (names.zip items).map Prod.snd = items :=
      List.map_snd_zip (Nat.le_of_eq hlength)
    rw [isNatural_object, isNatural_array]
    conv => rhs; rw [← hitems]
    simp only [List.forall_mem_map]

end RoomSearch.Json.Value
