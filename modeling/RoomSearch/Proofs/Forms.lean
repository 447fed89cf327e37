import RoomSearch.Forms
import RoomSearch.Proofs.Json.Respelling

/-!
# Reading written forms

What is written for a room, an entry, a configuration or an event is read back, field by field, and
so is every other spelling of it.  For rooms, entries and configurations the other spellings are
those of a record.  An event is spelled in another way if its members are reordered, its kind
among them, if there are others between them, or if its entry is spelled in another way.

An event is taken apart before it is read: the members under the key `type` give its kind, and the
others are read as a record whose fields depend on the kind.  So a member of an event is looked at
either for the kind or for a field, and what holds of records is used for the others alone.

## Main definitions

* `Event.fieldNames` — the fields of an event of a kind.
* `Event.Respelled` — an event is spelled in another way.
* `Decodes` — what is written is read back, in every spelling.

## Main results

* `Room.ofJson?_toJson`, `Entry.ofJson?_toJson`, `Config.ofJson?_toJson`, `Event.ofJson?_toJson` —
  **what is written** is read back.
* `Event.ofJson?_respelled` — an event is read as the same in every spelling.
* `decodes_forms` — **all forms** decode what they encode.
-/

namespace RoomSearch

open Json Json.Value

/-! ### Written records -/

/-- The fields of a written record are those that it is written with. -/
theorem fields?_record {names : List String} {fields : List (String × Value)}
    (hnames : names.Nodup) (h : fields.map Prod.fst = names) :
    (record fields).fields? names = some fields := by
  have hlength : (fields.map Prod.snd).length = names.length := by
    rw [← h, List.length_map, List.length_map]
  have hzip : names.zip (fields.map Prod.snd) = fields := by
    rw [← h]
    exact (List.zip_of_prod rfl rfl).symm
  have harrayed := fields?_arrayed hnames (Nat.le_of_eq hlength)
  rw [hzip] at harrayed
  rw [record, harrayed, fields?, if_pos (Nat.le_of_eq hlength), hzip]

theorem isNatural_record (fields : List (String × Value)) :
    (record fields).IsNatural ↔ ∀ field ∈ fields, field.2.IsNatural := by
  rw [record, isNatural_object, List.forall_mem_map]

theorem isNatural_properText (s : String) : (properText s).IsNatural := by
  have hscalar : (properText s).IsScalar := rfl
  exact isNatural_of_isScalar hscalar

/-! ### Finite kinds -/

@[simp] theorem Named.ofJson?_toJson {α : Type} [Named α] (aside : Bool) (a : α) :
    Named.ofJson? aside (Named.toJson a) = some a := Named.ofName?_name a

theorem Named.ofJson?_reordered {α : Type} [Named α] (aside : Bool) {v v' : Value}
    (h : Reordered v v') : (Named.ofJson? aside v : Option α) = Named.ofJson? aside v' := by
  rw [Named.ofJson?, Named.ofJson?, name?_reordered aside h]

/-! ### Rooms -/

theorem Room.fields?_toJson (r : Room) : r.toJson.fields? Room.fieldNames =
    some [("name", properText r.name), ("identifier", properText r.identifier),
      ("auto_join", .bool r.autoJoin)] :=
  fields?_record (by decide) rfl

/-- **A written room** is read back. -/
@[simp] theorem Room.ofJson?_toJson (r : Room) : Room.ofJson? r.toJson = some r := by
  rw [Room.ofJson?, Room.fields?_toJson]
  rfl

theorem Room.readsFields_ofJson? : ReadsFields Room.fieldNames Room.ofJson? := by
  refine ⟨fun fields =>
    ((fields.lookup "name").bind text?).bind fun name =>
      ((fields.lookup "identifier").bind text?).bind fun identifier =>
        ((fields.lookup "auto_join").bind bool?).bind fun autoJoin =>
          some ⟨name, identifier, autoJoin⟩, fun v => ?_, fun fields fields' h => ?_⟩
  · simp only [Room.ofJson?, Option.bind_eq_bind, Option.bind_assoc]
  · simp only [h.bind_eq "name" fun _ _ => text?_reordered,
      h.bind_eq "identifier" fun _ _ => text?_reordered,
      h.bind_eq "auto_join" fun _ _ => bool?_reordered]

theorem Room.isNatural_toJson (r : Room) : r.toJson.IsNatural := by
  have hbool : (Value.bool r.autoJoin).IsNatural := isNatural_of_isScalar trivial
  simp only [Room.toJson, isNatural_record, List.forall_mem_cons, List.not_mem_nil, false_imp_iff,
    implies_true, isNatural_properText, hbool, and_self]

/-! ### Entries -/

theorem Entry.fields?_toJson (e : Entry) : e.toJson.fields? Entry.fieldNames =
    some [("address", properText e.address), ("identifier", properText e.identifier),
      ("provider", e.provider.toJson), ("presence", Named.toJson e.presence),
      ("auto_join", .bool e.autoJoin)] :=
  fields?_record (by decide) rfl

/-- **A written entry** is read back. -/
@[simp] theorem Entry.ofJson?_toJson (aside : Bool) (e : Entry) :
    Entry.ofJson? aside e.toJson = some e := by
  have hpresence : Named.ofJson? aside (Named.toJson e.presence) = some e.presence :=
    Named.ofJson?_toJson aside e.presence
  rw [Entry.ofJson?, Entry.fields?_toJson]
  show (Named.ofJson? aside (Named.toJson e.presence)).bind _ = _
  rw [hpresence]
  rfl

theorem ProviderId.ofJson?_reordered {v v' : Value} (h : Reordered v v') :
    ProviderId.ofJson? v = ProviderId.ofJson? v' := by
  rw [ProviderId.ofJson?, ProviderId.ofJson?, text?_reordered h]

theorem Entry.readsFields_ofJson? (aside : Bool) :
    ReadsFields Entry.fieldNames (Entry.ofJson? aside) := by
  refine ⟨fun fields =>
    ((fields.lookup "address").bind text?).bind fun address =>
      ((fields.lookup "identifier").bind text?).bind fun identifier =>
        ((fields.lookup "provider").bind ProviderId.ofJson?).bind fun provider =>
          ((fields.lookup "presence").bind (Named.ofJson? aside)).bind fun presence =>
            ((fields.lookup "auto_join").bind bool?).bind fun autoJoin =>
              some ⟨address, identifier, provider, presence, autoJoin⟩,
    fun v => ?_, fun fields fields' h => ?_⟩
  · simp only [Entry.ofJson?, Option.bind_eq_bind, Option.bind_assoc]
  · simp only [h.bind_eq "address" fun _ _ => text?_reordered,
      h.bind_eq "identifier" fun _ _ => text?_reordered,
      h.bind_eq "provider" fun _ _ => ProviderId.ofJson?_reordered,
      h.bind_eq "presence" fun _ _ => Named.ofJson?_reordered aside,
      h.bind_eq "auto_join" fun _ _ => bool?_reordered]

theorem Entry.isNatural_toJson (e : Entry) : e.toJson.IsNatural := by
  have hbool : (Value.bool e.autoJoin).IsNatural := isNatural_of_isScalar trivial
  simp only [Entry.toJson, ProviderId.toJson, Named.toJson, isNatural_record, List.forall_mem_cons,
    List.not_mem_nil, false_imp_iff, implies_true, isNatural_properText, hbool, and_self]

/-! ### Configurations -/

@[simp] theorem word?_toNat (n : UInt64) : word? n.toNat = some n := by
  rw [word?, if_pos n.toNat_lt_size, UInt64.ofNat_toNat]

theorem Config.fields?_toJson (c : Config) : c.toJson.fields? Config.fieldNames =
    some [("match_mode", Named.toJson c.matchMode),
      ("event_bus_capacity", .number (.ofNat c.busCapacity.toNat)),
      ("source_display_name", properText c.displayName)] :=
  fields?_record (by decide) rfl

/-- **A written configuration** is read back, whatever the number of events. -/
@[simp] theorem Config.ofJson?_toJson (c : Config) : Config.ofJson? c.toJson = some c := by
  have hmode : Named.ofJson? false (Named.toJson c.matchMode) = some c.matchMode :=
    Named.ofJson?_toJson false c.matchMode
  have hcapacity : (natural? (.number (.ofNat c.busCapacity.toNat))).bind word? =
      some c.busCapacity := word?_toNat c.busCapacity
  rw [Config.ofJson?, Config.fields?_toJson]
  show (Named.ofJson? false (Named.toJson c.matchMode)).bind _ = _
  rw [hmode]
  show ((natural? (.number (.ofNat c.busCapacity.toNat))).bind word?).bind _ = _
  rw [hcapacity]
  rfl

theorem fieldOr_eq {α : Type} {fields fields' : List (String × Value)}
    (h : Agree (fun _ => Reordered) fields fields') (name : String) (default : α)
    {read : Value → Option α} (hread : ∀ v v', Reordered v v' → read v = read v') :
    fieldOr fields name default read = fieldOr fields' name default read := by
  unfold fieldOr
  match fields.lookup name, fields'.lookup name, h name with
  | _, _, .none => rfl
  | _, _, .some (.inl heq) => rw [heq]
  | some v, some v', .some (.inr hv) => exact hread v v' hv

theorem Config.readsFields_ofJson? : ReadsFields Config.fieldNames Config.ofJson? := by
  refine ⟨fun fields =>
    (fieldOr fields "match_mode" Config.default.matchMode (Named.ofJson? false)).bind
      fun matchMode =>
        (fieldOr fields "event_bus_capacity" Config.default.busCapacity
          fun v => v.natural?.bind word?).bind fun busCapacity =>
            (fieldOr fields "source_display_name" Config.default.displayName text?).bind
              fun displayName => some ⟨matchMode, busCapacity, displayName⟩,
    fun v => rfl, fun fields fields' h => ?_⟩
  have hcapacity : ∀ v v' : Value, Reordered v v' →
      v.natural?.bind word? = v'.natural?.bind word? := by
    intro v v' hv
    rw [natural?_reordered hv]
  simp only [fieldOr_eq h "match_mode" _ fun _ _ => Named.ofJson?_reordered false,
    fieldOr_eq h "event_bus_capacity" _ hcapacity,
    fieldOr_eq h "source_display_name" _ fun _ _ => text?_reordered]

theorem Config.isNatural_toJson (c : Config) : c.toJson.IsNatural := by
  simp only [Config.toJson, Named.toJson, isNatural_record, List.forall_mem_cons, List.not_mem_nil,
    false_imp_iff, implies_true, isNatural_properText, isNatural_number, and_self]

/-! ### Taking an event apart -/

namespace Event

/-- The members that give the kind of an event. -/
def tags (members : List (Option String × Value)) : List (Option String × Value) :=
  members.filter fun member => member.1 == some "type"

/-- The other members. -/
def others (members : List (Option String × Value)) : List (Option String × Value) :=
  members.filter fun member => member.1 != some "type"

/-- The kind that is given, if it is given once. -/
def tag? (tags : List (Option String × Value)) : Option String :=
  match tags with
  | [(_, tag)] => tag.text?
  | _ => none

/-- Reads an event of the kind from its other fields. -/
def ofKind? (kind : String) (rest : Value) : Option (Event Uuid) :=
  match kind with
  | "result_found" =>
    (body? "entry" (Entry.ofJson? true) rest).map fun (q, e) => ⟨q, .found e⟩
  | "result_changed" =>
    (body? "entry" (Entry.ofJson? true) rest).map fun (q, e) => ⟨q, .changed e⟩
  | "result_removed" =>
    (body? "entry" (Entry.ofJson? true) rest).map fun (q, e) => ⟨q, .removed e⟩
  | "status_changed" =>
    (body? "status" (Named.ofJson? true) rest).map fun (q, s) => ⟨q, .moved s⟩
  | _ => none

/-- Reads an event that has been set aside. -/
def ofAside? (v : Value) : Option (Event Uuid) := do
  let (kind, rest) ← untag? v
  ofKind? kind rest

theorem ofJson?_eq (v : Value) :
    ofJson? v = if v.isPlain maxDepth = true then ofAside? v else none := by
  unfold ofJson?
  cases v.isPlain maxDepth <;> rfl

theorem untag?_object (members : List (Option String × Value)) : untag? (.object members) =
    (tag? (tags members)).map (·, .object (others members)) := by
  simp only [untag?, tags]
  split
  · rename_i heq
    rw [heq]
    rfl
  · rename_i hne
    unfold tag?
    split
    · rename_i heq
      exact absurd heq (hne _ _)
    · rfl

/-- An object is read by its kind and its other members. -/
theorem ofAside?_object (members : List (Option String × Value)) : ofAside? (.object members) =
    (tag? (tags members)).bind fun kind => ofKind? kind (.object (others members)) := by
  rw [ofAside?, untag?_object]
  cases tag? (tags members) <;> rfl

theorem tags_append (before after : List (Option String × Value)) :
    tags (before ++ after) = tags before ++ tags after := List.filter_append ..

theorem others_append (before after : List (Option String × Value)) :
    others (before ++ after) = others before ++ others after := List.filter_append ..

/-- A member under the key `type` is looked at for the kind. -/
theorem tags_cons_type (v : Value) (members : List (Option String × Value)) :
    tags ((some "type", v) :: members) = (some "type", v) :: tags members := rfl

theorem others_cons_type (v : Value) (members : List (Option String × Value)) :
    others ((some "type", v) :: members) = others members := rfl

/-- A member under another key is looked at for a field. -/
theorem tags_cons_of_ne {key : Option String} (hkey : key ≠ some "type") (v : Value)
    (members : List (Option String × Value)) : tags ((key, v) :: members) = tags members :=
  List.filter_cons_of_neg (by simpa using hkey)

theorem others_cons_of_ne {key : Option String} (hkey : key ≠ some "type") (v : Value)
    (members : List (Option String × Value)) :
    others ((key, v) :: members) = (key, v) :: others members :=
  List.filter_cons_of_pos (by simpa using hkey)

theorem tag?_of_length_ne {tags : List (Option String × Value)} (h : tags.length ≠ 1) :
    tag? tags = none := by
  match tags with
  | [] => rfl
  | [_] => exact absurd rfl h
  | _ :: _ :: _ => rfl

theorem tag?_of_perm {tags tags' : List (Option String × Value)} (h : tags.Perm tags') :
    tag? tags = tag? tags' := by
  by_cases hlength : tags.length = 1
  · obtain ⟨tag, rfl⟩ := List.length_eq_one_iff.mp hlength
    rw [List.perm_singleton.mp h.symm]
  · rw [tag?_of_length_ne hlength, tag?_of_length_ne (h.length_eq ▸ hlength)]

theorem tag?_middle (before after : List (Option String × Value)) (key : Option String)
    {v v' : Value} (h : v.text? = v'.text?) :
    tag? (before ++ (key, v) :: after) = tag? (before ++ (key, v') :: after) := by
  by_cases hlength : (before ++ after).length = 0
  · obtain ⟨rfl, rfl⟩ := List.append_eq_nil_iff.mp (List.length_eq_zero_iff.mp hlength)
    exact h
  · rw [tag?_of_length_ne (length_middle_ne_one hlength _),
      tag?_of_length_ne (length_middle_ne_one hlength _)]

/-- The kind is that of any member that gives one. -/
theorem tag?_eq_of_mem {tags : List (Option String × Value)} {key : Option String}
    {kind kind' : String} (hmem : (key, .text (some kind)) ∈ tags) (h : tag? tags = some kind') :
    kind' = kind := by
  have hlength : tags.length = 1 := by
    refine Decidable.byContradiction fun hne => ?_
    rw [tag?_of_length_ne hne] at h
    cases h
  obtain ⟨tag, rfl⟩ := List.length_eq_one_iff.mp hlength
  cases List.mem_singleton.mp hmem
  exact (Option.some.inj h).symm

/-! ### The fields of an event -/

/-- The fields of an event of the kind. -/
def fieldNames (kind : String) : List String :=
  if kind = "status_changed" then ["query_id", "status"] else ["query_id", "entry"]

/-- The second field is read as the same if its values are not told apart. -/
theorem body?_congr {α : Type} {R : String → Value → Value → Prop} {name : String}
    {read : Value → Option α} {v v' : Value}
    (h : Option.Rel (Agree R) (v.fields? ["query_id", name]) (v'.fields? ["query_id", name]))
    (hquery : ∀ w w', R "query_id" w w' → w.text? = w'.text?)
    (hread : ∀ w w', R name w w' → read w = read w') : body? name read v = body? name read v' := by
  have hbody : ∀ v : Value, body? name read v = (v.fields? ["query_id", name]).bind fun fields =>
      (((fields.lookup "query_id").bind text?).bind Uuid.ofText?).bind fun query =>
        ((fields.lookup name).bind read).bind fun body => some (query, body) := by
    intro v
    simp only [body?, Option.bind_eq_bind, Option.bind_assoc]
  rw [hbody, hbody]
  match v.fields? ["query_id", name], v'.fields? ["query_id", name], h with
  | _, _, .none => rfl
  | some fields, some fields', .some hagree =>
    simp only [Option.bind_some, hagree.bind_eq "query_id" hquery, hagree.bind_eq name hread]

/-- Events of one kind are read alike if the second field of that kind is. -/
theorem ofKind?_congr {kind : String} {v v' : Value}
    (hentry : kind ≠ "status_changed" →
      body? "entry" (Entry.ofJson? true) v = body? "entry" (Entry.ofJson? true) v')
    (hstatus : kind = "status_changed" →
      body? "status" (Named.ofJson? true : Value → Option Status) v =
        body? "status" (Named.ofJson? true) v') : ofKind? kind v = ofKind? kind v' := by
  unfold ofKind?
  split
  · rw [hentry (by decide)]
  · rw [hentry (by decide)]
  · rw [hentry (by decide)]
  · rw [hstatus rfl]
  · rfl

theorem ofKind?_reordered (kind : String) {v v' : Value} (h : Reordered v v') :
    ofKind? kind v = ofKind? kind v' :=
  ofKind?_congr
    (fun _ => body?_congr (fields?_reordered _ h) (fun _ _ => text?_reordered)
      fun _ _ => (Entry.readsFields_ofJson? true).reordered)
    fun _ => body?_congr (fields?_reordered _ h) (fun _ _ => text?_reordered)
      fun _ _ => Named.ofJson?_reordered true

theorem ofKind?_padded {kind key : String} (before after : List (Option String × Value)) (v : Value)
    (hkey : key ∉ fieldNames kind) : ofKind? kind (.object (before ++ after)) =
      ofKind? kind (.object (before ++ (some key, v) :: after)) := by
  refine ofKind?_congr (fun hkind => ?_) fun hkind => ?_
  · rw [fieldNames, if_neg hkind] at hkey
    rw [body?, body?, fields?_padded before after hkey]
  · rw [fieldNames, if_pos hkind] at hkey
    rw [body?, body?, fields?_padded before after hkey]

theorem ofKind?_entry (kind : String) (before after : List (Option String × Value)) {v v' : Value}
    (h : Value.Respelled Entry.fieldNames v v') :
    ofKind? kind (.object (before ++ (some "entry", v) :: after)) =
      ofKind? kind (.object (before ++ (some "entry", v') :: after)) := by
  -- only the entry differs
  have hfields : ∀ names, Option.Rel
      (Agree fun name w w' => name = "entry" ∧ Value.Respelled Entry.fieldNames w w')
      (fields? names (.object (before ++ (some "entry", v) :: after)))
      (fields? names (.object (before ++ (some "entry", v') :: after))) := by
    intro names
    refine fields?_member names before after fun name hname => ?_
    exact ⟨(Option.some.inj hname).symm, h⟩
  refine ofKind?_congr (fun _ => body?_congr (hfields _) ?_ ?_)
    fun _ => body?_congr (hfields _) ?_ ?_
  · exact fun _ _ hw => absurd hw.1 (by decide)
  · exact fun _ _ hw => (Entry.readsFields_ofJson? true).respelled (by decide) hw.2
  · exact fun _ _ hw => absurd hw.1 (by decide)
  · exact fun _ _ hw => absurd hw.1 (by decide)

/-! ### Spellings of an event -/

/-- An event is spelled in another way. -/
inductive Respelled : Value → Value → Prop where
  /-- The members of an object stand in another order. -/
  | reordered {v v' : Value} (h : Reordered v v') : Respelled v v'
  /-- There is another member, which is neither the kind nor a field of an event of the kind. -/
  | padded (before after : List (Option String × Value)) {kind key : String} {v : Value}
    (hkind : (some "type", .text (some kind)) ∈ before ++ after)
    (hkey : key ∉ "type" :: fieldNames kind) (hv : v.IsScalar) :
    Respelled (.object (before ++ after)) (.object (before ++ (some key, v) :: after))
  /-- The entry is spelled in another way. -/
  | entry (before after : List (Option String × Value)) {v v' : Value}
    (h : Value.Respelled Entry.fieldNames v v') :
    Respelled (.object (before ++ (some "entry", v) :: after))
      (.object (before ++ (some "entry", v') :: after))

theorem ofAside?_reordered {v v' : Value} (h : Reordered v v') : ofAside? v = ofAside? v' := by
  cases h with
  | @members members members' h =>
    have hothers : ∀ kind, ofKind? kind (.object (others members)) =
        ofKind? kind (.object (others members')) :=
      fun kind => ofKind?_reordered kind (.members (h.filter _))
    have htag : tag? (tags members) = tag? (tags members') := tag?_of_perm (h.filter _)
    simp only [ofAside?_object, htag, hothers]
  | @item before after v v' h =>
    -- the first item gives the kind, and the others the fields
    cases before with
    | nil =>
      simp only [List.nil_append, ofAside?, untag?, text?_reordered h]
    | cons tag before =>
      have hrest : ∀ kind, ofKind? kind (.array (before ++ v :: after)) =
          ofKind? kind (.array (before ++ v' :: after)) :=
        fun kind => ofKind?_reordered kind (.item before after h)
      simp only [List.cons_append, ofAside?, untag?]
      cases tag.text? with
      | none => rfl
      | some kind => exact hrest kind
  | @member before after key v v' h =>
    rw [ofAside?_object, ofAside?_object]
    by_cases hkey : key = some "type"
    · subst hkey
      simp only [tags_append, tags_cons_type, others_append, others_cons_type,
        tag?_middle (tags before) (tags after) (some "type") (text?_reordered h)]
    · have hothers : ∀ kind, ofKind? kind (.object (others before ++ (key, v) :: others after)) =
          ofKind? kind (.object (others before ++ (key, v') :: others after)) :=
        fun kind => ofKind?_reordered kind (.member _ _ key h)
      simp only [tags_append, tags_cons_of_ne hkey, others_append, others_cons_of_ne hkey, hothers]

theorem ofAside?_respelled {v v' : Value} (h : Respelled v v') : ofAside? v = ofAside? v' := by
  cases h with
  | reordered h => exact ofAside?_reordered h
  | @padded before after kind key v hkind hkey _ =>
    have htype : some key ≠ some "type" := fun heq =>
      hkey (List.mem_cons.mpr (.inl (Option.some.inj heq)))
    have hfield : key ∉ fieldNames kind := fun hmem => hkey (List.mem_cons_of_mem _ hmem)
    have htag : (some "type", .text (some kind)) ∈ tags (before ++ after) :=
      List.mem_filter.mpr ⟨hkind, by simp⟩
    rw [ofAside?_object, ofAside?_object]
    simp only [tags_append, tags_cons_of_ne htype, others_append, others_cons_of_ne htype]
    rw [tags_append] at htag
    cases hread : tag? (tags before ++ tags after) with
    | none => rfl
    | some kind' =>
      rw [tag?_eq_of_mem htag hread]
      exact ofKind?_padded _ _ v hfield
  | @entry before after v v' h =>
    have htype : some "entry" ≠ some "type" := by decide
    have hothers : ∀ kind,
        ofKind? kind (.object (others before ++ (some "entry", v) :: others after)) =
          ofKind? kind (.object (others before ++ (some "entry", v') :: others after)) :=
      fun kind => ofKind?_entry kind _ _ h
    simp only [ofAside?_object, tags_append, tags_cons_of_ne htype, others_append,
      others_cons_of_ne htype, hothers]

theorem isPlain_respelled (depth : Nat) {v v' : Value} (h : Respelled v v') :
    v.isPlain depth = v'.isPlain depth := by
  cases h with
  | reordered h => exact isPlain_reordered depth h
  | padded before after _ _ hv => exact isPlain_padded depth before after hv
  | entry before after h =>
    exact isPlain_member before after _ (fun depth => Value.isPlain_respelled depth h) depth

theorem isNatural_respelled {v v' : Value} (h : Respelled v v') : v.IsNatural ↔ v'.IsNatural := by
  cases h with
  | reordered h => exact isNatural_reordered h
  | padded before after _ _ hv => exact isNatural_padded before after hv
  | entry before after h =>
    simp only [isNatural_object, List.forall_mem_append, List.forall_mem_cons,
      Value.isNatural_respelled h]

/-- **An event** is read as the same in every spelling. -/
theorem ofJson?_respelled {v v' : Value} (h : Respelled v v') : ofJson? v = ofJson? v' := by
  rw [ofJson?_eq, ofJson?_eq, isPlain_respelled maxDepth h, ofAside?_respelled h]

/-! ### Written events -/

/-- The second field of an event is read from what is written for it. -/
theorem body?_record {α : Type} {name : String} (hname : "query_id" ≠ name) (query : Uuid)
    {v : Value} {read : Value → Option α} {body : α} (h : read v = some body) :
    body? name read (record [("query_id", properText query.toText), (name, v)]) =
      some (query, body) := by
  have hnames : ["query_id", name].Nodup := by simpa using hname
  have hbeq : (name == "query_id") = false := beq_eq_false_iff_ne.mpr hname.symm
  have hfields : (record [("query_id", properText query.toText), (name, v)]).fields?
      ["query_id", name] = some [("query_id", properText query.toText), (name, v)] :=
    fields?_record hnames rfl
  have htext : (properText query.toText).text? = some query.toText := rfl
  simp only [body?, hfields, List.lookup_cons, beq_self_eq_true, hbeq, Option.bind_eq_bind,
    Option.bind_some, htext, Uuid.ofText?_toText, h]

/-- An event with one field besides the query is read by its kind, if the field can be set aside
inside the object. -/
theorem ofJson?_record (kind : String) (query : Uuid) {name : String} (hname : name ≠ "type")
    {v : Value} (hv : v.isPlain 126 = true) :
    ofJson? (record [("type", properText kind), ("query_id", properText query.toText), (name, v)]) =
      ofKind? kind (record [("query_id", properText query.toText), (name, v)]) := by
  have hquery : some "query_id" ≠ some "type" := by decide
  have hfield : some name ≠ some "type" := fun heq => hname (Option.some.inj heq)
  have hplain : (record [("type", properText kind), ("query_id", properText query.toText),
      (name, v)]).isPlain maxDepth = true := by
    simp only [record, maxDepth, isPlain_object, List.map_cons, List.map_nil, List.all_cons,
      List.all_nil, hv, properText, isPlain, Option.isSome_some, Bool.and_self]
  rw [ofJson?_eq, if_pos hplain, record, List.map_cons, List.map_cons, List.map_cons, List.map_nil,
    ofAside?_object, tags_cons_type, tags_cons_of_ne hquery, tags_cons_of_ne hfield,
    others_cons_type, others_cons_of_ne hquery, others_cons_of_ne hfield]
  rfl

/-- A written entry can be set aside. -/
theorem isPlain_entry (e : Entry) : e.toJson.isPlain 126 = true := by
  simp only [Entry.toJson, ProviderId.toJson, Named.toJson, record, isPlain_object, List.map_cons,
    List.map_nil, List.all_cons, List.all_nil, properText, isPlain, Option.isSome_some,
    Bool.and_self]

/-- **A written event** is read back. -/
@[simp] theorem ofJson?_toJson (event : Event Uuid) :
    ofJson? (event.toJson Uuid.toText) = some event := by
  obtain ⟨query, news⟩ := event
  have hentry : ∀ e : Entry, body? "entry" (Entry.ofJson? true)
      (record [("query_id", properText query.toText), ("entry", e.toJson)]) = some (query, e) :=
    fun e => body?_record (by decide) query (Entry.ofJson?_toJson true e)
  have hrecord : ∀ kind (e : Entry), ofJson? (record [("type", properText kind),
      ("query_id", properText query.toText), ("entry", e.toJson)]) =
        ofKind? kind (record [("query_id", properText query.toText), ("entry", e.toJson)]) :=
    fun kind e => ofJson?_record kind query (by decide) (isPlain_entry e)
  cases news with
  | found e =>
    refine (hrecord "result_found" e).trans ?_
    simp only [ofKind?, hentry, Option.map_some]
  | changed e =>
    refine (hrecord "result_changed" e).trans ?_
    simp only [ofKind?, hentry, Option.map_some]
  | removed e =>
    refine (hrecord "result_removed" e).trans ?_
    simp only [ofKind?, hentry, Option.map_some]
  | moved status =>
    have hstatus : body? "status" (Named.ofJson? true) (record
        [("query_id", properText query.toText), ("status", Named.toJson status)]) =
          some (query, status) :=
      body?_record (by decide) query (Named.ofJson?_toJson true status)
    refine (ofJson?_record "status_changed" query (by decide) ?_).trans ?_
    · simp only [Named.toJson, properText, isPlain, Option.isSome_some]
    · simp only [ofKind?, hstatus, Option.map_some]

theorem isNatural_toJson (event : Event Uuid) : (event.toJson Uuid.toText).IsNatural := by
  obtain ⟨query, news⟩ := event
  cases news <;>
    simp only [toJson, Named.toJson, isNatural_record, List.forall_mem_cons, List.not_mem_nil,
      false_imp_iff, implies_true, isNatural_properText, Entry.isNatural_toJson, and_self]

end Event

/-! ### Decoding what was encoded -/

/-- A form decodes what it encodes.  The spellings of a value are those that are reached from it in
any number of steps, in either direction. -/
structure Decodes {α : Type} (write : α → Value) (read : Value → Option α)
    (Respelled : Value → Value → Prop) : Prop where
  /-- Every spelling of what is written, with any blanks between its tokens, is read back. -/
  decodes : ∀ (a : α) (v : Value) (text : String), Relation.EqvGen Respelled (write a) v →
    v.Spells text → (Value.parse? text).bind read = some a
  /-- What is read from the written text is written as the same text. -/
  rewrites : ∀ a : α, ((Value.parse? (write a).compact).bind read).map
    (fun read => (write read).compact) = some (write a).compact
  /-- The spellings of any value are read alike, whether or not they can be read. -/
  respelled : ∀ v v' : Value, Relation.EqvGen Respelled v v' → read v = read v'
  /-- So are the texts of two spellings, whatever blanks are in them. -/
  alike : ∀ (v v' : Value) (text text' : String), Relation.EqvGen Respelled v v' → v.IsNatural →
    v.Spells text → v'.Spells text' → (Value.parse? text).bind read = (Value.parse? text').bind read

theorem decodes_of {α : Type} {write : α → Value} {read : Value → Option α}
    {Respelled : Value → Value → Prop} (hread : ∀ a, read (write a) = some a)
    (hnatural : ∀ a, (write a).IsNatural)
    (hnaturals : ∀ v v', Respelled v v' → (v.IsNatural ↔ v'.IsNatural))
    (hreads : ∀ v v', Respelled v v' → read v = read v') : Decodes write read Respelled := by
  have hspellings : ∀ v v', Relation.EqvGen Respelled v v' →
      (v.IsNatural ↔ v'.IsNatural) ∧ read v = read v' := by
    intro v v' h
    induction h with
    | rel v v' h => exact ⟨hnaturals v v' h, hreads v v' h⟩
    | refl v => exact ⟨Iff.rfl, rfl⟩
    | symm v v' _ ih => exact ⟨ih.1.symm, ih.2.symm⟩
    | trans v v' v'' _ _ ih ih' => exact ⟨ih.1.trans ih'.1, ih.2.trans ih'.2⟩
  have halike : ∀ (v v' : Value) (text text' : String), Relation.EqvGen Respelled v v' →
      v.IsNatural → v.Spells text → v'.Spells text' →
        (Value.parse? text).bind read = (Value.parse? text').bind read := by
    intro v v' text text' h hv htext htext'
    obtain ⟨hnat, heq⟩ := hspellings v v' h
    rw [parse?_of_spells htext hv, parse?_of_spells htext' (hnat.mp hv), Option.bind_some,
      Option.bind_some, heq]
  have hwritten : ∀ a, (Value.parse? (write a).compact).bind read = some a := by
    intro a
    rw [parse?_of_spells (spells_compact _) (hnatural a), Option.bind_some, hread]
  refine ⟨fun a v text h htext => ?_, fun a => ?_, fun v v' h => (hspellings v v' h).2, halike⟩
  · rw [← halike _ v _ text h (hnatural a) (spells_compact _) htext, hwritten]
  · rw [hwritten, Option.map_some]

/-- **All forms** decode what they encode: events with their identifiers, entries, rooms and
configurations. -/
theorem decodes_forms :
    Decodes (Event.toJson Uuid.toText) Event.ofJson? Event.Respelled ∧
      Decodes Entry.toJson (Entry.ofJson? false) (Value.Respelled Entry.fieldNames) ∧
      Decodes Room.toJson Room.ofJson? (Value.Respelled Room.fieldNames) ∧
      Decodes Config.toJson Config.ofJson? (Value.Respelled Config.fieldNames) := by
  refine ⟨?event, ?entry, ?room, ?config⟩
  case event =>
    exact decodes_of Event.ofJson?_toJson Event.isNatural_toJson
      (fun _ _ => Event.isNatural_respelled) fun _ _ => Event.ofJson?_respelled
  case entry =>
    exact decodes_of (Entry.ofJson?_toJson false) Entry.isNatural_toJson
      (fun _ _ => Value.isNatural_respelled)
      fun _ _ => (Entry.readsFields_ofJson? false).respelled (by decide)
  case room =>
    exact decodes_of Room.ofJson?_toJson Room.isNatural_toJson
      (fun _ _ => Value.isNatural_respelled)
      fun _ _ => Room.readsFields_ofJson?.respelled (by decide)
  case config =>
    exact decodes_of Config.ofJson?_toJson Config.isNatural_toJson
      (fun _ _ => Value.isNatural_respelled)
      fun _ _ => Config.readsFields_ofJson?.respelled (by decide)

end RoomSearch
