import RoomSearch.Bus
import RoomSearch.Proofs.Forms

/-!
# Configurations whose bus can be built

When a configuration is read, the number of events that its bus is to keep is looked at once: it
must not be zero, since no bus can be built that keeps nothing.  No bus can be built either that
keeps more than half of the greatest machine word, and that is not looked at.  So every
configuration with a number other than zero is accepted, from its own text and from a file with
that text, and the bus can be built for those alone that ask for no more than the greatest capacity.

## Main definitions

* `Config.bus?` — the event bus of a configuration, if it can be built.

## Main results

* `Config.ofText?_compact`, `Config.ofFile?_toUTF8` — every number of events but zero is accepted.
* `Config.isSome_bus?_iff` — the configurations whose bus can be built.
* `Config.accepted_buildable_iff` — **an accepted configuration** has a bus exactly if it asks for
  no more than the greatest capacity.
* `Config.greatest_unbuildable` — the greatest number of events is accepted and has no bus.
-/

namespace RoomSearch

open Json

namespace Config

/-- The event bus of a configuration, if it can be built. -/
def bus? (config : Config) : Option (Bus (Event Uuid)) := Bus.ofCapacity? config.busCapacity.toNat

/-! ### What is accepted -/

theorem ofText?_eq_ok_iff {text : String} {config : Config} : ofText? text = .ok config ↔
    (Value.parse? text).bind ofJson? = some config ∧ config.busCapacity ≠ 0 := by
  unfold ofText?
  cases (Value.parse? text).bind ofJson? with
  | none => simp
  | some read =>
    by_cases hzero : read.busCapacity = 0
    · simp only [hzero, if_true, reduceCtorEq, Option.some.injEq, false_iff]
      rintro ⟨rfl, hne⟩
      exact hne hzero
    · simp only [hzero, if_false, Except.ok.injEq, Option.some.injEq]
      exact ⟨fun heq => ⟨heq, heq ▸ hzero⟩, And.left⟩

theorem busCapacity_ne_zero_of_ofText? {text : String} {config : Config}
    (h : ofText? text = .ok config) : config.busCapacity ≠ 0 := (ofText?_eq_ok_iff.mp h).2

/-- A file is accepted for the text in it. -/
theorem exists_ofText?_of_ofFile? {file : String} {bytes : Option ByteArray} {config : Config}
    (h : ofFile? file bytes = .ok config) : ∃ text, ofText? text = .ok config := by
  unfold ofFile? at h
  cases htext : bytes.bind String.fromUTF8? with
  | none =>
    rw [htext] at h
    cases h
  | some text =>
    rw [htext] at h
    have hmapped : (ofText? text).mapError (ConfigError.invalid file) = .ok config := h
    refine ⟨text, ?_⟩
    cases hread : ofText? text with
    | error e =>
      rw [hread] at hmapped
      cases hmapped
    | ok read =>
      rw [hread] at hmapped
      exact hmapped

/-- **A written configuration** is accepted whatever its number of events, unless that is zero. -/
theorem ofText?_compact {config : Config} (h : config.busCapacity ≠ 0) :
    ofText? config.toJson.compact = .ok config := by
  have hparse : Value.parse? config.toJson.compact = some config.toJson :=
    Value.parse?_of_spells (Value.spells_compact _) (isNatural_toJson config)
  exact ofText?_eq_ok_iff.mpr ⟨by rw [hparse, Option.bind_some, ofJson?_toJson], h⟩

theorem fromUTF8?_toUTF8 (s : String) : String.fromUTF8? s.toUTF8 = some s := by
  rw [String.fromUTF8?, String.toUTF8_eq_toByteArray, dif_pos s.isValidUTF8]
  rfl

/-- So is a file with the text of the configuration. -/
theorem ofFile?_toUTF8 (file : String) {config : Config} (h : config.busCapacity ≠ 0) :
    ofFile? file (some config.toJson.compact.toUTF8) = .ok config := by
  simp only [ofFile?, Option.bind_some, fromUTF8?_toUTF8, ofText?_compact h]
  rfl

/-! ### What can be built -/

theorem isSome_bus?_iff (config : Config) : config.bus?.isSome = true ↔
    config.busCapacity ≠ 0 ∧ config.busCapacity.toNat ≤ Bus.maxCapacity := by
  have hzero : config.busCapacity = 0 ↔ config.busCapacity.toNat = 0 :=
    ⟨fun h => by rw [h]; rfl, fun h => UInt64.toNat_inj.mp h⟩
  unfold bus? Bus.ofCapacity?
  rw [ne_eq, hzero]
  split <;> rename_i h <;> simp <;> omega

/-- **An accepted configuration** has a bus exactly if it asks for no more than the greatest
capacity, whether it is accepted from a text or from a file. -/
theorem accepted_buildable_iff (config : Config) :
    ((∀ text, ofText? text = .ok config → config.bus?.isSome = true) ↔
        config.busCapacity.toNat ≤ Bus.maxCapacity) ∧
      ((∀ file bytes, ofFile? file bytes = .ok config → config.bus?.isSome = true) ↔
        config.busCapacity.toNat ≤ Bus.maxCapacity) := by
  by_cases hzero : config.busCapacity = 0
  · -- zero is refused, so nothing is asked of it
    have hle : config.busCapacity.toNat ≤ Bus.maxCapacity := by
      rw [hzero]
      exact Nat.zero_le _
    refine ⟨iff_of_true (fun text htext => ?_) hle, iff_of_true (fun file bytes hfile => ?_) hle⟩
    · exact absurd hzero (busCapacity_ne_zero_of_ofText? htext)
    · obtain ⟨text, htext⟩ := exists_ofText?_of_ofFile? hfile
      exact absurd hzero (busCapacity_ne_zero_of_ofText? htext)
  · have hbus : config.bus?.isSome = true ↔ config.busCapacity.toNat ≤ Bus.maxCapacity :=
      (isSome_bus?_iff config).trans (and_iff_right hzero)
    rw [← hbus]
    exact ⟨⟨fun h => h _ (ofText?_compact hzero), fun h _ _ => h⟩,
      ⟨fun h => h "" _ (ofFile?_toUTF8 "" hzero), fun h _ _ _ => h⟩⟩

/-- The greatest number of events that a configuration can ask for is accepted from a text, and no
bus can be built for it. -/
theorem greatest_unbuildable :
    ofText? "\x7b\"event_bus_capacity\":18446744073709551615\x7d" =
        .ok { default with busCapacity := 18446744073709551615 } ∧
      bus? { default with busCapacity := 18446744073709551615 } = none := by
  refine ⟨?_, by decide⟩
  have hnatural :
      (record [("event_bus_capacity", .number (.ofNat 18446744073709551615))]).IsNatural :=
    (isNatural_record _).mpr (List.forall_mem_singleton.mpr (Value.isNatural_number _))
  have hparse : Value.parse? "\x7b\"event_bus_capacity\":18446744073709551615\x7d" =
      some (record [("event_bus_capacity", .number (.ofNat 18446744073709551615))]) :=
    Value.parse?_of_spells (Value.spells_compact _) hnatural
  rw [ofText?, hparse]
  rfl

end Config

end RoomSearch
