import LayerGraph.Proofs.Setting.Given
import Mathlib.Data.List.Nodup

/-! # A setting more

    A setting that is left out has its standard value (`get?_of_not_given`). If it is given after
    all, with a value that passes its check, then the settings are those from before but for this
    one (`parseValue_set`).
-/

namespace LayerGraph.Schema

/-- What is checked of a field is what stands under its key. -/
theorem fieldValue_congr {merged other : Entries} {field : SettingField}
    (h : merged.get? field.key = other.get? field.key) :
    fieldValue merged field = fieldValue other field ∧
      fieldFaults merged field = fieldFaults other field := by
  unfold fieldValue fieldFaults
  rw [h]
  exact ⟨rfl, rfl⟩

section agree
variable {schema : Schema} {nodeType : String} {given other settings : Entries}
  (hkeys : schema.keys.Nodup)
  (h : schema.parseValue nodeType (.ofEntries given) = .ok settings)
  {field : SettingField} (hfield : field ∈ schema)
include hkeys h hfield

/-- If other settings have a value that passes its check under one key, and are laid over the
    standard values like the given ones under all others, this setting changes and no other one. -/
theorem parseValue_of_agree {v w : Value} (hnull : v ≠ .null) (hcheck : field.shape.check v = .ok w)
    (hself : (merge schema.standards other).get? field.key = some v)
    (hothers : ∀ key, key ≠ field.key →
      (merge schema.standards other).get? key = (merge schema.standards given).get? key)
    (hknown : ∀ entry ∈ other, entry.1 = field.key ∨ entry ∈ given) :
    schema.parseValue nodeType (.ofEntries other) = .ok (settings.set field.key w) := by
  rw [Value.ofEntries, parseValue, named_ofEntries] at h ⊢
  obtain ⟨habsent, hfaults, hstrangers, rfl⟩ := checkMerged_eq_ok_iff.1 (Result.mapError_eq_ok.1 h)
  have hown : fieldValue (merge schema.standards other) field = (field.key, w) ∧
      fieldFaults (merge schema.standards other) field = [] := by
    unfold fieldValue fieldFaults
    rw [hself, Option.getD_some, hcheck]
    exact ⟨rfl, rfl⟩
  -- a schema has one field for each key
  have hcases {another : SettingField} (hanother : another ∈ schema) :
      another = field ∨ another.key ≠ field.key :=
    (Decidable.em (another.key = field.key)).imp
      (List.inj_on_of_nodup_map hkeys hanother hfield) id
  refine Result.mapError_eq_ok.2 (checkMerged_eq_ok_iff.2 ⟨?absent, ?faults, ?strangers, ?values⟩)
  case absent =>
    refine List.filter_eq_nil_iff.2 fun key hkey => ?_
    have hpresent := List.filter_eq_nil_iff.1 habsent key hkey
    by_cases hne : key = field.key
    · subst hne
      unfold isAbsent
      rw [hself]
      cases v with
      | null => exact absurd rfl hnull
      | _ => simp
    · unfold isAbsent at hpresent ⊢
      rwa [hothers key hne]
  case faults =>
    intro another hanother
    rcases hcases hanother with rfl | hne
    · exact hown.2
    · rw [(fieldValue_congr (hothers _ hne)).2]
      exact hfaults another hanother
  case strangers =>
    have hmem : schema.keys.contains field.key = true :=
      List.contains_iff_mem.2 (List.mem_map_of_mem hfield)
    rw [List.filterMap_eq_nil_iff] at hstrangers ⊢
    refine List.forall_mem_map.2 fun entry hentry => ?_
    rcases hknown entry hentry with hkey | hgiven
    · unfold strangerOf
      rw [Value.text?]
      simp only [hkey, hmem, if_true]
    · exact hstrangers _ (List.mem_map_of_mem hgiven)
  case values =>
    have hmem : (schema.map (fieldValue (merge schema.standards given))).any
        (·.1 == field.key) = true :=
      List.any_eq_true.2 ⟨_, List.mem_map_of_mem hfield, by simp [key_fieldValue]⟩
    rw [Entries.set_of_mem w hmem, List.map_map]
    refine List.map_congr_left fun another hanother => ?_
    rw [Function.comp_apply, key_fieldValue]
    rcases hcases hanother with rfl | hne
    · rw [hown.1, beq_self_eq_true, if_pos rfl]
    · rw [beq_false_of_ne hne, (fieldValue_congr (hothers _ hne)).1]
      rfl

end agree

section add
variable {schema : Schema} {nodeType : String} {given settings : Entries}
  (hkeys : schema.keys.Nodup)
  (h : schema.parseValue nodeType (.ofEntries given) = .ok settings)
  {field : SettingField} (hfield : field ∈ schema) (hfree : given.get? field.key = none)
include hkeys h hfield hfree

/-- A setting that was not given has its standard value. -/
theorem get?_of_not_given :
    settings.get? field.key = some (fieldValue schema.standards field).2 := by
  rw [Value.ofEntries, parseValue, named_ofEntries] at h
  obtain ⟨rfl, -⟩ := checkMerged_eq_ok (Result.mapError_eq_ok.1 h)
  have hnone : ∀ entry ∈ given, entry.1 ≠ field.key := by
    have hany : given.any (·.1 == field.key) = false := by
      rw [← Entries.get?_isSome, hfree]
      rfl
    simpa using hany
  rw [get?_map_fieldValue hkeys hfield, (fieldValue_congr (get?_merge_of_forall_ne hnone)).1]

/-- If a setting is added that passes its check, this setting changes and no other one. -/
theorem parseValue_set {v w : Value} (hnull : v ≠ .null) (hcheck : field.shape.check v = .ok w) :
    schema.parseValue nodeType (.ofEntries (given.set field.key v)) =
      .ok (settings.set field.key w) := by
  have hadded : given.set field.key v = given ++ [(field.key, v)] :=
    Entries.set_of_not_mem v (by rw [← Entries.get?_isSome, hfree]; rfl)
  have hmerged : merge schema.standards (given.set field.key v) =
      (merge schema.standards given).set field.key v := by
    rw [hadded]
    exact List.foldl_append
  refine parseValue_of_agree hkeys h hfield hnull hcheck ?_ (fun key hne => ?_)
    fun entry hentry => ?_
  · rw [hmerged]
    exact Entries.get?_set_self _ _ _
  · rw [hmerged]
    exact Entries.get?_set_of_ne hne _ _
  · rw [hadded, List.mem_append, List.mem_singleton] at hentry
    rcases hentry with hgiven | rfl
    · exact .inr hgiven
    · exact .inl rfl

end add

end LayerGraph.Schema
