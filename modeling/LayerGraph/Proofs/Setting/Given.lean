import LayerGraph.Node.Access
import LayerGraph.Proofs.Setting.Fits
import LayerGraph.Proofs.Text.Identifier
import LayerGraph.Proofs.Text.Trimming

/-! # Settings as they were given

    Validated settings read by key. A text is read as the caller gave it, character by character
    (`text_of_given`). Names are texts too, but they are single lines, and so is a list of them with
    commas between (`not_mem_text`, `not_mem_commaTexts`). What a given map is validated to is found
    by checking its fields one by one (`parseValue_of_checked`).
-/

namespace LayerGraph

/-! ### Names -/

/-- A character that stands in no identifier and is no dot stands in no row of names. -/
theorem Text.not_mem_of_dottedParts {s : String}
    (h : ∀ part ∈ Shape.dottedParts s, isName part = true) {c : Char}
    (hc : isIdentifierPart c = false) (hdot : c ≠ '.') : c ∉ s.toList := by
  rw [← join_pieces '.' s.toList]
  refine not_mem_join (by simpa using hdot) fun piece hpiece => ?_
  have hname := not_mem_of_isName (h (.ofList piece) (List.mem_map_of_mem hpiece)) hc
  rwa [String.toList_ofList] at hname

/-- Texts on single lines stay on one with commas between them. -/
theorem Text.not_mem_commas {texts : List String} (h : ∀ text ∈ texts, '\n' ∉ text.toList) :
    '\n' ∉ (", ".intercalate texts).toList := by
  rw [String.toList_intercalate, ← join_eq_intercalate]
  exact not_mem_join (by decide) (List.forall_mem_map.2 h)

namespace Schema

section read
variable {schema : Schema} {settings : Entries} (h : schema.Fits settings)
  (hdistinct : schema.keys.Nodup) {field : SettingField} (hfield : field ∈ schema)
include h hdistinct hfield

/-- A setting that is a name is a single line. -/
theorem not_mem_text {key : String} (hkey : field.key = key) (hshape : field.shape = .name) :
    '\n' ∉ (settings.text key).toList := by
  obtain ⟨v, hv, hfits⟩ := h.get? hdistinct hfield
  rw [hkey] at hv
  rw [hshape] at hfits
  obtain ⟨name, rfl, hname⟩ := hfits
  unfold Entries.text
  rw [hv]
  exact Text.not_mem_of_isName hname (by decide)

/-- The texts of a setting with names are names. -/
theorem isName_of_mem_texts {key : String} (hkey : field.key = key)
    (hshape : field.shape = .sequence .name) {name : String} (hname : name ∈ settings.texts key) :
    Text.isName name = true := by
  obtain ⟨v, hv, hfits⟩ := h.get? hdistinct hfield
  rw [hkey] at hv
  rw [hshape] at hfits
  obtain ⟨items, rfl, hitems⟩ := hfits
  unfold Entries.texts at hname
  rw [hv] at hname
  obtain ⟨item, hitem, htext⟩ := List.mem_filterMap.1 hname
  obtain ⟨s, rfl, hs⟩ := hitems item hitem
  obtain rfl : s = name := Option.some.inj htext
  exact hs

/-- A setting with names is a single line, with commas between the names. -/
theorem not_mem_commaTexts {key : String} (hkey : field.key = key)
    (hshape : field.shape = .sequence .name) : '\n' ∉ (settings.commaTexts key).toList :=
  Text.not_mem_commas fun _ hname =>
    Text.not_mem_of_isName (isName_of_mem_texts h hdistinct hfield hkey hshape hname) (by decide)

end read

/-! ### Texts -/

theorem get?_merge_of_forall_ne {standards given : Entries} {key : String}
    (h : ∀ entry ∈ given, entry.1 ≠ key) :
    (merge standards given).get? key = standards.get? key := by
  induction given generalizing standards with
  | nil => rfl
  | cons entry rest ih =>
    obtain ⟨hentry, hrest⟩ := List.forall_mem_cons.1 h
    exact (ih hrest).trans (Entries.get?_set_of_ne hentry.symm _ _)

/-- What was given under a key that no other entry has is found there. -/
theorem get?_merge_of_mem {standards given : Entries} (hdistinct : (given.map (·.1)).Nodup)
    {key : String} {v : Value} (h : (key, v) ∈ given) :
    (merge standards given).get? key = some v := by
  induction given generalizing standards with
  | nil => exact absurd h List.not_mem_nil
  | cons entry rest ih =>
    rw [List.map_cons, List.nodup_cons] at hdistinct
    rcases List.mem_cons.1 h with rfl | hlater
    · -- no later entry writes over the first one
      have hothers : ∀ entry ∈ rest, entry.1 ≠ key := fun entry hentry same =>
        hdistinct.1 (List.mem_map.2 ⟨entry, hentry, same⟩)
      exact (get?_merge_of_forall_ne hothers).trans (Entries.get?_set_self _ _ _)
    · exact ih hdistinct.2 hlater

/-- What is put in place of all that was given under a key is found there. -/
theorem get?_merge_set_erase (standards given : Entries) (key : String) (v : Value) :
    (merge standards ((given.erase key).set key v)).get? key = some v := by
  have hfree : (given.erase key).any (·.1 == key) = false := by simp [Entries.erase]
  rw [Entries.set_of_not_mem v hfree]
  unfold merge
  rw [List.foldl_append]
  exact Entries.get?_set_self _ _ _

theorem key_fieldValue (merged : Entries) (field : SettingField) :
    (fieldValue merged field).1 = field.key := by
  unfold fieldValue
  split <;> rfl

/-- Under the key of a field there is the value of this field. -/
theorem get?_map_fieldValue {schema : Schema} {merged : Entries} (hkeys : schema.keys.Nodup)
    {field : SettingField} (hfield : field ∈ schema) :
    Entries.get? (schema.map (fieldValue merged)) field.key =
      some (fieldValue merged field).2 := by
  induction schema with
  | nil => exact absurd hfield List.not_mem_nil
  | cons first rest ih =>
    rw [keys, List.map_cons, List.nodup_cons] at hkeys
    have hfirst : fieldValue merged first = (first.key, (fieldValue merged first).2) :=
      Prod.ext (key_fieldValue merged first) rfl
    rw [List.map_cons, hfirst]
    rcases List.mem_cons.1 hfield with rfl | hlater
    · exact Entries.get?_cons_self _ _ _
    · have hne : field.key ≠ first.key := fun same =>
        hkeys.1 (same ▸ List.mem_map_of_mem hlater)
      rw [Entries.get?_cons_of_ne hne]
      exact ih hkeys.2 hlater

theorem named_ofEntries (given : Entries) :
    named (given.map fun entry => (Value.str entry.1, entry.2)) = given := by
  unfold named
  rw [List.filterMap_map]
  exact List.filterMap_some

/-- Whether the value of a field passes its check, and what it is then. -/
def IsChecked (merged : Entries) (field : SettingField) (entry : String × Value) : Prop :=
  field.key = entry.1 ∧ field.shape.check ((merged.get? field.key).getD .null) = .ok entry.2

/-- Fields whose values pass their checks have no faults. -/
theorem fields_of_checked {schema : Schema} {merged settings : Entries}
    (h : List.Forall₂ (IsChecked merged) schema settings) :
    (∀ field ∈ schema, fieldFaults merged field = []) ∧
      settings = schema.map (fieldValue merged) := by
  induction h with
  | nil => exact ⟨nofun, rfl⟩
  | @cons field entry rest others hfield _ ih =>
    obtain ⟨hkey, hcheck⟩ := hfield
    obtain ⟨hfaults, rfl⟩ := ih
    have hown : fieldFaults merged field = [] := by
      unfold fieldFaults
      rw [hcheck]
    have hvalue : fieldValue merged field = entry := by
      unfold fieldValue
      rw [hcheck]
      exact Prod.ext hkey rfl
    refine ⟨List.forall_mem_cons.2 ⟨hown, hfaults⟩, ?_⟩
    rw [List.map_cons, hvalue]

/-- Settings are accepted if they are under keys of the schema, no required one is left out, and
    each field has a value that passes its check. -/
theorem parseValue_of_checked {schema : Schema} (nodeType : String) {given settings : Entries}
    (hknown : ∀ entry ∈ given, entry.1 ∈ schema.keys)
    (hpresent : absent (merge schema.standards given) schema.required = [])
    (hchecked : List.Forall₂ (IsChecked (merge schema.standards given)) schema settings) :
    schema.parseValue nodeType (.ofEntries given) = .ok settings := by
  have hstrangers : (given.map fun entry => (Value.str entry.1, entry.2)).filterMap
      schema.strangerOf = [] := by
    rw [List.filterMap_map, List.filterMap_eq_nil_iff]
    exact fun entry hentry => if_pos (List.contains_iff_mem.2 (hknown entry hentry))
  obtain ⟨hfaults, hsettings⟩ := fields_of_checked hchecked
  rw [Value.ofEntries, parseValue, named_ofEntries]
  exact Result.mapError_eq_ok.2
    (checkMerged_eq_ok_iff.2 ⟨hpresent, hfaults, hstrangers, hsettings⟩)

/-- A text is read as it was given. -/
theorem text_of_given {schema : Schema} {nodeType : String} {given settings : Entries}
    (hdistinct : (given.map (·.1)).Nodup)
    (h : schema.parseValue nodeType (.ofEntries given) = .ok settings)
    (hkeys : schema.keys.Nodup) {field : SettingField} (hfield : field ∈ schema)
    (hshape : field.shape = .text) {s : String} (hs : (field.key, .str s) ∈ given) :
    settings.text field.key = s := by
  rw [Value.ofEntries, parseValue, named_ofEntries] at h
  obtain ⟨rfl, _⟩ := checkMerged_eq_ok (Result.mapError_eq_ok.1 h)
  have hvalue : fieldValue (merge schema.standards given) field = (field.key, .str s) := by
    unfold fieldValue
    rw [get?_merge_of_mem hdistinct hs, hshape]
    rfl
  unfold Entries.text
  rw [get?_map_fieldValue hkeys hfield, hvalue]

end Schema

end LayerGraph
