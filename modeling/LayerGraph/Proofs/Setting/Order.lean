import LayerGraph.Proofs.Setting.Normal

/-! # The order of settings

    Settings that hold the same values under the same keys, in whatever order, are checked with one
    outcome, as long as no more than one key is unknown (`Rearranged.parseValue_eq`): fields are
    looked at in the order of the schema, and only the unknown keys in that of the caller.

    A mapping in a document becomes settings entry by entry, and keys that differ may be one text
    there. So the order in which its entries are read does not count as long as those with one text
    stay in order (`Reordered.rearranged`).
-/

namespace LayerGraph

/-- There is only one order for a single item. -/
theorem eq_of_perm_of_length_le_one {α : Type} {xs ys : List α} (h : xs.Perm ys)
    (hfew : xs.length ≤ 1) : xs = ys := by
  cases xs with
  | nil => exact (List.nil_perm.1 h).symm
  | cons x rest =>
    obtain rfl : rest = [] := List.eq_nil_of_length_eq_zero (by simpa using hfew)
    rw [List.perm_comm, List.perm_singleton] at h
    exact h.symm

/-! ### Settings in another order -/

namespace Entries

/-- Entries that hold each key once, and the same values under the same keys. -/
structure Rearranged (entries other : Entries) : Prop where
  nodup : entries.keys.Nodup
  nodup_other : other.keys.Nodup
  get?_eq : ∀ key, entries.get? key = other.get? key

namespace Rearranged
variable {entries other : Entries} (h : entries.Rearranged other)
include h

theorem keys_perm : entries.keys.Perm other.keys := by
  rw [List.perm_ext_iff_of_nodup h.nodup h.nodup_other]
  intro key
  rw [mem_keys_iff, mem_keys_iff, h.get?_eq]

theorem erase (key : String) : (entries.erase key).Rearranged (other.erase key) where
  nodup := nodup_keys_erase h.nodup key
  nodup_other := nodup_keys_erase h.nodup_other key
  get?_eq asked := by
    by_cases hasked : asked = key
    · rw [hasked, get?_erase_self, get?_erase_self]
    · rw [get?_erase_of_ne hasked, get?_erase_of_ne hasked, h.get?_eq]

theorem set (key : String) (value : Value) :
    (entries.set key value).Rearranged (other.set key value) where
  nodup := nodup_keys_set h.nodup key value
  nodup_other := nodup_keys_set h.nodup_other key value
  get?_eq asked := by
    by_cases hasked : asked = key
    · rw [hasked, get?_set_self, get?_set_self]
    · rw [get?_set_of_ne hasked, get?_set_of_ne hasked, h.get?_eq]

/-- A single unknown key is the same one in both. -/
theorem unknownKeys_eq {schema : Schema} (hfew : (schema.unknownKeys entries).length ≤ 1) :
    schema.unknownKeys entries = schema.unknownKeys other :=
  eq_of_perm_of_length_le_one (h.keys_perm.filter _) hfew

/-- The checks of settings do not depend on their order, if at most one key is unknown. -/
theorem parseValue_eq {schema : Schema} (hfew : (schema.unknownKeys entries).length ≤ 1)
    (nodeType : String) :
    schema.parseValue nodeType (.ofEntries entries) =
      schema.parseValue nodeType (.ofEntries other) := by
  have hmerged : ∀ key, (Schema.merge schema.standards entries).get? key =
      (Schema.merge schema.standards other).get? key := by
    intro key
    rw [Schema.get?_merge h.nodup, Schema.get?_merge h.nodup_other, h.get?_eq]
  rw [Value.ofEntries, Value.ofEntries, Schema.parseValue, Schema.parseValue,
    Schema.named_ofEntries, Schema.named_ofEntries, Schema.strangerOf_ofEntries,
    Schema.strangerOf_ofEntries, h.unknownKeys_eq hfew]
  congr 1
  apply Schema.checkMerged_congr
  · intro field _
    unfold Schema.valueOf
    rw [hmerged]
  · unfold Schema.absent
    congr 1
    funext key
    unfold Schema.isAbsent
    rw [hmerged]
  · rfl
  · rw [← Schema.strangerOf_ofEntries]
    exact Schema.missingKeys_strangers _ _
  · rw [← Schema.strangerOf_ofEntries]
    exact Schema.missingKeys_strangers _ _

end Rearranged

end Entries

/-! ### Settings of a layer that is bound to an attribute -/

namespace Node.Module

/-- A layer that is bound to an attribute has no unknown key that it did not have before. -/
theorem unknownKeys_boundSettings_sublist (info : NodeInfo) (settings : Entries) :
    (info.schema.unknownKeys (boundSettings info settings)).Sublist
      (info.schema.unknownKeys settings) := by
  unfold boundSettings
  rw [apply_ite info.schema.unknownKeys]
  -- the name of the variable is taken out, and put in again only if the type has such a setting
  have herase : (info.schema.unknownKeys (settings.erase "variableName")).Sublist
      (info.schema.unknownKeys settings) := by
    rw [Schema.unknownKeys_erase]
    exact List.filter_sublist
  split
  · next hany =>
    have hknown : "variableName" ∈ info.schema.keys := by
      apply (Schema.keys_standards_sublist info.schema).subset
      obtain ⟨entry, hentry, hname⟩ := List.any_eq_true.1 hany
      rw [← beq_iff_eq.1 hname]
      exact List.mem_map_of_mem hentry
    rw [Schema.unknownKeys_set hknown]
    exact herase
  · exact herase

theorem rearranged_boundSettings {settings other : Entries} (h : settings.Rearranged other)
    (info : NodeInfo) : (boundSettings info settings).Rearranged (boundSettings info other) := by
  unfold boundSettings
  split
  · exact (h.erase _).set _ _
  · exact h.erase _

end Node.Module

/-! ### Mappings in another order -/

namespace Document

/-- The text that a key of a mapping is read as, if it is one. -/
def keyText? (key : Value) : Option String := (Shape.textOf key).toOption

/-- The entries of a mapping that are read under a text. -/
def under (entries : List (Value × Value)) (name : String) : List (Value × Value) :=
  entries.filter fun entry => keyText? entry.1 == some name

theorem keyText?_eq_some {key : Value} {name : String} :
    keyText? key = some name ↔ Shape.textOf key = .ok name := by
  unfold keyText?
  cases Shape.textOf key <;> simp [Except.toOption]

/-- Settings are read from a mapping exactly if all of its keys are texts. -/
theorem entriesOver_isOk_iff {known : Entries} {entries : List (Value × Value)} :
    (∃ settings, entriesOver known entries = .ok settings) ↔
      ∀ entry ∈ entries, (keyText? entry.1).isSome = true := by
  induction entries generalizing known with
  | nil => simp [entriesOver]
  | cons entry rest ih =>
    obtain ⟨key, value⟩ := entry
    rw [List.forall_mem_cons, entriesOver]
    unfold keyText? at ih ⊢
    cases Shape.textOf key with
    | ok name =>
      show (∃ settings, entriesOver (known.set name value) rest = .ok settings) ↔ _
      rw [ih]
      simp [Except.toOption]
    | error fault => simp [Except.toOption, Except.mapError, Bind.bind, Except.bind]

/-- Of the entries that are read under one text the last one counts. -/
theorem get?_entriesOver {known settings : Entries} {entries : List (Value × Value)}
    (h : entriesOver known entries = .ok settings) (name : String) :
    settings.get? name = ((under entries name).getLast?.map (·.2)).or (known.get? name) := by
  induction entries generalizing known with
  | nil =>
    obtain rfl := Except.ok.inj h
    rfl
  | cons entry rest ih =>
    obtain ⟨key, value⟩ := entry
    rw [entriesOver] at h
    obtain ⟨read, hread, h⟩ := Result.bind_eq_ok.1 h
    have hkey := keyText?_eq_some.2 (Result.mapError_eq_ok.1 hread)
    rw [ih h]
    unfold under
    by_cases hname : read = name
    · subst hname
      rw [Entries.get?_set_self, List.filter_cons_of_pos (by simp [hkey]), List.getLast?_cons]
      cases (rest.filter fun entry => keyText? entry.1 == some read).getLast? <;> rfl
    · rw [Entries.get?_set_of_ne (Ne.symm hname), List.filter_cons_of_neg (by simp [hkey, hname])]

/-- Entries in another order, in which those that are read under one text stay in order. -/
structure Reordered (entries other : List (Value × Value)) : Prop where
  perm : entries.Perm other
  under_eq : ∀ name, under entries name = under other name

namespace Reordered
variable {entries other : List (Value × Value)}

/-- In a mapping no two keys of which are one text, all orders will do. -/
theorem of_perm (h : entries.Perm other)
    (hdistinct : (entries.filterMap fun entry => keyText? entry.1).Nodup) :
    Reordered entries other where
  perm := h
  under_eq name := by
    apply eq_of_perm_of_length_le_one (h.filter _)
    have hcount := List.nodup_iff_count_le_one.1 hdistinct name
    rw [List.count, List.countP_filterMap] at hcount
    rw [← List.countP_eq_length_filter]
    refine le_of_eq_of_le ?_ hcount
    congr 1
    funext entry
    cases keyText? entry.1 <;> rfl

variable (h : Reordered entries other)
include h

/-- Both mappings are read as settings, or neither is. -/
theorem isOk_iff : (∃ settings, entriesOf entries = .ok settings) ↔
    ∃ settings, entriesOf other = .ok settings := by
  unfold entriesOf
  rw [entriesOver_isOk_iff, entriesOver_isOk_iff]
  exact forall_congr' fun entry => by rw [h.perm.mem_iff]

/-- The order in which the entries of a mapping are read does not count. -/
theorem rearranged {settings others : Entries} (hsettings : entriesOf entries = .ok settings)
    (hothers : entriesOf other = .ok others) : settings.Rearranged others where
  nodup := nodup_keys_of_entriesOf hsettings
  nodup_other := nodup_keys_of_entriesOf hothers
  get?_eq key := by rw [get?_entriesOver hsettings, get?_entriesOver hothers, h.under_eq]

end Reordered

/-- The keys of a mapping that are no settings of a node type. -/
def strangeKeys (schema : Schema) (entries : List (Value × Value)) : List Value :=
  (entries.map (·.1)).filter fun key => !(keyText? key).any schema.keys.contains

/-- Settings have no more unknown keys than the mapping that they are read from. -/
theorem length_unknownKeys_le {schema : Schema} {entries : List (Value × Value)}
    {settings : Entries} (h : entriesOf entries = .ok settings) :
    (schema.unknownKeys settings).length ≤ (strangeKeys schema entries).length := by
  have hnodup : (schema.unknownKeys settings).Nodup :=
    (nodup_keys_of_entriesOf h).filter _
  -- each unknown key is the text of a key of the mapping
  have hsubset : schema.unknownKeys settings ⊆
      (strangeKeys schema entries).filterMap keyText? := by
    intro name hname
    obtain ⟨hmem, hunknown⟩ := List.mem_filter.1 hname
    have hfound := Entries.mem_keys_iff.1 hmem
    rw [get?_entriesOver h] at hfound
    obtain ⟨entry, hentry⟩ : ∃ entry, entry ∈ under entries name := by
      apply List.exists_mem_of_ne_nil
      intro hnone
      simp [hnone, Entries.get?] at hfound
    obtain ⟨hentry, htext⟩ := List.mem_filter.1 hentry
    rw [beq_iff_eq] at htext
    refine List.mem_filterMap.2 ⟨entry.1, List.mem_filter.2 ⟨List.mem_map_of_mem hentry, ?_⟩, htext⟩
    rw [htext]
    exact hunknown
  exact (List.subperm_of_subset hnodup hsubset).length_le.trans (List.length_filterMap_le _ _)

end Document

end LayerGraph
