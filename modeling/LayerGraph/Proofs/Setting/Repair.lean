import LayerGraph.Proofs.Document.Forms
import LayerGraph.Proofs.Setting.Added
import LayerGraph.Proofs.Setting.Missing

/-! # Repairing settings

    Settings with nothing missing are wrong under some of their keys: the fields whose values are
    not accepted and the keys that no field has (`faultyKeys`). The first of them, in the order of
    the schema and then of the caller, is reported. A repair of the reported key takes it out of the
    list and leaves the others as they are (`Repairs.faultyKeys_eq`), since each field is checked on
    its own. So the reports go through the order from front to back, and repairing one key at a time
    ends with settings that are accepted (`reports_key_by_key`).
-/

namespace LayerGraph

/-! ### What is found under a key -/

namespace Entries

theorem mem_keys_iff {entries : Entries} {key : String} :
    key ∈ entries.keys ↔ (entries.get? key).isSome = true := by
  rw [get?_isSome, List.any_eq_true]
  simp [keys]

theorem nodup_keys_erase {entries : Entries} (h : entries.keys.Nodup) (key : String) :
    (entries.erase key).keys.Nodup :=
  h.sublist (List.filter_sublist.map _)

end Entries

namespace Schema

/-- What is given under a key is laid over what stands there otherwise. -/
theorem get?_merge {given : Entries} (hdistinct : given.keys.Nodup) (standards : Entries)
    (key : String) :
    (merge standards given).get? key = (given.get? key).or (standards.get? key) := by
  cases hgiven : given.get? key with
  | some v =>
    rw [Option.some_or]
    exact get?_merge_of_mem hdistinct (Entries.mem_of_get? hgiven)
  | none =>
    rw [Option.none_or]
    apply get?_merge_of_forall_ne
    intro entry hentry hsame
    have hmem : key ∈ given.keys := hsame ▸ List.mem_map_of_mem hentry
    rw [Entries.mem_keys_iff, hgiven] at hmem
    simp at hmem

/-! ### The keys under which settings are wrong -/

/-- The keys outside a schema, in the order in which they are given. -/
def unknownKeys (schema : Schema) (given : Entries) : List String :=
  given.keys.filter fun key => !schema.keys.contains key

/-- Writing a value under a key of the schema brings in no unknown key. -/
theorem unknownKeys_set {schema : Schema} {key : String} (hknown : key ∈ schema.keys)
    (given : Entries) (v : Value) :
    schema.unknownKeys (given.set key v) = schema.unknownKeys given := by
  unfold unknownKeys
  cases hany : given.any (·.1 == key) with
  | true => rw [Entries.keys_set_of_mem v hany]
  | false =>
    rw [Entries.set_of_not_mem v hany, Entries.keys, List.map_append, List.filter_append]
    simp [Entries.keys, hknown]

theorem unknownKeys_erase (schema : Schema) (given : Entries) (key : String) :
    schema.unknownKeys (given.erase key) = (schema.unknownKeys given).filter (· != key) := by
  unfold unknownKeys
  rw [Entries.erase, Entries.keys, Entries.keys, List.filter_filter, List.filter_map,
    List.filter_map, List.filter_filter]
  congr 1
  apply List.filter_congr
  intro entry _
  simp [bne, Bool.and_comm]

/-- The order in which keys are looked at: the fields, and then the keys that are unknown. -/
def checkOrder (schema : Schema) (given : Entries) : List String :=
  schema.keys ++ schema.unknownKeys given

/-- Whether the value of a field is not accepted. -/
def isFaulty (merged : Entries) (field : SettingField) : Bool :=
  !(fieldFaults merged field).isEmpty

/-- The keys under which settings are wrong, in the order in which they are looked at. -/
def faultyKeys (schema : Schema) (given : Entries) : List String :=
  (schema.filter (isFaulty (merge schema.standards given))).map (·.key) ++
    schema.unknownKeys given

/-- Whether nothing is missing for a field: its value is there if it is required, and lacks no
    items. -/
def IsThere (merged : Entries) (field : SettingField) : Prop :=
  (field.standard = none → valueOf merged field ≠ .null) ∧
    field.shape.lacking (valueOf merged field) = 0

/-- Settings for which nothing is missing. -/
def IsWhole (schema : Schema) (given : Entries) : Prop :=
  ∀ field ∈ schema, IsThere (merge schema.standards given) field

theorem faultyKeys_sublist (schema : Schema) (given : Entries) :
    (schema.faultyKeys given).Sublist (schema.checkOrder given) :=
  List.Sublist.append (List.filter_sublist.map _) (List.Sublist.refl _)

theorem nodup_checkOrder {schema : Schema} (hkeys : schema.keys.Nodup) {given : Entries}
    (hdistinct : given.keys.Nodup) : (schema.checkOrder given).Nodup := by
  apply hkeys.append (hdistinct.filter _)
  intro key hknown hunknown
  have hno := (List.mem_filter.1 hunknown).2
  simp [hknown] at hno

theorem missing_eq_nil_iff {schema : Schema} {given : Entries} :
    schema.missing (merge schema.standards given) = [] ↔ schema.IsWhole given := by
  have habsent : absent (merge schema.standards given) schema.required = [] ↔
      ∀ field ∈ schema, field.standard = none →
        valueOf (merge schema.standards given) field ≠ .null := by
    rw [List.eq_nil_iff_forall_not_mem]
    simp only [mem_absent_iff, required, List.mem_map, List.mem_filter, Option.isNone_iff_eq_none]
    constructor
    · intro h field hfield hnone hnull
      exact h field.key ⟨⟨field, ⟨hfield, hnone⟩, rfl⟩, hnull⟩
    · intro h key hkey
      obtain ⟨⟨field, ⟨hfield, hnone⟩, hsame⟩, hnull⟩ := hkey
      subst hsame
      exact h field hfield hnone hnull
  have hlacking : schema.lackingKeys (merge schema.standards given) = [] ↔
      ∀ field ∈ schema, field.shape.lacking (valueOf (merge schema.standards given) field) = 0 := by
    simp [lackingKeys]
  unfold missing IsWhole IsThere
  split
  · next hnone =>
    rw [hlacking]
    exact ⟨fun h field hfield => ⟨habsent.1 hnone field hfield, h field hfield⟩,
      fun h field hfield => (h field hfield).2⟩
  · next hsome =>
    exact ⟨fun h => absurd h hsome,
      fun h => absurd (habsent.2 fun field hfield => (h field hfield).1) hsome⟩

/-! ### What is reported -/

section report
variable {schema : Schema} (hflat : ∀ field ∈ schema, field.shape.isFlat = true)

theorem strangerOf_ofEntries (schema : Schema) (given : Entries) :
    (given.map fun entry => (Value.str entry.1, entry.2)).filterMap schema.strangerOf =
      (schema.unknownKeys given).map fun key => ⟨key, .unrecognized⟩ := by
  induction given with
  | nil => rfl
  | cons entry rest ih =>
    unfold unknownKeys at ih ⊢
    rw [Entries.keys, List.map_cons, List.map_cons, List.filterMap_cons, List.filter_cons]
    unfold strangerOf Value.text?
    by_cases hknown : schema.keys.contains entry.1 = true
    · simp only [hknown]
      exact ih
    · rw [Bool.not_eq_true] at hknown
      simp only [hknown]
      exact congrArg _ ih

/-- The first fault is one under the first faulty key. -/
theorem head?_faults (schema : Schema) (merged : Entries) (unknown : List String) :
    ((schema.flatMap (fieldFaults merged) ++
        unknown.map fun key => (⟨key, .unrecognized⟩ : Fault)).head?.map (·.key)) =
      ((schema.filter (isFaulty merged)).map (·.key) ++ unknown).head? := by
  induction schema with
  | nil => cases unknown <;> rfl
  | cons field rest ih =>
    rw [List.flatMap_cons, List.filter_cons, List.append_assoc]
    unfold isFaulty at ih ⊢
    cases hfaults : fieldFaults merged field with
    | nil => simpa using ih
    | cons fault others =>
      -- all faults of a field are under its key
      have hkey : fault.key = field.key := by
        have hmem : fault ∈ fieldFaults merged field := by simp [hfaults]
        unfold fieldFaults at hmem
        split at hmem
        · simp at hmem
        · obtain ⟨m, -, hm⟩ := List.mem_map.1 hmem
          rw [← hm]
      simp [hkey]

include hflat in
/-- Settings for which nothing is missing are accepted if they are wrong under no key, and else the
    first such key is reported. -/
theorem parseValue_of_isWhole (nodeType : String) {given : Entries}
    (hwhole : schema.IsWhole given) :
    (schema.faultyKeys given = [] ∧
        ∃ settings, schema.parseValue nodeType (.ofEntries given) = .ok settings) ∨
      ∃ key others reason, schema.faultyKeys given = key :: others ∧
        schema.parseValue nodeType (.ofEntries given) =
          .error (.graph (.invalidSetting nodeType key reason)) := by
  have hmissing := missing_eq_nil_iff.2 hwhole
  have habsent : absent (merge schema.standards given) schema.required = [] := by
    by_contra hsome
    rw [missing, if_neg hsome] at hmissing
    exact hsome hmissing
  have hlacking : missingKeys (schema.flatMap (fieldFaults (merge schema.standards given)) ++
      (schema.unknownKeys given).map fun key => ⟨key, .unrecognized⟩) = [] := by
    rw [missingKeys_append, missingKeys_flatMap hflat, ← strangerOf_ofEntries,
      missingKeys_strangers, List.append_nil]
    rwa [missing, if_pos habsent] at hmissing
  have hhead := head?_faults schema (merge schema.standards given) (schema.unknownKeys given)
  rw [← faultyKeys] at hhead
  rw [Value.ofEntries, parseValue, named_ofEntries, strangerOf_ofEntries]
  unfold checkMerged errorOf
  rw [← missingKeys, hlacking, habsent]
  generalize schema.flatMap (fieldFaults (merge schema.standards given)) ++
    (schema.unknownKeys given).map (fun key => (⟨key, .unrecognized⟩ : Fault)) = faults at hhead ⊢
  cases faults with
  | nil =>
    left
    exact ⟨List.head?_eq_none_iff.1 hhead.symm, _, rfl⟩
  | cons fault rest =>
    right
    obtain ⟨others, hothers⟩ := List.head?_eq_some_iff.1 hhead.symm
    exact ⟨fault.key, others, fault.reason, hothers, rfl⟩

include hflat in
/-- A report of an invalid value tells that nothing is missing, and which key is wrong first. -/
theorem isWhole_of_report {nodeType key : String} {reason : Reason} {given : Entries}
    (h : schema.parseValue nodeType (.ofEntries given) =
      .error (.graph (.invalidSetting nodeType key reason))) :
    schema.IsWhole given ∧ ∃ others, schema.faultyKeys given = key :: others := by
  have hwhole : schema.IsWhole given := by
    rw [← missing_eq_nil_iff]
    by_contra hmissing
    have hrefused : schema.parseValue nodeType (.ofEntries given) = .error
        (.graph (.missingRequired nodeType (schema.missing (merge schema.standards given)))) := by
      rw [Value.ofEntries, parseValue_eq_missing_iff hflat, named_ofEntries]
      exact ⟨hmissing, rfl⟩
    rw [h] at hrefused
    simp at hrefused
  refine ⟨hwhole, ?_⟩
  rcases parseValue_of_isWhole hflat nodeType hwhole with
    ⟨-, settings, hok⟩ | ⟨other, others, _, hfaulty, herror⟩
  · rw [h] at hok
    simp at hok
  · rw [h] at herror
    simp only [Except.error.injEq, Failure.graph.injEq, GraphError.invalidSetting.injEq] at herror
    exact ⟨others, herror.2.1 ▸ hfaulty⟩

end report

/-! ### One repair -/

/-- A repair of one key: a field gets a value that it accepts, and a key that no field has is
    removed. -/
inductive Repairs (schema : Schema) (key : String) (given : Entries) : Entries → Prop where
  | change {field : SettingField} {v w : Value} (hfield : field ∈ schema) (hkey : field.key = key)
      (hcheck : field.shape.check v = .ok w) : Repairs schema key given (given.set key v)
  | remove (hkey : key ∉ schema.keys) : Repairs schema key given (given.erase key)

/-- What a repair needs to know of a schema: its shapes are flat, no two fields have one key, and a
    required field does not accept null. -/
structure IsRepairable (schema : Schema) : Prop where
  flat : ∀ field ∈ schema, field.shape.isFlat = true
  nodup : schema.keys.Nodup
  filled : ∀ field ∈ schema, field.standard = none → ∀ w, field.shape.check .null ≠ .ok w

section repair
variable {schema : Schema} (hschema : schema.IsRepairable) {given next : Entries}
  (hdistinct : given.keys.Nodup) {key : String} (h : schema.Repairs key given next)
include hdistinct h

theorem Repairs.nodup_keys : next.keys.Nodup := by
  cases h with
  | change => exact Entries.nodup_keys_set hdistinct ..
  | remove => exact Entries.nodup_keys_erase hdistinct key

/-- A repair leaves the other fields as they are. -/
theorem Repairs.valueOf_of_ne {field : SettingField} (hne : field.key ≠ key) :
    valueOf (merge schema.standards next) field = valueOf (merge schema.standards given) field := by
  unfold valueOf
  rw [get?_merge (h.nodup_keys hdistinct), get?_merge hdistinct]
  cases h with
  | change => rw [Entries.get?_set_of_ne hne]
  | remove => rw [Entries.get?_erase_of_ne hne]

/-- A field that has the repaired key has an accepted value. -/
theorem Repairs.exists_check (hnodup : schema.keys.Nodup) {field : SettingField}
    (hfield : field ∈ schema) (hkey : field.key = key) :
    ∃ w, field.shape.check (valueOf (merge schema.standards next) field) = .ok w := by
  have hnext := h.nodup_keys hdistinct
  cases h with
  | @change other v w hother hsame hcheck =>
    obtain rfl : other = field :=
      List.inj_on_of_nodup_map hnodup hother hfield (hsame.trans hkey.symm)
    refine ⟨w, ?_⟩
    unfold valueOf
    rw [get?_merge hnext, hkey, Entries.get?_set_self, Option.some_or, Option.getD_some]
    exact hcheck
  | remove hunknown => exact absurd (hkey ▸ List.mem_map_of_mem hfield) hunknown

include hschema

/-- A repair takes nothing away that is needed. -/
theorem Repairs.isWhole (hwhole : schema.IsWhole given) : schema.IsWhole next := by
  intro field hfield
  by_cases hkey : field.key = key
  · obtain ⟨w, hw⟩ := h.exists_check hdistinct hschema.nodup hfield hkey
    constructor
    · intro hnone hnull
      rw [hnull] at hw
      exact hschema.filled field hfield hnone w hw
    · -- an accepted value lacks no items
      rw [← Shape.missingIn_check (hschema.flat field hfield), hw]
      rfl
  · unfold IsThere
    rw [h.valueOf_of_ne hdistinct hkey]
    exact hwhole field hfield

/-- A repair of a key takes it out of the keys under which settings are wrong, and does nothing
    else to them. -/
theorem Repairs.faultyKeys_eq :
    schema.faultyKeys next = (schema.faultyKeys given).filter (· != key) := by
  have hfields : schema.filter (isFaulty (merge schema.standards next)) =
      (schema.filter (isFaulty (merge schema.standards given))).filter fun field =>
        field.key != key := by
    rw [List.filter_filter]
    apply List.filter_congr
    intro field hfield
    by_cases hkey : field.key = key
    · obtain ⟨w, hw⟩ := h.exists_check hdistinct hschema.nodup hfield hkey
      unfold isFaulty fieldFaults
      rw [← valueOf, hw]
      simp [hkey]
    · unfold isFaulty fieldFaults
      rw [← valueOf, ← valueOf, h.valueOf_of_ne hdistinct hkey]
      simp [hkey]
  have hunknown : schema.unknownKeys next = (schema.unknownKeys given).filter (· != key) := by
    cases h with
    | @change field v w hfield hkey hcheck =>
      -- the key is one of the schema, so it is not among those that are unknown
      have hknown : key ∈ schema.keys := hkey ▸ List.mem_map_of_mem hfield
      rw [unknownKeys_set hknown, eq_comm, List.filter_eq_self]
      intro other hother
      have hno := (List.mem_filter.1 hother).2
      rw [bne_iff_ne]
      intro hsame
      simp [hsame, hknown] at hno
    | remove => exact unknownKeys_erase schema given key
  unfold faultyKeys
  rw [hfields, hunknown, List.filter_append, List.filter_map]
  rfl

/-- If the repaired key is the first one under which settings are wrong, the others are left. -/
theorem Repairs.faultyKeys_tail {others : List String}
    (hfaulty : schema.faultyKeys given = key :: others) : schema.faultyKeys next = others := by
  have hnodup := (nodup_checkOrder hschema.nodup hdistinct).sublist
    (faultyKeys_sublist schema given)
  rw [hfaulty, List.nodup_cons] at hnodup
  rw [h.faultyKeys_eq hschema hdistinct, hfaulty, List.filter_cons_of_neg (by simp),
    List.filter_eq_self]
  intro other hother
  rw [bne_iff_ne]
  intro hsame
  exact hnodup.1 (hsame ▸ hother)

end repair

/-! ### Runs of repairs -/

/-- Settings after a number of repairs, each of the key that is reported. -/
inductive RepairRun (schema : Schema) (nodeType : String) (given : Entries) :
    Nat → Entries → Prop where
  | start : RepairRun schema nodeType given 0 given
  | step {n : Nat} {current next : Entries} {key : String} {reason : Reason}
      (hrun : RepairRun schema nodeType given n current)
      (hreport : schema.parseValue nodeType (.ofEntries current) =
        .error (.graph (.invalidSetting nodeType key reason)))
      (hrepair : schema.Repairs key current next) : RepairRun schema nodeType given (n + 1) next

section run
variable {schema : Schema} (hschema : schema.IsRepairable) {nodeType : String} {given : Entries}
  (hdistinct : given.keys.Nodup) (hwhole : schema.IsWhole given)
include hwhole

/-- Every field has a value, and every unknown key its own. -/
theorem mem_keys_merge (hdistinct : given.keys.Nodup) :
    ∀ key ∈ schema.checkOrder given, key ∈ (merge schema.standards given).keys := by
  intro key hkey
  rw [Entries.mem_keys_iff, get?_merge hdistinct, Option.isSome_or, Bool.or_eq_true]
  rcases List.mem_append.1 hkey with hknown | hunknown
  · obtain ⟨field, hfield, hsame⟩ := List.mem_map.1 hknown
    subst hsame
    by_contra hneither
    rw [not_or, Bool.not_eq_true, Option.isSome_eq_false_iff, Option.isNone_iff_eq_none,
      Bool.not_eq_true, Option.isSome_eq_false_iff, Option.isNone_iff_eq_none] at hneither
    obtain ⟨hnone, hnostandard⟩ := hneither
    cases hstandard : field.standard with
    | none =>
      -- a required field without a value would be missing
      apply (hwhole field hfield).1 hstandard
      unfold valueOf
      rw [get?_merge hdistinct, hnone, hnostandard]
      rfl
    | some v =>
      have hmem : (field.key, v) ∈ schema.standards := by
        apply List.mem_filterMap.2
        exact ⟨field, hfield, by rw [hstandard]; rfl⟩
      have hsome := Entries.mem_keys_iff.1 (List.mem_map_of_mem hmem)
      rw [hnostandard] at hsome
      simp at hsome
  · left
    exact Entries.mem_keys_iff.1 (List.mem_filter.1 hunknown).1

include hschema hdistinct

/-- After a number of repairs, so many keys at the front are wrong no more. -/
theorem RepairRun.faultyKeys_eq {n : Nat} {final : Entries}
    (hrun : RepairRun schema nodeType given n final) :
    final.keys.Nodup ∧ schema.IsWhole final ∧ n ≤ (schema.faultyKeys given).length ∧
      schema.faultyKeys final = (schema.faultyKeys given).drop n := by
  -- along the run: each step takes the first key off the list
  induction hrun with
  | start => exact ⟨hdistinct, hwhole, Nat.zero_le _, rfl⟩
  | @step n current next key reason _ hreport hrepair ih =>
    obtain ⟨hcurrent, hsound, hle, hdrop⟩ := ih
    obtain ⟨-, others, hfaulty⟩ := isWhole_of_report hschema.flat hreport
    rw [hfaulty] at hdrop
    have hlength := congrArg List.length hdrop
    rw [List.length_cons, List.length_drop] at hlength
    refine ⟨hrepair.nodup_keys hcurrent, hrepair.isWhole hschema hcurrent hsound, by omega, ?_⟩
    rw [hrepair.faultyKeys_tail hschema hcurrent hfaulty, ← List.tail_drop, ← hdrop]
    rfl

/-- No run of repairs is longer than the list of the keys of the merged settings. -/
theorem RepairRun.le_length {n : Nat} {final : Entries}
    (hrun : RepairRun schema nodeType given n final) :
    n ≤ (merge schema.standards given).keys.length := by
  obtain ⟨-, -, hle, -⟩ := hrun.faultyKeys_eq hschema hdistinct hwhole
  have hsublist := faultyKeys_sublist schema given
  have hnodup := (nodup_checkOrder hschema.nodup hdistinct).sublist hsublist
  have hsubset : schema.faultyKeys given ⊆ (merge schema.standards given).keys :=
    fun key hkey => mem_keys_merge hwhole hdistinct key (hsublist.subset hkey)
  exact hle.trans (List.subperm_of_subset hnodup hsubset).length_le

end run

/-- Every key can be repaired, if each field accepts some value. -/
theorem exists_repairs {schema : Schema}
    (hsome : ∀ field ∈ schema, ∃ v w, field.shape.check v = .ok w) (given : Entries)
    (key : String) : ∃ next, schema.Repairs key given next := by
  by_cases hknown : key ∈ schema.keys
  · obtain ⟨field, hfield, hsame⟩ := List.mem_map.1 hknown
    obtain ⟨v, w, hcheck⟩ := hsome field hfield
    exact ⟨_, .change hfield hsame hcheck⟩
  · exact ⟨_, .remove hknown⟩

/-- A key under which settings are wrong is wrong on its own: no settings with this value under it
    are accepted. -/
theorem parseValue_ne_ok_of_mem_faultyKeys {schema : Schema} {nodeType key : String}
    {given other : Entries} (hdistinct : given.keys.Nodup) (hkey : key ∈ schema.faultyKeys given)
    (hsame : (merge schema.standards other).get? key = (merge schema.standards given).get? key)
    (settings : Entries) : schema.parseValue nodeType (.ofEntries other) ≠ .ok settings := by
  intro hok
  rw [Value.ofEntries, parseValue, named_ofEntries, strangerOf_ofEntries] at hok
  obtain ⟨-, hfaults, hunknown, -⟩ := checkMerged_eq_ok_iff.1 (Result.mapError_eq_ok.1 hok)
  rcases List.mem_append.1 hkey with hfield | hstranger
  · obtain ⟨field, hmem, rfl⟩ := List.mem_map.1 hfield
    obtain ⟨hfield, hfaulty⟩ := List.mem_filter.1 hmem
    unfold isFaulty at hfaulty
    rw [← (fieldValue_congr hsame).2, hfaults field hfield] at hfaulty
    simp at hfaulty
  · obtain ⟨hgiven, hno⟩ := List.mem_filter.1 hstranger
    -- only what is given can stand under a key that no field has
    have hnostandard : schema.standards.get? key = none := by
      rw [← Option.not_isSome_iff_eq_none, ← Entries.mem_keys_iff]
      intro hmem
      obtain ⟨entry, hentry, rfl⟩ := List.mem_map.1 hmem
      obtain ⟨field, hfield, hstandard⟩ := List.mem_filterMap.1 hentry
      obtain ⟨v, -, rfl⟩ := Option.map_eq_some_iff.1 hstandard
      have hknown : field.key ∈ schema.keys := List.mem_map_of_mem hfield
      simp [hknown] at hno
    have hmem : key ∈ other.keys := by
      by_contra hnot
      have hnone : ∀ entry ∈ other, entry.1 ≠ key := by
        intro entry hentry heq
        exact hnot (heq ▸ List.mem_map_of_mem hentry)
      rw [get?_merge_of_forall_ne hnone,
        hnostandard, get?_merge hdistinct, hnostandard, Option.or_none] at hsame
      have hfound := Entries.mem_keys_iff.1 hgiven
      rw [← hsame] at hfound
      simp at hfound
    have hother : key ∈ schema.unknownKeys other := List.mem_filter.2 ⟨hmem, hno⟩
    rw [List.map_eq_nil_iff.1 hunknown] at hother
    simp at hother

end Schema

/-! ### Built-in types -/

namespace Node

theorem isRepairable_of_mem_builtins {plugin : Plugin} (hplugin : plugin ∈ builtins) :
    plugin.info.schema.IsRepairable where
  flat := isFlat_of_mem_builtins plugin hplugin
  nodup := nodup_keys_of_mem_builtins plugin hplugin
  filled := by
    have hnull : ∀ plugin ∈ builtins, ∀ field ∈ plugin.info.schema, field.standard = none →
        (field.shape.check .null).toOption = none := by decide
    intro field hfield hnone w hw
    have hrefused := hnull plugin hplugin field hfield hnone
    rw [hw] at hrefused
    simp [Except.toOption] at hrefused

/-- Each field of a built-in type accepts its standard value, a number or a name. -/
theorem exists_check_of_mem_builtins {plugin : Plugin} (hplugin : plugin ∈ builtins) :
    ∀ field ∈ plugin.info.schema, ∃ v w, field.shape.check v = .ok w := by
  have hsome : ∀ plugin ∈ builtins, ∀ field ∈ plugin.info.schema,
      ∃ v ∈ [field.standard.getD .null, .int 1, .str "x"],
        (field.shape.check v).toOption.isSome = true := by decide +kernel
  intro field hfield
  obtain ⟨v, -, haccepted⟩ := hsome plugin hplugin field hfield
  cases hcheck : field.shape.check v with
  | ok w => exact ⟨v, w, hcheck⟩
  | error faults =>
    rw [hcheck] at haccepted
    simp [Except.toOption] at haccepted

/-- Invalid settings of a built-in type are reported key by key.

    The reported key is one of the merged settings. Once it alone is repaired, by a value that its
    field accepts or by its removal if no field has it, the settings are accepted or the next report
    is of a key that comes later in the order of the fields and then of the unknown keys as the
    caller gives them. So no run of repairs is longer than the list of merged keys, and it can be
    continued until the settings are accepted. No key is reported because of another one: no
    settings with this value under it are accepted. -/
theorem reports_key_by_key {plugin : Plugin} (hplugin : plugin ∈ builtins) {given : Entries}
    (hdistinct : given.keys.Nodup) {key : String} {reason : Reason}
    (hreport : plugin.info.schema.parseValue plugin.info.typeKey (.ofEntries given) =
      .error (.graph (.invalidSetting plugin.info.typeKey key reason))) :
    let schema := plugin.info.schema
    let parse := fun given : Entries => schema.parseValue plugin.info.typeKey (.ofEntries given)
    let merged := fun given : Entries => Schema.merge schema.standards given
    let order := schema.checkOrder given
    key ∈ (merged given).keys ∧ order.Nodup ∧
      (∀ next, schema.Repairs key given next →
        (∃ settings, parse next = .ok settings) ∨
          ∃ later why, parse next =
              .error (.graph (.invalidSetting plugin.info.typeKey later why)) ∧
            [key, later].Sublist order) ∧
      (∀ n final, schema.RepairRun plugin.info.typeKey given n final →
        n ≤ (merged given).keys.length ∧
          ((∃ settings, parse final = .ok settings) ∨
            ∃ next, schema.RepairRun plugin.info.typeKey given (n + 1) next)) ∧
      ∀ other : Entries, (merged other).get? key = (merged given).get? key →
        ∀ settings, parse other ≠ .ok settings := by
  have hschema := isRepairable_of_mem_builtins hplugin
  obtain ⟨hwhole, others, hfaulty⟩ := Schema.isWhole_of_report hschema.flat hreport
  have hmem : key ∈ plugin.info.schema.faultyKeys given := by simp [hfaulty]
  have hsublist := Schema.faultyKeys_sublist plugin.info.schema given
  refine ⟨?key, Schema.nodup_checkOrder hschema.nodup hdistinct, ?next, ?run, ?alone⟩
  case key => exact Schema.mem_keys_merge hwhole hdistinct key (hsublist.subset hmem)
  case next =>
    intro next hnext
    have htail := hnext.faultyKeys_tail hschema hdistinct hfaulty
    rcases Schema.parseValue_of_isWhole hschema.flat plugin.info.typeKey
      (hnext.isWhole hschema hdistinct hwhole) with ⟨-, hok⟩ | ⟨later, rest, why, hlater, herror⟩
    · exact Or.inl hok
    · right
      refine ⟨later, why, herror, ?_⟩
      -- the two keys stand in front of the others that are wrong
      rw [hfaulty, ← htail, hlater] at hsublist
      exact (List.prefix_append [key, later] rest).sublist.trans hsublist
  case run =>
    intro n final hrun
    refine ⟨hrun.le_length hschema hdistinct hwhole, ?_⟩
    obtain ⟨-, hsound, -, -⟩ := hrun.faultyKeys_eq hschema hdistinct hwhole
    rcases Schema.parseValue_of_isWhole hschema.flat plugin.info.typeKey hsound with
      ⟨-, hok⟩ | ⟨later, _, why, -, herror⟩
    · exact Or.inl hok
    · right
      obtain ⟨next, hnext⟩ :=
        Schema.exists_repairs (exists_check_of_mem_builtins hplugin) final later
      exact ⟨next, hrun.step herror hnext⟩
  case alone =>
    intro other hsame
    exact Schema.parseValue_ne_ok_of_mem_faultyKeys hdistinct hmem hsame

/-- Settings of a convolution that are wrong under three keys: a field without standard value, a
    pair that counts from zero and a key that is unknown. -/
def wrongConvolution : Entries :=
  [("colour", .str "red"), ("inChannels", .int 1), ("kernelSize", .list [.int 0, .int 3]),
   ("outChannels", .str "many")]

theorem reports_key_by_key_convolution :
    conv2d.plugin ∈ builtins ∧ wrongConvolution.keys.Nodup ∧
      conv2d.schema.faultyKeys wrongConvolution = ["outChannels", "kernelSize", "colour"] ∧
      ∃ reason, conv2d.schema.parseValue "Conv2d" (.ofEntries wrongConvolution) =
          .error (.graph (.invalidSetting "Conv2d" "outChannels" reason)) ∧
        ∀ n final, conv2d.schema.RepairRun "Conv2d" wrongConvolution n final → n ≤ 11 := by
  have hmem : conv2d.plugin ∈ builtins := by simp [builtins]
  have hdistinct : wrongConvolution.keys.Nodup := by decide
  have hreport : conv2d.schema.parseValue "Conv2d" (.ofEntries wrongConvolution) =
      .error (.graph (.invalidSetting "Conv2d" "outChannels" (.mismatch .notInteger))) := rfl
  obtain ⟨-, -, -, hrun, -⟩ := reports_key_by_key hmem hdistinct hreport
  exact ⟨hmem, hdistinct, rfl, _, hreport, fun n final h => (hrun n final h).1⟩

end Node

end LayerGraph
