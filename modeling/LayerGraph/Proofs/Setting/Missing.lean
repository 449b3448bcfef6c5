import LayerGraph.Proofs.Node.Builtins
import LayerGraph.Proofs.Setting.Fits

/-! # Missing settings

    Settings are refused as *missing* before they are refused for anything else: required keys that
    are absent or null go first, all of them together. Next, a pair that is given too few items
    counts as missing, once for each item that it lacks, though its key is there and need not even
    be required. What is refused otherwise is refused as invalid (`refuses_missing_settings`).

    How many items a check finds missing depends only on the shape and on the length of the value
    (`missingIn_check`). This rests on the settings having *flat* shapes: pairs and sequences hold
    scalars, and of two alternatives one is a scalar, which no sequence passes.
-/

namespace LayerGraph

theorem Mismatches.count_append (faults more : Mismatches) (m : Mismatch) :
    (faults.append more).toList.count m = faults.toList.count m + more.toList.count m := by
  show ((faults.first :: faults.others) ++ more.toList).count m = _
  exact List.count_append

namespace Shape

/-! ### Shapes with pairs -/

/-- Whether a shape is one of values that hold no others. -/
def isScalar : Shape → Bool
  | .pair _ | .sequence _ | .optional _ | .either _ _ => false
  | _ => true

/-- Whether pairs and sequences in a shape hold scalars, and of two alternatives one is a scalar. -/
def isFlat : Shape → Bool
  | .pair item | .sequence item => item.isScalar
  | .optional inner => inner.isFlat
  | .either first second =>
    first.isFlat && second.isFlat && (first.isScalar || second.isScalar)
  | _ => true

/-- Whether a pair may stand where the shape is asked for. -/
def takesPair : Shape → Bool
  | .pair _ => true
  | .optional inner => inner.takesPair
  | .either first second => first.takesPair || second.takesPair
  | _ => false

/-- The number of items that a sequence lacks to be a pair, where a pair may stand. What is no
    sequence lacks none. -/
def lacking (shape : Shape) (v : Value) : Nat :=
  match itemsOf v with
  | .ok items => if shape.takesPair then 2 - items.length else 0
  | .error _ => 0

/-- The number of missing items that a check finds. -/
def missingIn {α : Type} : Except Mismatches α → Nat
  | .ok _ => 0
  | .error faults => faults.toList.count .missing

theorem takesPair_scalar {shape : Shape} (h : shape.isScalar = true) : shape.takesPair = false := by
  cases shape with
  | pair | sequence | optional | either => exact absurd h nofun
  | _ => rfl

theorem lacking_of_not_takesPair {shape : Shape} (h : shape.takesPair = false) (v : Value) :
    shape.lacking v = 0 := by
  unfold lacking
  rw [h]
  split <;> rfl

theorem lacking_of_not_sequence {v : Value} (h : itemsOf v = .error .notTuple) (shape : Shape) :
    shape.lacking v = 0 := by
  unfold lacking
  rw [h]

theorem lacking_congr {shape other : Shape} (h : shape.takesPair = other.takesPair) (v : Value) :
    shape.lacking v = other.lacking v := by
  unfold lacking
  rw [h]

/-- Of two alternatives, of which one is a scalar, the other one says how many items are lacking. -/
theorem lacking_either {first second : Shape} (h : (first.isScalar || second.isScalar) = true)
    (v : Value) : (either first second).lacking v = first.lacking v + second.lacking v := by
  rcases Bool.or_eq_true_iff.1 h with hfirst | hsecond
  · have hnone := takesPair_scalar hfirst
    rw [lacking_of_not_takesPair hnone, Nat.zero_add]
    exact lacking_congr (by rw [takesPair, hnone, Bool.false_or]) v
  · have hnone := takesPair_scalar hsecond
    rw [lacking_of_not_takesPair hnone, Nat.add_zero]
    exact lacking_congr (by rw [takesPair, hnone, Bool.or_false]) v

/-! ### Scalars -/

/-- A result that names no missing item. -/
abbrev LacksNone {α : Type} (result : Except Mismatch α) : Prop := FailsWith (· ≠ .missing) result

section scalars
variable {α : Type} {w : Value}

theorem lacksNone_error {m : Mismatch} (h : m ≠ .missing) :
    LacksNone (.error m : Except Mismatch α) :=
  FailsWith.error h

theorem lacksNone_found {m : Mismatch} (h : m ≠ .missing) (found : Option α) :
    LacksNone (found.elim (.error m) .ok) := by
  cases found with
  | none => exact lacksNone_error h
  | some a => exact FailsWith.ok a

/-- A bound that is broken is told by its own mismatch. -/
theorem lacksNone_broken (broken : Option Bound) :
    LacksNone (match broken with | some bound => .error bound.mismatch | none => .ok w) := by
  cases broken with
  | none => exact FailsWith.ok w
  | some bound => cases bound <;> exact FailsWith.error nofun

theorem lacksNone_ite {c : Prop} [Decidable c] {x y : Except Mismatch α} (hx : LacksNone x)
    (hy : LacksNone y) : LacksNone (if c then x else y) := by
  split
  · exact hx
  · exact hy

theorem lacksNone_textOf (v : Value) : LacksNone (textOf v) := by
  unfold textOf
  split
  · exact FailsWith.ok _
  · exact FailsWith.ok _
  · next content =>
    generalize String.fromUTF8? ⟨content.toArray⟩ = decoded
    cases decoded with
    | none => exact FailsWith.error nofun
    | some s => exact FailsWith.ok s
  · exact FailsWith.error nofun

theorem lacksNone_integerOf (bounds : List Bound) (v : Value) :
    LacksNone (integerOf bounds v) := by
  unfold integerOf
  split
  · exact lacksNone_broken _
  · exact FailsWith.error nofun

theorem lacksNone_floatOf (v : Value) : LacksNone (floatOf v) := by
  have hnumber : Mismatch.notNumber ≠ .missing := nofun
  have htext : Mismatch.notNumberText ≠ .missing := nofun
  -- its equations would compute numbers, so the definition is laid open as it stands
  delta floatOf
  cases v with
  | float x => exact FailsWith.ok x
  | bool => exact FailsWith.ok _
  | int => exact lacksNone_found hnumber _
  | str | expr | bytes => exact lacksNone_found htext _
  | _ => exact lacksNone_error hnumber

theorem lacksNone_wordTruth (s : String) : LacksNone (wordTruth s) :=
  lacksNone_ite (FailsWith.ok _) (lacksNone_ite (FailsWith.ok _) (FailsWith.error nofun))

theorem lacksNone_integerTruth (n : Int) : LacksNone (integerTruth n) :=
  lacksNone_ite (FailsWith.ok _) (lacksNone_ite (FailsWith.ok _) (FailsWith.error nofun))

theorem lacksNone_booleanOf (v : Value) : LacksNone (booleanOf v) := by
  unfold booleanOf
  split
  · exact FailsWith.ok _
  · exact lacksNone_wordTruth _
  · exact lacksNone_wordTruth _
  · next content =>
    cases String.fromUTF8? ⟨content.toArray⟩ with
    | none => exact FailsWith.error nofun
    | some s => exact lacksNone_wordTruth s
  · exact lacksNone_ite (lacksNone_integerTruth _) (FailsWith.error nofun)
  · split
    · exact lacksNone_ite (lacksNone_integerTruth _) (FailsWith.error nofun)
    · exact FailsWith.error nofun
  · exact FailsWith.error nofun

theorem lacksNone_dottedNameOf (v : Value) : LacksNone (dottedNameOf v) := by
  refine (lacksNone_textOf v).bind fun s _ => ?_
  split
  · exact FailsWith.error nofun
  · exact FailsWith.ok _

theorem lacksNone_choiceOf (options : List String) (v : Value) :
    LacksNone (choiceOf options v) := by
  unfold choiceOf
  split
  · exact lacksNone_ite (FailsWith.ok _) (FailsWith.error nofun)
  · exact FailsWith.error nofun

theorem missingIn_only {result : Except Mismatch Value} (h : LacksNone result) :
    missingIn (only result) = 0 := by
  cases result with
  | ok w => rfl
  | error m => exact List.count_eq_zero.2 fun hmem => h m rfl (List.mem_singleton.1 hmem).symm

/-- The check of a scalar finds no item missing. -/
theorem missingIn_scalar {shape : Shape} (h : shape.isScalar = true) (v : Value) :
    missingIn (shape.check v) = 0 := by
  cases shape with
  | integer bounds => exact missingIn_only (lacksNone_integerOf bounds v)
  | number bounds =>
    exact missingIn_only ((lacksNone_floatOf v).bind fun _ _ => lacksNone_broken _)
  | boolean => exact missingIn_only (lacksNone_booleanOf v)
  | text => exact missingIn_only ((lacksNone_textOf v).map Value.str)
  | filledText =>
    exact missingIn_only ((lacksNone_textOf v).bind fun _ _ =>
      lacksNone_ite (FailsWith.error nofun) (FailsWith.ok _))
  | name =>
    exact missingIn_only ((lacksNone_textOf v).bind fun _ _ =>
      lacksNone_ite (FailsWith.ok _) (FailsWith.error nofun))
  | dottedName => exact missingIn_only (lacksNone_dottedNameOf v)
  | choice options => exact missingIn_only (lacksNone_choiceOf options v)
  | pair | sequence | optional | either => exact absurd h nofun

/-- No scalar is a sequence. -/
theorem itemsOf_of_scalar {shape : Shape} (h : shape.isScalar = true) {v : Value}
    (hcheck : shape.check v = .ok w) : itemsOf v = .error .notTuple := by
  cases v with
  | tuple | list | set =>
    cases shape with
    | pair | sequence | optional | either => exact absurd h nofun
    | _ => exact absurd hcheck nofun
  | _ => rfl

end scalars

/-! ### Sequences -/

section items
variable {check : Value → Except Mismatches Value} (h : ∀ v, missingIn (check v) = 0)
include h

theorem missingIn_checkItems (items : List Value) : missingIn (checkItems check items) = 0 := by
  induction items with
  | nil => rfl
  | cons item rest ih =>
    have hitem := h item
    rw [checkItems]
    cases hfirst : check item with
    | ok w =>
      cases hrest : checkItems check rest with
      | ok ws => rfl
      | error more => rwa [hrest] at ih
    | error faults =>
      rw [hfirst] at hitem
      cases hrest : checkItems check rest with
      | ok ws => exact hitem
      | error more =>
        rw [hrest] at ih
        calc missingIn (.error (faults.append more))
          _ = missingIn (.error faults) + missingIn (.error more) :=
            faults.count_append more .missing
          _ = 0 := by rw [hitem, ih]

/-- A pair lacks as many items as it has less than two. -/
theorem missingIn_checkPair (items : List Value) :
    missingIn (checkPair check items) = 2 - items.length := by
  match items with
  | [] => rfl
  | [item] =>
    have hitem := h item
    rw [checkPair]
    cases hcheck : check item with
    | ok w => rfl
    | error faults =>
      rw [hcheck] at hitem
      exact (faults.count_append (.one .missing) .missing).trans (congrArg (· + 1) hitem)
  | [first, second] => exact missingIn_checkItems h [first, second]
  | _ :: _ :: _ :: _ => simp [checkPair, missingIn, Mismatches.toList, Mismatches.one]

end items

theorem missingIn_map {α β : Type} (f : α → β) (result : Except Mismatches α) :
    missingIn (f <$> result) = missingIn result := by
  cases result <;> rfl

theorem itemsOf_cases (v : Value) :
    (∃ items, itemsOf v = .ok items) ∨ itemsOf v = .error .notTuple := by
  cases v with
  | tuple items | list items | set items => exact Or.inl ⟨items, rfl⟩
  | _ => exact Or.inr rfl

/-- What passes one of two shapes lacks no items under the other one, if either is a scalar. -/
theorem lacking_of_accepted {shape other : Shape}
    (h : (shape.isScalar || other.isScalar) = true) {v w : Value} (hcheck : shape.check v = .ok w) :
    other.lacking v = 0 := by
  rcases Bool.or_eq_true_iff.1 h with hshape | hother
  · exact lacking_of_not_sequence (itemsOf_of_scalar hshape hcheck) other
  · exact lacking_of_not_takesPair (takesPair_scalar hother) v

/-- The items that a check finds missing are those that the value lacks. -/
theorem missingIn_check {shape : Shape} (h : shape.isFlat = true) (v : Value) :
    missingIn (shape.check v) = shape.lacking v := by
  induction shape generalizing v with
  | pair item =>
    rw [check]
    rcases itemsOf_cases v with ⟨items, hitems⟩ | hitems
    · unfold lacking
      rw [hitems]
      exact (missingIn_map _ _).trans (missingIn_checkPair (missingIn_scalar h) items)
    · rw [hitems, lacking_of_not_sequence hitems]
      rfl
  | sequence item =>
    rw [lacking_of_not_takesPair rfl, check]
    rcases itemsOf_cases v with ⟨items, hitems⟩ | hitems
    · rw [hitems]
      exact (missingIn_map _ _).trans (missingIn_checkItems (missingIn_scalar h) items)
    · rw [hitems]
      rfl
  | optional inner ih =>
    by_cases hnull : v = .null
    · subst hnull
      rfl
    · rw [check]
      · exact ih h v
      · exact hnull
  | either first second ihfirst ihsecond =>
    rw [isFlat, Bool.and_eq_true, Bool.and_eq_true] at h
    obtain ⟨⟨hfirst, hsecond⟩, hscalar⟩ := h
    rw [lacking_either hscalar, ← ihfirst hfirst, ← ihsecond hsecond, check]
    -- a value that one alternative takes lacks nothing under the other one
    cases hf : first.check v with
    | ok w => rw [ihsecond hsecond, lacking_of_accepted hscalar hf]; rfl
    | error faults =>
      cases hs : second.check v with
      | ok w =>
        have hnone : missingIn (.error faults : Except Mismatches Value) = 0 := by
          rw [← hf, ihfirst hfirst, lacking_of_accepted (Bool.or_comm _ _ ▸ hscalar) hs]
        rw [hnone]
        rfl
      | error more => exact faults.count_append more .missing
  | _ => exact (missingIn_scalar rfl v).trans (lacking_of_not_takesPair rfl v).symm

end Shape

/-! ### Schemas -/

namespace Schema

/-- The value of a field after merging: null if there is none. -/
def valueOf (merged : Entries) (field : SettingField) : Value := (merged.get? field.key).getD .null

/-- The keys of the pairs that lack items, each as often as items are lacking. -/
def lackingKeys (schema : Schema) (merged : Entries) : List String :=
  schema.flatMap fun field =>
    List.replicate (field.shape.lacking (valueOf merged field)) field.key

/-- The keys of faults for which something is missing. -/
def missingKeys (faults : List Fault) : List String :=
  (faults.filter (·.reason = .mismatch .missing)).map (·.key)

theorem missingKeys_append (faults more : List Fault) :
    missingKeys (faults ++ more) = missingKeys faults ++ missingKeys more := by
  unfold missingKeys
  rw [List.filter_append, List.map_append]

theorem missingKeys_mismatches (key : String) (faults : List Mismatch) :
    missingKeys (faults.map fun m => ⟨key, .mismatch m⟩) =
      List.replicate (faults.count .missing) key := by
  induction faults with
  | nil => rfl
  | cons m rest ih =>
    rw [List.map_cons, ← List.singleton_append, missingKeys_append, ih, List.count_cons]
    by_cases hm : m = .missing
    · subst hm
      exact (List.replicate_succ).symm
    · have hnone : missingKeys [⟨key, .mismatch m⟩] = [] := by simp [missingKeys, hm]
      rw [hnone]
      simp [hm]

theorem missingKeys_fieldFaults {field : SettingField} (h : field.shape.isFlat = true)
    (merged : Entries) :
    missingKeys (fieldFaults merged field) =
      List.replicate (field.shape.lacking (valueOf merged field)) field.key := by
  rw [← Shape.missingIn_check h]
  unfold fieldFaults valueOf
  cases field.shape.check ((merged.get? field.key).getD .null) with
  | ok w => rfl
  | error faults => exact missingKeys_mismatches field.key faults.toList

theorem missingKeys_flatMap {schema : Schema} (h : ∀ field ∈ schema, field.shape.isFlat = true)
    (merged : Entries) :
    missingKeys (schema.flatMap (fieldFaults merged)) = schema.lackingKeys merged := by
  induction schema with
  | nil => rfl
  | cons field rest ih =>
    obtain ⟨hfield, hrest⟩ := List.forall_mem_cons.1 h
    unfold lackingKeys at ih ⊢
    rw [List.flatMap_cons, missingKeys_append, missingKeys_fieldFaults hfield, ih hrest,
      List.flatMap_cons]

/-- For a key outside the schema nothing is missing. -/
theorem missingKeys_strangers (schema : Schema) (given : List (Value × Value)) :
    missingKeys (given.filterMap schema.strangerOf) = [] := by
  unfold missingKeys
  rw [List.map_eq_nil_iff, List.filter_eq_nil_iff]
  intro fault hfault
  obtain ⟨entry, _, hentry⟩ := List.mem_filterMap.1 hfault
  unfold strangerOf at hentry
  split at hentry
  · split at hentry
    · exact absurd hentry nofun
    · obtain rfl := Option.some.inj hentry
      simp
  · obtain rfl := Option.some.inj hentry
    simp

theorem mem_absent_iff {merged : Entries} {required : List String} {key : String} :
    key ∈ absent merged required ↔ key ∈ required ∧ (merged.get? key).getD .null = .null := by
  unfold absent
  rw [List.mem_filter]
  refine and_congr_right fun _ => ?_
  unfold isAbsent
  split <;> simp_all

theorem nodup_required {schema : Schema} (h : schema.keys.Nodup) : schema.required.Nodup :=
  h.sublist (List.filter_sublist.map _)

/-- The keys for which merged settings are refused as missing: those that are absent, or else those
    of the pairs that lack items. -/
def missing (schema : Schema) (merged : Entries) : List String :=
  if absent merged schema.required = [] then schema.lackingKeys merged
  else absent merged schema.required

/-- Merged settings are refused as missing if anything is, and else, if at all, as invalid. -/
theorem checkMerged_cases {schema : Schema} (h : ∀ field ∈ schema, field.shape.isFlat = true)
    (nodeType : String) (merged : Entries) {unknown : List Fault}
    (hunknown : missingKeys unknown = []) :
    (schema.missing merged ≠ [] ∧ checkMerged schema nodeType merged unknown =
        .error (.missingRequired nodeType (schema.missing merged))) ∨
      schema.missing merged = [] ∧
        FailsWith (fun error => ∃ key reason, error = .invalidSetting nodeType key reason)
          (checkMerged schema nodeType merged unknown) := by
  have hlacking : missingKeys (schema.flatMap (fieldFaults merged) ++ unknown) =
      schema.lackingKeys merged := by
    rw [missingKeys_append, missingKeys_flatMap h, hunknown, List.append_nil]
  generalize hfaults : schema.flatMap (fieldFaults merged) ++ unknown = faults at hlacking
  unfold checkMerged missing
  rw [hfaults]
  cases absent merged schema.required with
  | cons key others => exact Or.inl ⟨nofun, rfl⟩
  | nil =>
    -- a missing key inside a setting counts before any other fault
    have herror : errorOf nodeType faults =
        if (schema.lackingKeys merged).isEmpty then
          faults.head?.map fun fault => .invalidSetting nodeType fault.key fault.reason
        else some (.missingRequired nodeType (schema.lackingKeys merged)) := by
      rw [← hlacking]
      rfl
    rw [herror]
    cases schema.lackingKeys merged with
    | cons key others => exact Or.inl ⟨nofun, rfl⟩
    | nil =>
      refine Or.inr ⟨rfl, ?_⟩
      cases faults with
      | nil => exact FailsWith.ok _
      | cons fault rest => exact FailsWith.error ⟨fault.key, fault.reason, rfl⟩

/-- The same of settings as a caller gives them. -/
theorem parseValue_eq_missing_iff {schema : Schema}
    (h : ∀ field ∈ schema, field.shape.isFlat = true) {nodeType : String}
    {given : List (Value × Value)} {keys : List String} :
    schema.parseValue nodeType (.map given) = .error (.graph (.missingRequired nodeType keys)) ↔
      schema.missing (merge schema.standards (named given)) ≠ [] ∧
        keys = schema.missing (merge schema.standards (named given)) := by
  rw [parseValue, Result.mapError_eq_error]
  rcases checkMerged_cases h nodeType (merge schema.standards (named given))
    (missingKeys_strangers schema given) with ⟨hmissing, hchecked⟩ | ⟨hmissing, hchecked⟩
  · simp [hchecked, hmissing, eq_comm]
  · -- nothing is missing, so an error is one of an invalid value
    refine iff_of_false ?_ fun h => h.1 hmissing
    rintro ⟨error, herror, hgraph⟩
    obtain ⟨key, reason, rfl⟩ := hchecked error herror
    exact absurd hgraph nofun

theorem exists_of_parseValue_eq_error {schema : Schema}
    (h : ∀ field ∈ schema, field.shape.isFlat = true) {nodeType : String}
    {given : List (Value × Value)} {failure : Failure}
    (hfailure : schema.parseValue nodeType (.map given) = .error failure) :
    (∃ keys, failure = .graph (.missingRequired nodeType keys)) ∨
      ∃ key reason, failure = .graph (.invalidSetting nodeType key reason) := by
  rw [parseValue, Result.mapError_eq_error] at hfailure
  obtain ⟨error, herror, rfl⟩ := hfailure
  rcases checkMerged_cases h nodeType (merge schema.standards (named given))
    (missingKeys_strangers schema given) with ⟨_, hchecked⟩ | ⟨_, hchecked⟩
  · obtain rfl := Except.error.inj (herror.symm.trans hchecked)
    exact Or.inl ⟨_, rfl⟩
  · obtain ⟨key, reason, rfl⟩ := hchecked error herror
    exact Or.inr ⟨key, reason, rfl⟩

end Schema

namespace Node

theorem isFlat_of_mem_builtins :
    ∀ plugin ∈ builtins, ∀ field ∈ plugin.info.schema, field.shape.isFlat = true := by
  decide

theorem nodup_keys_of_mem_builtins : ∀ plugin ∈ builtins, plugin.info.schema.keys.Nodup := by
  decide

/-- The settings of a built-in type are refused as missing exactly if a required key is absent or,
    with all of them there, a pair lacks items.

    In the first case the keys are the required ones that are absent or null after merging, each
    once and in the order of the schema, whatever else is wrong. In the second case they are those
    of the pairs, required or not, each as often as it lacks items. All other refusals are of an
    invalid value. -/
theorem refuses_missing_settings {plugin : Plugin} (hplugin : plugin ∈ builtins)
    (given : List (Value × Value)) :
    let schema := plugin.info.schema
    let merged := Schema.merge schema.standards (Schema.named given)
    let absent := Schema.absent merged schema.required
    let missing := if absent = [] then schema.lackingKeys merged else absent
    let result := schema.parseValue plugin.info.typeKey (.map given)
    (∀ key, key ∈ absent ↔ key ∈ schema.required ∧ (merged.get? key).getD .null = .null) ∧
      absent.Sublist schema.required ∧ schema.required.Nodup ∧
      (∀ keys, result = .error (.graph (.missingRequired plugin.info.typeKey keys)) ↔
        missing ≠ [] ∧ keys = missing) ∧
      ∀ failure, result = .error failure →
        (∃ keys, failure = .graph (.missingRequired plugin.info.typeKey keys)) ∨
          ∃ key reason, failure = .graph (.invalidSetting plugin.info.typeKey key reason) := by
  have hflat := isFlat_of_mem_builtins plugin hplugin
  exact ⟨fun key => Schema.mem_absent_iff, List.filter_sublist,
    Schema.nodup_required (nodup_keys_of_mem_builtins plugin hplugin),
    fun keys => Schema.parseValue_eq_missing_iff hflat,
    fun failure => Schema.exists_of_parseValue_eq_error hflat⟩

/-- Settings of a convolution with one required key null and another one absent, next to a pair
    that lacks an item and a key that is unknown. -/
def scantConvolution : List (Value × Value) :=
  [(.str "inChannels", .null), (.str "kernelSize", .list [.int 3]), (.str "colour", .str "red")]

theorem refuses_missing_settings_convolution :
    conv2d.plugin ∈ builtins ∧ conv2d.schema.parseValue "Conv2d" (.map scantConvolution) =
      .error (.graph (.missingRequired "Conv2d" ["inChannels", "outChannels"])) := by
  have hmem : conv2d.plugin ∈ builtins := by simp [builtins]
  exact ⟨hmem, ((refuses_missing_settings hmem scantConvolution).2.2.2.1 _).2
    ⟨by decide, by decide⟩⟩

/-- Settings of a convolution with all required keys, and a pair with one item. -/
def shortKernel : Entries :=
  [("inChannels", .int 1), ("outChannels", .int 1), ("kernelSize", .list [.int 3])]

/-- A pair with one item is told to be missing, though no required key is absent. -/
theorem parseValue_shortKernel :
    Schema.absent (Schema.merge conv2d.schema.standards shortKernel) conv2d.schema.required = [] ∧
      conv2d.schema.parseValue "Conv2d" (.ofEntries shortKernel) =
        .error (.graph (.missingRequired "Conv2d" ["kernelSize"])) :=
  ⟨by decide, rfl⟩

end Node

end LayerGraph
