import LayerGraph.Proofs.Setting.Repair
import LayerGraph.Setting.Merge

/-! # Normal settings

    Validated settings are normal: with their tuples written as lists they pass the checks again and
    come out as they went in (`parseValue_plain`). Two things are behind this. A check does not tell
    a tuple from the list with its items (`Shape.check_plain`), and what fits a shape passes its
    check unchanged (`Shape.check_of_fits`), as long as no alternative takes what a later one gives.

    The standard values of a node type are neutral: laying settings over them changes neither what
    is found under a key (`named_foldl_insertEntry`) nor which unknown key comes first
    (`head?_strangers`), so it changes neither the outcome of the checks nor the code
    (`settings_are_normal`).
-/

namespace LayerGraph

open NodeInfo (plain plainAll plainEntries)

/-! ### Equal keys -/

/-- A value equals a text across types exactly if it has this text. -/
theorem Value.equals_iff_of_text? {v w : Value} {name : String} (hw : w.text? = some name) :
    v.equals w = true ↔ v.text? = some name := by
  cases w with
  | str s | expr s =>
    obtain rfl := Option.some.inj hw
    cases v <;> simp [equals, leafEquals, integer?, text?]
  | _ => simp [text?] at hw

/-- Equal values have the same text, if any. -/
theorem Value.text?_eq_of_equals {v w : Value} (h : v.equals w = true) : v.text? = w.text? := by
  cases hw : w.text? with
  | some name => exact (equals_iff_of_text? hw).1 h
  | none =>
    cases v with
    | str | expr => cases w <;> simp_all [equals, leafEquals, integer?, text?]
    | _ => rfl

/-! ### Tuples as lists -/

namespace NodeInfo

theorem plainAll_eq_map (items : List Value) : plainAll items = items.map plain := by
  induction items with
  | nil => rfl
  | cons v rest ih => rw [plainAll, ih, List.map_cons]

theorem plainEntries_eq_map (entries : List (Value × Value)) :
    plainEntries entries = entries.map fun entry => (entry.1, plain entry.2) := by
  induction entries with
  | nil => rfl
  | cons entry rest ih => rw [plainEntries, ih, List.map_cons]

/-- Entries in whose values all tuples are lists. -/
def plainValues (entries : Entries) : Entries := entries.map fun entry => (entry.1, plain entry.2)

theorem plain_ofEntries (entries : Entries) :
    plain (.ofEntries entries) = .ofEntries (plainValues entries) := by
  unfold Value.ofEntries plainValues
  rw [plain, plainEntries_eq_map, List.map_map, List.map_map]
  rfl

theorem keys_plainValues (entries : Entries) : (plainValues entries).keys = entries.keys := by
  unfold plainValues Entries.keys
  rw [List.map_map]
  rfl

theorem get?_plainValues (entries : Entries) (key : String) :
    (plainValues entries).get? key = (entries.get? key).map plain := by
  induction entries with
  | nil => rfl
  | cons entry rest ih =>
    unfold plainValues at ih ⊢
    rw [List.map_cons]
    by_cases h : key = entry.1
    · subst h
      rw [Entries.get?_cons_self, Entries.get?_cons_self]
      rfl
    · rw [Entries.get?_cons_of_ne h, Entries.get?_cons_of_ne h, ih]

theorem plain_eq_null {v : Value} : plain v = .null ↔ v = .null := by
  cases v <;> simp [plain]

end NodeInfo

/-! ### Shapes -/

namespace Shape

open NodeInfo (plainAll_eq_map plain_eq_null)

/-- A check of the items of a sequence does not tell tuples from lists, if that of an item does
    not. -/
theorem checkItems_map_plain {check : Value → Except Mismatches Value}
    (h : ∀ v, check (plain v) = check v) (items : List Value) :
    checkItems check (items.map plain) = checkItems check items := by
  induction items with
  | nil => rfl
  | cons item rest ih => rw [List.map_cons, checkItems, checkItems, h, ih]

theorem checkPair_map_plain {check : Value → Except Mismatches Value}
    (h : ∀ v, check (plain v) = check v) (items : List Value) :
    checkPair check (items.map plain) = checkPair check items := by
  rcases items with _ | ⟨first, _ | ⟨second, _ | ⟨third, rest⟩⟩⟩
  · rfl
  · simp only [List.map_cons, List.map_nil, checkPair, h]
  · exact checkItems_map_plain h [first, second]
  · simp [checkPair]

/-- The items of a tuple are those of the list that stands for it. -/
theorem check_plain_of_items {check : List Value → Except Mismatches Value}
    (h : ∀ items, check (items.map plain) = check items) (v : Value) :
    ((itemsOf (plain v)).mapError Mismatches.one >>= check) =
      ((itemsOf v).mapError Mismatches.one >>= check) := by
  cases v with
  | tuple items =>
    rw [plain, plainAll_eq_map]
    exact h items
  | _ => rfl

/-- A check does not tell a tuple from the list with its items. -/
theorem check_plain (shape : Shape) (v : Value) : shape.check (plain v) = shape.check v := by
  induction shape generalizing v with
  | pair item ih =>
    simp only [check]
    apply check_plain_of_items
    intro items
    rw [checkPair_map_plain ih]
  | sequence item ih =>
    simp only [check]
    apply check_plain_of_items
    intro items
    rw [checkItems_map_plain ih]
  | optional inner ih =>
    by_cases hnull : v = .null
    · rw [hnull]
      rfl
    · rw [check, check, ih]
      · exact hnull
      · exact fun h => hnull (plain_eq_null.1 h)
  | either first second ihfirst ihsecond => rw [check, check, ihfirst, ihsecond]
  -- no other shape takes a sequence or a mapping
  | _ => cases v <;> rfl

/-- Whether a shape is one of texts. -/
def isText : Shape → Bool
  | .text | .filledText | .name | .dottedName | .choice _ => true
  | _ => false

/-- Whether a shape is one of sequences. -/
def isRow : Shape → Bool
  | .pair _ | .sequence _ => true
  | _ => false

/-- Whether a shape takes no text. -/
def refusesText : Shape → Bool
  | .integer _ | .pair _ | .sequence _ => true
  | .optional inner => inner.refusesText
  | .either first second => first.refusesText && second.refusesText
  | _ => false

/-- Whether no alternative in a shape takes what a later one gives. -/
def isUnmixed : Shape → Bool
  | .pair item | .sequence item | .optional item => item.isUnmixed
  | .either first second =>
    first.isUnmixed && second.isUnmixed &&
      (first.isScalar && second.isRow || first.refusesText && second.isText)
  | _ => true

theorem check_ne_ok_of_refusesText {shape : Shape} (h : shape.refusesText = true) (s : String)
    (w : Value) : shape.check (.str s) ≠ .ok w := by
  induction shape generalizing w with
  | integer => simp [check, integerOf, only, Except.mapError]
  | pair | sequence =>
    intro hok
    cases hok
  | optional inner ih =>
    rw [check]
    · exact ih h w
    · simp
  | either first second ihfirst ihsecond =>
    rw [refusesText, Bool.and_eq_true] at h
    intro hok
    rcases either_eq_ok hok with hfirst | hsecond
    · exact ihfirst h.1 w hfirst
    · exact ihsecond h.2 w hsecond
  | _ => simp [refusesText] at h

theorem exists_str_of_isText {shape : Shape} (h : shape.isText = true) {v : Value}
    (hv : shape.Fits v) : ∃ s, v = .str s := by
  cases shape with
  | text => exact hv
  | filledText | name | dottedName | choice =>
    obtain ⟨s, hs, -⟩ := hv
    exact ⟨s, hs⟩
  | _ => simp [isText] at h

theorem exists_tuple_of_isRow {shape : Shape} (h : shape.isRow = true) {v : Value}
    (hv : shape.Fits v) : ∃ items, v = .tuple items := by
  cases shape with
  | pair =>
    obtain ⟨first, second, hs, -⟩ := hv
    exact ⟨_, hs⟩
  | sequence =>
    obtain ⟨items, hs, -⟩ := hv
    exact ⟨items, hs⟩
  | _ => simp [isRow] at h

theorem checkItems_of_forall {check : Value → Except Mismatches Value} {items : List Value}
    (h : ∀ v ∈ items, check v = .ok v) : checkItems check items = .ok items := by
  induction items with
  | nil => rfl
  | cons item rest ih =>
    obtain ⟨hitem, hrest⟩ := List.forall_mem_cons.1 h
    rw [checkItems, hitem, ih hrest]

/-- What only the second alternative takes passes its check. -/
theorem check_either_of_refused {first second : Shape} {v w : Value}
    (hrefused : ∀ u, first.check v ≠ .ok u) (h : second.check v = .ok w) :
    (either first second).check v = .ok w := by
  rw [check]
  cases hfirst : first.check v with
  | ok u => exact absurd hfirst (hrefused u)
  | error faults => rw [h]

/-- The first of two alternatives that are apart does not take what the second one gives. -/
theorem check_ne_ok_of_apart {first second : Shape}
    (hapart : first.isScalar = true ∧ second.isRow = true ∨
      first.refusesText = true ∧ second.isText = true) {v : Value} (hv : second.Fits v)
    (u : Value) : first.check v ≠ .ok u := by
  intro hu
  rcases hapart with ⟨hscalar, hrow⟩ | ⟨hrefuses, htext⟩
  · obtain ⟨items, rfl⟩ := exists_tuple_of_isRow hrow hv
    have hnone := itemsOf_of_scalar hscalar hu
    simp [itemsOf] at hnone
  · obtain ⟨s, rfl⟩ := exists_str_of_isText htext hv
    exact check_ne_ok_of_refusesText hrefuses s u hu

/-- What fits a shape passes its check unchanged. -/
theorem check_of_fits {shape : Shape} (h : shape.isUnmixed = true) {v : Value}
    (hv : shape.Fits v) : shape.check v = .ok v := by
  induction shape generalizing v with
  | integer bounds => exact only_eq_ok.2 (integerOf_eq_ok.2 ⟨rfl, hv⟩)
  | number bounds =>
    obtain ⟨x, rfl, hbounds⟩ := hv
    exact only_eq_ok.2 (numberOf_eq_ok.2 ⟨x, rfl, rfl, hbounds⟩)
  | boolean =>
    obtain ⟨b, rfl⟩ := hv
    rfl
  | text =>
    obtain ⟨s, rfl⟩ := hv
    rfl
  | filledText =>
    obtain ⟨s, rfl, hfilled⟩ := hv
    exact only_eq_ok.2 (filledTextOf_eq_ok.2 ⟨s, rfl, rfl, hfilled⟩)
  | name =>
    obtain ⟨s, rfl, hname⟩ := hv
    exact only_eq_ok.2 (nameOf_eq_ok.2 ⟨s, rfl, rfl, hname⟩)
  | dottedName =>
    obtain ⟨s, rfl, hparts⟩ := hv
    exact only_eq_ok.2 (dottedNameOf_eq_ok.2 ⟨s, rfl, rfl, hparts⟩)
  | choice options =>
    obtain ⟨s, rfl, hoption⟩ := hv
    exact only_eq_ok.2 (choiceOf_eq_ok.2 ⟨s, rfl, rfl, hoption⟩)
  | pair item ih =>
    obtain ⟨first, second, rfl, hfirst, hsecond⟩ := hv
    have hall : checkItems item.check [first, second] = .ok [first, second] := by
      apply checkItems_of_forall
      simp [ih h hfirst, ih h hsecond]
    rw [check]
    apply Result.bind_eq_ok.2
    exact ⟨[first, second], rfl, by rw [checkPair, hall]; rfl⟩
  | sequence item ih =>
    obtain ⟨items, rfl, hitems⟩ := hv
    have hall : checkItems item.check items = .ok items := by
      apply checkItems_of_forall
      intro v hv
      exact ih h (hitems v hv)
    rw [check]
    apply Result.bind_eq_ok.2
    exact ⟨items, rfl, by rw [hall]; rfl⟩
  | optional inner ih =>
    by_cases hnull : v = .null
    · rw [hnull]
      rfl
    · rw [check]
      · exact ih h (hv.resolve_left hnull)
      · exact hnull
  | either first second ihfirst ihsecond =>
    simp only [isUnmixed, Bool.and_eq_true, Bool.or_eq_true] at h
    obtain ⟨⟨hfirst, hsecond⟩, hapart⟩ := h
    -- the first shape is tried first, and it refuses what fits the second, for they are apart
    rcases hv with hv | hv
    · rw [check, ihfirst hfirst hv]
    · exact check_either_of_refused (check_ne_ok_of_apart hapart hv) (ihsecond hsecond hv)

end Shape

/-! ### Validated settings once more -/

namespace Schema

open NodeInfo (plainValues plain_ofEntries keys_plainValues get?_plainValues plain_eq_null)

/-- Accepted settings are the checked values of fields that have no faults and lack nothing. -/
theorem exists_merged_of_parseValue {schema : Schema} {nodeType : String} {given : Value}
    {settings : Entries} (h : schema.parseValue nodeType given = .ok settings) :
    ∃ merged, settings = schema.map (fieldValue merged) ∧
      ∀ field ∈ schema, fieldFaults merged field = [] ∧
        (field.standard = none → valueOf merged field ≠ .null) := by
  have hchecked : ∃ merged unknown, checkMerged schema nodeType merged unknown = .ok settings := by
    unfold parseValue at h
    split at h
    · exact ⟨_, _, Result.mapError_eq_ok.1 h⟩
    · exact ⟨_, _, Result.mapError_eq_ok.1 h⟩
    · cases h
  obtain ⟨merged, unknown, hmerged⟩ := hchecked
  obtain ⟨habsent, hfaults, -, hsettings⟩ := checkMerged_eq_ok_iff.1 hmerged
  refine ⟨merged, hsettings, fun field hfield => ⟨hfaults field hfield, ?_⟩⟩
  intro hnone hnull
  have hrequired : field.key ∈ schema.required := by
    apply List.mem_map_of_mem
    simp [hfield, hnone]
  have hmem := mem_absent_iff.2 ⟨hrequired, hnull⟩
  rw [habsent] at hmem
  simp at hmem

/-- A field with an accepted value has the checked value and no fault. -/
theorem fieldValue_of_check {merged : Entries} {field : SettingField} {v : Value}
    (h : field.shape.check (valueOf merged field) = .ok v) :
    fieldValue merged field = (field.key, v) ∧ fieldFaults merged field = [] := by
  unfold fieldValue fieldFaults
  rw [← valueOf, h]
  exact ⟨rfl, rfl⟩

/-- Validated settings, with their tuples written as lists, are validated to what they are. -/
theorem parseValue_plain {schema : Schema} (hschema : schema.IsRepairable)
    (hunmixed : ∀ field ∈ schema, field.shape.isUnmixed = true) {nodeType : String} {given : Value}
    {settings : Entries} (h : schema.parseValue nodeType given = .ok settings) :
    schema.parseValue nodeType (plain (.ofEntries settings)) = .ok settings := by
  obtain ⟨merged, rfl, hmerged⟩ := exists_merged_of_parseValue h
  have hkeys : Entries.keys (schema.map (fieldValue merged)) = schema.keys := by
    unfold Entries.keys keys
    rw [List.map_map]
    exact List.map_congr_left fun field _ => key_fieldValue merged field
  -- what is checked again is what came out of the first check
  have hvalue {field : SettingField} (hfield : field ∈ schema) :
      ∃ v, fieldValue merged field = (field.key, v) ∧ field.shape.check v = .ok v ∧
        valueOf (merge schema.standards (plainValues (schema.map (fieldValue merged)))) field =
          plain v := by
    obtain ⟨v, hv, hnormal⟩ := check_of_fieldFaults (hmerged field hfield).1
    refine ⟨v, hnormal, ?_, ?_⟩
    · exact Shape.check_of_fits (hunmixed field hfield) (Shape.fits_of_check hv)
    · unfold valueOf
      rw [get?_merge (by rw [keys_plainValues, hkeys]; exact hschema.nodup), get?_plainValues,
        get?_map_fieldValue hschema.nodup hfield, hnormal]
      rfl
  rw [plain_ofEntries, Value.ofEntries, parseValue, named_ofEntries, strangerOf_ofEntries]
  apply Result.mapError_eq_ok.2
  refine checkMerged_eq_ok_iff.2 ⟨?absent, ?faults, ?unknown, ?values⟩
  case absent =>
    rw [List.eq_nil_iff_forall_not_mem]
    intro key hkey
    obtain ⟨hrequired, hnull⟩ := mem_absent_iff.1 hkey
    obtain ⟨field, hfield, rfl⟩ := List.mem_map.1 hrequired
    obtain ⟨hmem, hnone⟩ := List.mem_filter.1 hfield
    obtain ⟨v, -, hcheck, hagain⟩ := hvalue hmem
    rw [valueOf, hnull, eq_comm, plain_eq_null] at hagain
    rw [hagain] at hcheck
    exact hschema.filled field hmem (by simpa using hnone) _ hcheck
  case faults =>
    intro field hfield
    obtain ⟨v, -, hcheck, hagain⟩ := hvalue hfield
    apply (fieldValue_of_check (v := v) _).2
    rw [hagain, Shape.check_plain, hcheck]
  case unknown =>
    unfold unknownKeys
    rw [keys_plainValues, hkeys, List.map_eq_nil_iff, List.filter_eq_nil_iff]
    intro key hkey
    simp [hkey]
  case values =>
    apply List.map_congr_left
    intro field hfield
    obtain ⟨v, hnormal, hcheck, hagain⟩ := hvalue hfield
    rw [hnormal]
    symm
    apply (fieldValue_of_check _).1
    rw [hagain, Shape.check_plain, hcheck]

/-! ### Laid over the standard values -/

theorem keys_standards_sublist (schema : Schema) :
    schema.standards.keys.Sublist schema.keys := by
  unfold standards Entries.keys keys
  induction schema with
  | nil => exact List.Sublist.slnil
  | cons field rest ih =>
    cases hstandard : field.standard with
    | none => simpa [hstandard] using ih.cons field.key
    | some v => simpa [hstandard] using ih

section laid
variable {schema : Schema}

/-- What is found under a key was given, whatever it is laid over, or comes from what it is laid
    over. -/
theorem get?_merge_cases (given : Entries) (key : String) :
    (∃ v, ∀ standards, (merge standards given).get? key = some v) ∨
      ∀ standards, (merge standards given).get? key = standards.get? key := by
  induction given with
  | nil => exact Or.inr fun _ => rfl
  | cons entry rest ih =>
    rcases ih with ⟨v, hv⟩ | hnone
    · exact Or.inl ⟨v, fun standards => hv _⟩
    · by_cases hkey : key = entry.1
      · left
        refine ⟨entry.2, fun standards => (hnone _).trans ?_⟩
        rw [hkey]
        exact Entries.get?_set_self ..
      · right
        intro standards
        exact (hnone _).trans (Entries.get?_set_of_ne hkey ..)

theorem nodup_keys_merge {standards : Entries} (h : standards.keys.Nodup) (given : Entries) :
    (merge standards given).keys.Nodup := by
  induction given generalizing standards with
  | nil => exact h
  | cons entry rest ih => exact ih (Entries.nodup_keys_set h ..)

/-- Writing an entry under a text into a mapping writes its value under this text. -/
theorem named_insertEntry {known : List (Value × Value)} {key value : Value} {name : String}
    (h : key.text? = some name) :
    named (Value.insertEntry known key value) = (named known).set name value := by
  have halike (v : Value) : v.equals key = (v.text? == some name) := by
    rw [Bool.eq_iff_iff, beq_iff_eq]
    exact Value.equals_iff_of_text? h
  have hany : (named known).any (·.1 == name) =
      known.any fun entry => entry.1.text? == some name := by
    unfold named
    rw [List.any_filterMap]
    congr 1
    funext entry
    cases entry.1.text? <;> simp
  unfold Value.insertEntry Value.insertEntryBy Entries.set
  simp only [halike, hany]
  split
  · unfold named
    rw [List.filterMap_map, List.map_filterMap]
    congr 1
    funext entry
    by_cases hname : entry.1.text? = some name
    · simp [hname]
    · cases htext : entry.1.text? with
      | none => simp [htext]
      | some other =>
        have hne : other ≠ name := fun hsame => hname (hsame ▸ htext)
        simp [htext, hne]
  · unfold named
    rw [List.filterMap_append]
    simp [h]

theorem named_insertEntry_of_none {known : List (Value × Value)} {key value : Value}
    (h : key.text? = none) : named (Value.insertEntry known key value) = named known := by
  unfold Value.insertEntry Value.insertEntryBy
  split
  · unfold named
    rw [List.filterMap_map]
    congr 1
    funext entry
    by_cases halike : entry.1.equals key = true
    · have hnone := (Value.text?_eq_of_equals halike).trans h
      simp [halike, hnone]
    · simp [halike]
  · unfold named
    rw [List.filterMap_append]
    simp [h]

/-- Under texts, laying entries over others is merging. -/
theorem named_foldl_insertEntry (entries known : List (Value × Value)) :
    named (entries.foldl (fun laid entry => Value.insertEntry laid entry.1 entry.2) known) =
      merge (named known) (named entries) := by
  induction entries generalizing known with
  | nil => rfl
  | cons entry rest ih =>
    rw [List.foldl_cons, ih]
    cases htext : entry.1.text? with
    | none =>
      rw [named_insertEntry_of_none htext]
      unfold named
      simp [htext]
    | some name =>
      rw [named_insertEntry htext]
      unfold named merge
      simp [htext]

/-- The first unknown key of entries that are laid over others is the first one of all of them. -/
theorem head?_strangers_insertEntry (known : List (Value × Value)) (key value : Value) :
    ((Value.insertEntry known key value).filterMap schema.strangerOf).head? =
      (known.filterMap schema.strangerOf).head?.or (schema.strangerOf (key, value)) := by
  unfold Value.insertEntry Value.insertEntryBy
  split
  · next hany =>
    have hkept : (known.map fun entry =>
        if entry.1.equals key then (entry.1, value) else entry).filterMap schema.strangerOf =
          known.filterMap schema.strangerOf := by
      rw [List.filterMap_map]
      congr 1
      funext entry
      simp only [Function.comp_apply]
      split <;> rfl
    rw [hkept]
    cases hknown : (known.filterMap schema.strangerOf).head? with
    | some fault => rfl
    | none =>
      -- the equal key is known, so this one is too
      obtain ⟨entry, hentry, halike⟩ := List.any_eq_true.1 hany
      rw [List.head?_eq_none_iff, List.filterMap_eq_nil_iff] at hknown
      have hnone := hknown entry hentry
      unfold strangerOf at hnone ⊢
      rw [Value.text?_eq_of_equals halike] at hnone
      rw [Option.none_or]
      cases htext : key.text? with
      | none => simp [htext] at hnone
      | some name => simpa [htext] using hnone
  · rw [List.filterMap_append, List.head?_append]
    cases hfault : schema.strangerOf (key, value) <;> simp [hfault]

theorem head?_strangers (entries known : List (Value × Value)) :
    ((entries.foldl (fun laid entry => Value.insertEntry laid entry.1 entry.2) known).filterMap
        schema.strangerOf).head? =
      (known.filterMap schema.strangerOf).head?.or (entries.filterMap schema.strangerOf).head? := by
  induction entries generalizing known with
  | nil => simp
  | cons entry rest ih =>
    rw [List.foldl_cons, ih, head?_strangers_insertEntry, Option.or_assoc]
    congr 1
    cases hfault : schema.strangerOf entry <;> simp [hfault]

/-- Merged settings are checked field by field, and of the unknown keys only the first counts. -/
theorem checkMerged_congr {nodeType : String} {merged other : Entries}
    {unknown strange : List Fault}
    (hcheck : ∀ field ∈ schema,
      field.shape.check (valueOf merged field) = field.shape.check (valueOf other field))
    (habsent : absent merged schema.required = absent other schema.required)
    (hhead : unknown.head? = strange.head?) (hunknown : missingKeys unknown = [])
    (hstrange : missingKeys strange = []) :
    checkMerged schema nodeType merged unknown = checkMerged schema nodeType other strange := by
  have hfaults : schema.flatMap (fieldFaults merged) = schema.flatMap (fieldFaults other) := by
    apply List.flatMap_congr
    intro field hfield
    unfold fieldFaults
    rw [← valueOf, ← valueOf, hcheck field hfield]
  have hvalues : schema.map (fieldValue merged) = schema.map (fieldValue other) := by
    apply List.map_congr_left
    intro field hfield
    unfold fieldValue
    rw [← valueOf, ← valueOf, hcheck field hfield]
  have herror : errorOf nodeType (schema.flatMap (fieldFaults merged) ++ unknown) =
      errorOf nodeType (schema.flatMap (fieldFaults other) ++ strange) := by
    unfold errorOf
    rw [← missingKeys, ← missingKeys, missingKeys_append, missingKeys_append, hunknown, hstrange,
      List.head?_append, List.head?_append, hhead, hfaults]
  unfold checkMerged
  rw [habsent, herror, hvalues]

/-- Laying settings over the standard values, with their tuples written as lists, changes nothing
    for the checks. -/
theorem parseValue_laid (hkeys : schema.keys.Nodup) (nodeType : String)
    (entries : List (Value × Value)) :
    schema.parseValue nodeType (.map (entries.foldl
        (fun laid entry => Value.insertEntry laid entry.1 entry.2)
        ((plainValues schema.standards).map fun entry => (.str entry.1, entry.2)))) =
      schema.parseValue nodeType (.map entries) := by
  have hstandards : (plainValues schema.standards).keys.Nodup := by
    rw [keys_plainValues]
    exact hkeys.sublist (keys_standards_sublist schema)
  -- a field has the value that is given, or its standard value, perhaps with lists for tuples
  have hvalue (key : String) :
      (merge schema.standards (merge (plainValues schema.standards) (named entries))).get? key =
          (merge schema.standards (named entries)).get? key ∨
        (merge schema.standards (merge (plainValues schema.standards) (named entries))).get? key =
          ((merge schema.standards (named entries)).get? key).map plain := by
    rw [get?_merge (nodup_keys_merge hstandards _)]
    rcases get?_merge_cases (named entries) key with ⟨v, hv⟩ | hnone
    · left
      rw [hv, hv, Option.some_or]
    · right
      rw [hnone, hnone, get?_plainValues]
      cases schema.standards.get? key <;> rfl
  rw [parseValue, parseValue, named_foldl_insertEntry, named_ofEntries]
  congr 1
  apply checkMerged_congr
  · intro field _
    unfold valueOf
    rcases hvalue field.key with hsame | hplain
    · rw [hsame]
    · rw [hplain]
      cases (merge schema.standards (named entries)).get? field.key with
      | none => rfl
      | some v => exact Shape.check_plain _ v
  · unfold absent
    congr 1
    funext key
    rcases hvalue key with hsame | hplain
    · unfold isAbsent
      rw [hsame]
    · unfold isAbsent
      rw [hplain]
      cases (merge schema.standards (named entries)).get? key with
      | none => rfl
      | some v => cases v <;> rfl
  · rw [head?_strangers, strangerOf_ofEntries]
    have hknown : schema.unknownKeys (plainValues schema.standards) = [] := by
      unfold unknownKeys
      rw [keys_plainValues, List.filter_eq_nil_iff]
      intro key hkey
      simp [(keys_standards_sublist schema).subset hkey]
    rw [hknown]
    rfl
  · exact missingKeys_strangers _ _
  · exact missingKeys_strangers _ _

end laid

end Schema

/-! ### Built-in types -/

namespace Node

open NodeInfo (plainValues plain_ofEntries)

theorem isUnmixed_of_mem_builtins :
    ∀ plugin ∈ builtins, ∀ field ∈ plugin.info.schema, field.shape.isUnmixed = true := by
  decide

/-- A built-in plugin looks at what it holds inside, checks its settings, and goes on with nothing
    but what the checks gave. -/
theorem exists_emit_eq : ∀ plugin ∈ builtins, ∀ inside : Inside,
    ∃ (before : Except Failure Unit) (after : Entries → Except Failure String), ∀ given,
      plugin.emit given inside = before >>= fun _ =>
        plugin.info.schema.parseValue plugin.info.typeKey given >>= after := by
  apply forall_mem_builtins
  case constructor =>
    intro node _ inside
    exact ⟨refuseChild node.typeKey inside, _, fun _ => rfl⟩
  case dataset =>
    intro inside
    exact ⟨refuseChild Dataset.typeKey inside, _, fun _ => rfl⟩
  case report =>
    intro inside
    exact ⟨refuseChild Report.typeKey inside, _, fun _ => rfl⟩
  case trainer =>
    intro inside
    exact ⟨refuseChild Trainer.typeKey inside, _, fun _ => rfl⟩
  -- the others take whatever stands inside
  all_goals
    intro inside
    exact ⟨.ok (), _, fun _ => rfl⟩

/-- The code of a built-in plugin depends on the settings only through what their checks say. -/
theorem emit_congr {plugin : Plugin} (hplugin : plugin ∈ builtins) {given other : Value}
    (h : plugin.info.schema.parseValue plugin.info.typeKey given =
      plugin.info.schema.parseValue plugin.info.typeKey other) (inside : Inside) :
    plugin.emit given inside = plugin.emit other inside := by
  obtain ⟨before, after, hemit⟩ := exists_emit_eq plugin hplugin inside
  rw [hemit, hemit, h]

/-- Validated settings of a built-in type are normal, and its standard values are neutral.

    If settings are accepted, then what they are validated to, with tuples written as lists, is
    accepted and validated to the same settings, and the code for it, or what goes wrong, is that
    for the settings that were given. Settings that are given as a mapping or not at all can be laid
    over the `default_settings` that the type tells about itself, and the code for what comes out,
    or what goes wrong, is that for the settings alone. What the node holds inside is arbitrary. -/
theorem settings_are_normal {plugin : Plugin} (hplugin : plugin ∈ builtins) (inside : Inside) :
    let parse := plugin.info.schema.parseValue plugin.info.typeKey
    (∀ given settings, parse given = .ok settings →
      parse (plain (.ofEntries settings)) = .ok settings ∧
        plugin.emit (plain (.ofEntries settings)) inside = plugin.emit given inside) ∧
      ∃ defaults, plugin.info.toEntries.get? "default_settings" = some (.map defaults) ∧
        ∀ given, (given = .null ∨ ∃ entries, given = .map entries) →
          ∃ laid, Value.merge defaults given = .ok laid ∧ parse (.map laid) = parse given ∧
            plugin.emit (.map laid) inside = plugin.emit given inside := by
  have hschema := isRepairable_of_mem_builtins hplugin
  constructor
  · intro given settings h
    have hagain := Schema.parseValue_plain hschema (isUnmixed_of_mem_builtins plugin hplugin) h
    exact ⟨hagain, emit_congr hplugin (hagain.trans h.symm) inside⟩
  · refine ⟨_, congrArg some (plain_ofEntries plugin.info.schema.standards), ?_⟩
    intro given hgiven
    -- nothing at all is laid over the standard values like a mapping without entries
    have hlaid : ∃ entries, Value.merge ((plainValues plugin.info.schema.standards).map
          fun entry => (Value.str entry.1, entry.2)) given =
            .ok (entries.foldl (fun laid entry => Value.insertEntry laid entry.1 entry.2)
              ((plainValues plugin.info.schema.standards).map
                fun entry => (Value.str entry.1, entry.2))) ∧
        plugin.info.schema.parseValue plugin.info.typeKey (.map entries) =
          plugin.info.schema.parseValue plugin.info.typeKey given := by
      rcases hgiven with rfl | ⟨entries, rfl⟩
      · exact ⟨[], rfl, rfl⟩
      · refine ⟨entries, ?_, rfl⟩
        cases entries <;> rfl
    obtain ⟨entries, hmerge, hsame⟩ := hlaid
    have hparse := (Schema.parseValue_laid hschema.nodup plugin.info.typeKey entries).trans hsame
    exact ⟨_, hmerge, hparse, emit_congr hplugin hparse inside⟩

/-- Settings of a convolution with a list for a pair and a number for a truth value. -/
def looseConvolution : Entries :=
  [("inChannels", .int 1), ("outChannels", .int 8), ("kernelSize", .list [.int 3, .int 5]),
   ("bias", .int 0)]

/-- The settings that they are validated to. -/
def normalConvolution : Entries :=
  [("variableName", .null), ("inChannels", .int 1), ("outChannels", .int 8),
   ("kernelSize", .tuple [.int 3, .int 5]), ("stride", .int 1), ("padding", .int 0),
   ("dilation", .int 1), ("groups", .int 1), ("bias", .bool false), ("paddingMode", .str "zeros")]

theorem settings_are_normal_convolution :
    conv2d.plugin ∈ builtins ∧
      conv2d.schema.parseValue "Conv2d" (.ofEntries looseConvolution) = .ok normalConvolution ∧
      conv2d.schema.parseValue "Conv2d" (plain (.ofEntries normalConvolution)) =
        .ok normalConvolution := by
  have hmem : conv2d.plugin ∈ builtins := by simp [builtins]
  have hparse : conv2d.schema.parseValue "Conv2d" (.ofEntries looseConvolution) =
      .ok normalConvolution := rfl
  have hnormal := (settings_are_normal hmem (.ofParts registry.resolve false [])).1
  exact ⟨hmem, hparse, (hnormal _ _ hparse).1⟩

end Node

end LayerGraph
