import LayerGraph.Proofs.Blame
import LayerGraph.Proofs.Value.Entries
import LayerGraph.Setting.Schema

/-! # Settings that fit

    A shape checks a value and normalises it. What comes out of the check *fits* the shape: it is of
    the one type that the shape promises, within its bounds (`fits_of_check`). So validated settings
    have a fitting value under each key of their schema (`fits_of_parseValue`), and whoever reads
    them by key finds what the schema says. A check makes up no values, so settings that could be
    shown when they were given can be shown and written once they are validated.
-/

namespace LayerGraph

/-! ### Shapes -/

namespace Shape

/-- Whether a value is one that a shape promises. -/
def Fits : Shape → Value → Prop
  | .integer bounds, v => ∃ n, v = .int n ∧ ∀ bound ∈ bounds, bound.admitsInt n = true
  | .number bounds, v => ∃ x, v = .float x ∧ ∀ bound ∈ bounds, bound.admitsFloat x = true
  | .boolean, v => ∃ b, v = .bool b
  | .text, v => ∃ s, v = .str s
  | .filledText, v => ∃ s, v = .str s ∧ s.isEmpty = false
  | .name, v => ∃ s, v = .str s ∧ Text.isName s = true
  | .dottedName, v => ∃ s, v = .str s ∧ ∀ part ∈ dottedParts s, Text.isName part = true
  | .choice options, v => ∃ s, v = .str s ∧ s ∈ options
  | .pair item, v => ∃ first second, v = .tuple [first, second] ∧ item.Fits first ∧ item.Fits second
  | .sequence item, v => ∃ items, v = .tuple items ∧ ∀ w ∈ items, item.Fits w
  | .optional inner, v => v = .null ∨ inner.Fits v
  | .either first second, v => first.Fits v ∨ second.Fits v

theorem only_eq_ok {result : Except Mismatch Value} {w : Value} :
    only result = .ok w ↔ result = .ok w :=
  Result.mapError_eq_ok

/-- Items pass the check together exactly if they pass it one by one. -/
theorem checkItems_eq_ok {check : Value → Except Mismatches Value} {items ws : List Value} :
    checkItems check items = .ok ws ↔ items.mapM check = .ok ws := by
  induction items generalizing ws with
  | nil => rfl
  | cons item rest ih =>
    rw [Result.mapM_cons_eq_ok, checkItems]
    cases hitem : check item with
    | error faults => cases checkItems check rest <;> simp
    | ok w =>
      cases hrest : checkItems check rest with
      | error faults =>
        have hnone : ∀ others, rest.mapM check ≠ .ok others := fun others hothers =>
          absurd (ih.2 hothers) (by rw [hrest]; nofun)
        simp [hnone]
      | ok others => simp [ih.1 hrest, eq_comm]

theorem checkPair_eq_ok {check : Value → Except Mismatches Value} {items ws : List Value}
    (h : checkPair check items = .ok ws) :
    items.mapM check = .ok ws ∧ ∃ first second, ws = [first, second] := by
  unfold checkPair at h
  split at h
  · exact absurd h nofun
  · split at h <;> exact absurd h nofun
  · have hall := checkItems_eq_ok.1 h
    refine ⟨hall, ?_⟩
    obtain ⟨first, others, _, hothers, rfl⟩ := Result.mapM_cons_eq_ok.1 hall
    obtain ⟨second, none, _, hnone, rfl⟩ := Result.mapM_cons_eq_ok.1 hothers
    exact ⟨first, second, congrArg (first :: second :: ·) (Except.ok.inj hnone).symm⟩
  · exact absurd h nofun

/-! What a check of a leaf takes, and what it makes of it. -/

theorem find?_not_eq_none {α : Type} {p : α → Bool} {xs : List α} :
    xs.find? (fun x => !p x) = none ↔ ∀ x ∈ xs, p x = true := by
  simp

theorem integerOf_eq_ok {bounds : List Bound} {v w : Value} :
    integerOf bounds v = .ok w ↔ v = w ∧ (integer bounds).Fits w := by
  constructor
  · intro h
    unfold integerOf checkInt at h
    split at h
    · split at h
      · exact absurd h nofun
      · next n _ hfind =>
        obtain rfl := Except.ok.inj h
        exact ⟨rfl, n, rfl, find?_not_eq_none.1 hfind⟩
    · exact absurd h nofun
  · rintro ⟨rfl, n, rfl, hbounds⟩
    rw [integerOf, checkInt, find?_not_eq_none.2 hbounds]

theorem numberOf_eq_ok {bounds : List Bound} {v w : Value} :
    numberOf bounds v = .ok w ↔
      ∃ x, floatOf v = .ok x ∧ w = .float x ∧ ∀ bound ∈ bounds, bound.admitsFloat x = true := by
  constructor
  · intro h
    obtain ⟨x, hx, h⟩ := Result.bind_eq_ok.1 h
    split at h
    · exact absurd h nofun
    · next hfind => exact ⟨x, hx, (Except.ok.inj h).symm, find?_not_eq_none.1 hfind⟩
  · rintro ⟨x, hx, rfl, hbounds⟩
    refine Result.bind_eq_ok.2 ⟨x, hx, ?_⟩
    rw [find?_not_eq_none.2 hbounds]

theorem filledTextOf_eq_ok {v w : Value} :
    filledTextOf v = .ok w ↔ ∃ s, textOf v = .ok s ∧ w = .str s ∧ s.isEmpty = false := by
  constructor
  · intro h
    obtain ⟨s, hs, h⟩ := Result.bind_eq_ok.1 h
    split at h
    · exact absurd h nofun
    · next hfilled => exact ⟨s, hs, (Except.ok.inj h).symm, Bool.eq_false_iff.2 hfilled⟩
  · rintro ⟨s, hs, rfl, hfilled⟩
    exact Result.bind_eq_ok.2 ⟨s, hs, by simp [hfilled]⟩

theorem nameOf_eq_ok {v w : Value} :
    nameOf v = .ok w ↔ ∃ s, textOf v = .ok s ∧ w = .str s ∧ Text.isName s = true := by
  constructor
  · intro h
    obtain ⟨s, hs, h⟩ := Result.bind_eq_ok.1 h
    split at h
    · next hname => exact ⟨s, hs, (Except.ok.inj h).symm, hname⟩
    · exact absurd h nofun
  · rintro ⟨s, hs, rfl, hname⟩
    exact Result.bind_eq_ok.2 ⟨s, hs, by simp [hname]⟩

theorem dottedNameOf_eq_ok {v w : Value} :
    dottedNameOf v = .ok w ↔
      ∃ s, textOf v = .ok s ∧ w = .str s ∧ ∀ part ∈ dottedParts s, Text.isName part = true := by
  constructor
  · intro h
    obtain ⟨s, hs, h⟩ := Result.bind_eq_ok.1 h
    split at h
    · exact absurd h nofun
    · next hfind => exact ⟨s, hs, (Except.ok.inj h).symm, find?_not_eq_none.1 hfind⟩
  · rintro ⟨s, hs, rfl, hparts⟩
    refine Result.bind_eq_ok.2 ⟨s, hs, ?_⟩
    rw [find?_not_eq_none.2 hparts]

theorem choiceOf_eq_ok {options : List String} {v w : Value} :
    choiceOf options v = .ok w ↔ ∃ s, v.text? = some s ∧ w = .str s ∧ s ∈ options := by
  constructor
  · intro h
    unfold choiceOf at h
    split at h
    · next s hs =>
      split at h
      · next hoption => exact ⟨s, hs, (Except.ok.inj h).symm, List.contains_iff_mem.1 hoption⟩
      · exact absurd h nofun
    · exact absurd h nofun
  · rintro ⟨s, hs, rfl, hoption⟩
    simp [choiceOf, hs, hoption]

theorem exists_bool_of_wordTruth {s : String} {w : Value} (h : wordTruth s = .ok w) :
    ∃ b, w = .bool b := by
  simp only [wordTruth] at h
  split at h
  · exact ⟨true, (Except.ok.inj h).symm⟩
  · split at h
    · exact ⟨false, (Except.ok.inj h).symm⟩
    · exact absurd h nofun

theorem exists_bool_of_integerTruth {n : Int} {w : Value} (h : integerTruth n = .ok w) :
    ∃ b, w = .bool b := by
  unfold integerTruth at h
  split at h
  · exact ⟨true, (Except.ok.inj h).symm⟩
  · split at h
    · exact ⟨false, (Except.ok.inj h).symm⟩
    · exact absurd h nofun

theorem exists_bool_of_booleanOf {v w : Value} (h : booleanOf v = .ok w) : ∃ b, w = .bool b := by
  unfold booleanOf at h
  split at h
  · exact ⟨_, (Except.ok.inj h).symm⟩
  · exact exists_bool_of_wordTruth h
  · exact exists_bool_of_wordTruth h
  · next content =>
    cases hdecoded : String.fromUTF8? ⟨content.toArray⟩ with
    | none =>
      rw [hdecoded] at h
      exact absurd h nofun
    | some s =>
      rw [hdecoded] at h
      exact exists_bool_of_wordTruth h
  · split at h
    · exact exists_bool_of_integerTruth h
    · exact absurd h nofun
  · split at h
    · split at h
      · exact exists_bool_of_integerTruth h
      · exact absurd h nofun
    · exact absurd h nofun
  · exact absurd h nofun

/-- An optional value is absent, or passes the check of what it is if it is there. -/
theorem optional_eq_ok {inner : Shape} {v w : Value} (h : (optional inner).check v = .ok w) :
    w = .null ∨ inner.check v = .ok w := by
  by_cases hnull : v = .null
  · subst hnull
    rw [check] at h
    exact Or.inl (Except.ok.inj h).symm
  · rw [check] at h
    · exact Or.inr h
    · exact hnull

theorem either_eq_ok {first second : Shape} {v w : Value}
    (h : (either first second).check v = .ok w) :
    first.check v = .ok w ∨ second.check v = .ok w := by
  rw [check] at h
  split at h
  · next hfirst => exact Or.inl (hfirst.trans h)
  · split at h
    · next hsecond => exact Or.inr (hsecond.trans h)
    · exact absurd h nofun

/-- What comes out of a check fits the shape. -/
theorem fits_of_check {shape : Shape} {v w : Value} (h : shape.check v = .ok w) :
    shape.Fits w := by
  -- one case for each shape; those with shapes inside use what holds of these
  induction shape generalizing v w with
  | integer bounds => exact (integerOf_eq_ok.1 (only_eq_ok.1 h)).2
  | number bounds =>
    obtain ⟨x, -, hfits⟩ := numberOf_eq_ok.1 (only_eq_ok.1 h)
    exact ⟨x, hfits⟩
  | boolean => exact exists_bool_of_booleanOf (only_eq_ok.1 h)
  | text =>
    obtain ⟨s, -, rfl⟩ := Result.map_eq_ok.1 (only_eq_ok.1 h)
    exact ⟨s, rfl⟩
  | filledText =>
    obtain ⟨s, -, hfits⟩ := filledTextOf_eq_ok.1 (only_eq_ok.1 h)
    exact ⟨s, hfits⟩
  | name =>
    obtain ⟨s, -, hfits⟩ := nameOf_eq_ok.1 (only_eq_ok.1 h)
    exact ⟨s, hfits⟩
  | dottedName =>
    obtain ⟨s, -, hfits⟩ := dottedNameOf_eq_ok.1 (only_eq_ok.1 h)
    exact ⟨s, hfits⟩
  | choice options =>
    obtain ⟨s, -, hfits⟩ := choiceOf_eq_ok.1 (only_eq_ok.1 h)
    exact ⟨s, hfits⟩
  | pair item ih =>
    rw [check] at h
    obtain ⟨items, _, h⟩ := Result.bind_eq_ok.1 h
    obtain ⟨ws, hws, rfl⟩ := Result.map_eq_ok.1 h
    obtain ⟨hall, first, second, rfl⟩ := checkPair_eq_ok hws
    have hfits := Result.forall_mem_of_mapM hall fun _ _ _ => ih
    exact ⟨first, second, rfl, hfits first (by simp), hfits second (by simp)⟩
  | sequence item ih =>
    rw [check] at h
    obtain ⟨items, _, h⟩ := Result.bind_eq_ok.1 h
    obtain ⟨ws, hws, rfl⟩ := Result.map_eq_ok.1 h
    exact ⟨ws, rfl, Result.forall_mem_of_mapM (checkItems_eq_ok.1 hws) fun _ _ _ => ih⟩
  | optional inner ih => exact (optional_eq_ok h).imp id ih
  | either first second ihfirst ihsecond => exact (either_eq_ok h).imp ihfirst ihsecond

end Shape

/-! ### What can be shown

    What a shape promises is plain, and a check copies parts of the value it is given. -/

namespace Shape

theorem isConstant_of_fits {shape : Shape} {v : Value} (h : shape.Fits v) : v.IsConstant := by
  induction shape generalizing v with
  | integer =>
    obtain ⟨n, rfl, _⟩ := h
    exact .int n
  | number =>
    obtain ⟨x, rfl, _⟩ := h
    exact .float x
  | boolean =>
    obtain ⟨b, rfl⟩ := h
    exact .bool b
  | text =>
    obtain ⟨s, rfl⟩ := h
    exact .str s
  | filledText | name | dottedName | choice =>
    obtain ⟨s, rfl, _⟩ := h
    exact .str s
  | pair item ih =>
    obtain ⟨first, second, rfl, hfirst, hsecond⟩ := h
    exact .tuple (List.forall_mem_cons.2 ⟨ih hfirst, List.forall_mem_singleton.2 (ih hsecond)⟩)
  | sequence item ih =>
    obtain ⟨items, rfl, hitems⟩ := h
    exact .tuple fun v hv => ih (hitems v hv)
  | optional inner ih =>
    rcases h with rfl | hinner
    · exact .null
    · exact ih hinner
  | either first second ihfirst ihsecond => exact h.elim ihfirst ihsecond

theorem isPlain_of_fits {shape : Shape} {v : Value} (h : shape.Fits v) : v.IsPlain :=
  (isConstant_of_fits h).isPlain

theorem isShowable_of_itemsOf {v : Value} {items : List Value} (h : itemsOf v = .ok items)
    (hv : v.isShowable = true) : ∀ item ∈ items, item.isShowable = true := by
  unfold itemsOf at h
  split at h
  · obtain rfl := Except.ok.inj h
    exact Value.areShowable_iff.1 hv
  · obtain rfl := Except.ok.inj h
    exact Value.areShowable_iff.1 hv
  · obtain rfl := Except.ok.inj h
    exact Value.areShowable_iff.1 hv
  · exact absurd h nofun

/-- Items that are checked one by one can be shown if what is checked can be, and a check of any of
    them keeps it so. -/
theorem isShowable_of_mapM {check : Value → Except Mismatches Value} {v : Value}
    {items ws : List Value} (hitems : itemsOf v = .ok items) (hall : items.mapM check = .ok ws)
    (hv : v.isShowable = true)
    (hcheck : ∀ {item w}, check item = .ok w → item.isShowable = true → w.isShowable = true) :
    (Value.tuple ws).isShowable = true := by
  have hparts := isShowable_of_itemsOf hitems hv
  exact Value.areShowable_iff.2
    (Result.forall_mem_of_mapM hall fun item hitem _ h => hcheck h (hparts item hitem))

/-- What comes out of a check of a value that can be shown can be shown. -/
theorem isShowable_of_check {shape : Shape} {v w : Value} (h : shape.check v = .ok w)
    (hv : v.isShowable = true) : w.isShowable = true := by
  induction shape generalizing v w with
  | integer bounds =>
    obtain ⟨rfl, -⟩ := integerOf_eq_ok.1 (only_eq_ok.1 h)
    exact hv
  | pair item ih =>
    rw [check] at h
    obtain ⟨items, hitems, h⟩ := Result.bind_eq_ok.1 h
    obtain ⟨ws, hws, rfl⟩ := Result.map_eq_ok.1 h
    exact isShowable_of_mapM (Result.mapError_eq_ok.1 hitems) (checkPair_eq_ok hws).1 hv ih
  | sequence item ih =>
    rw [check] at h
    obtain ⟨items, hitems, h⟩ := Result.bind_eq_ok.1 h
    obtain ⟨ws, hws, rfl⟩ := Result.map_eq_ok.1 h
    exact isShowable_of_mapM (Result.mapError_eq_ok.1 hitems) (checkItems_eq_ok.1 hws) hv ih
  | optional inner ih =>
    rcases optional_eq_ok h with rfl | hinner
    · rfl
    · exact ih hinner hv
  | either first second ihfirst ihsecond =>
    rcases either_eq_ok h with hfirst | hsecond
    · exact ihfirst hfirst hv
    · exact ihsecond hsecond hv
  -- the other shapes give a number, a truth value or a text
  | number =>
    obtain ⟨_, rfl, _⟩ := fits_of_check h
    rfl
  | boolean =>
    obtain ⟨_, rfl⟩ := fits_of_check h
    rfl
  | text =>
    obtain ⟨_, rfl⟩ := fits_of_check h
    rfl
  | filledText | name | dottedName | choice =>
    obtain ⟨_, rfl, _⟩ := fits_of_check h
    rfl

end Shape

/-! ### Schemas -/

namespace Schema

/-- Settings that are those of a schema, in order, each with a value that fits. -/
inductive Fits : Schema → Entries → Prop where
  | nil : Fits [] []
  | cons {field : SettingField} {v : Value} {schema : Schema} {settings : Entries}
      (hvalue : field.shape.Fits v) (hrest : Fits schema settings) :
      Fits (field :: schema) ((field.key, v) :: settings)

/-- Under the key of a setting there is a value that fits. -/
theorem Fits.get? {schema : Schema} {settings : Entries} (h : schema.Fits settings)
    (hdistinct : schema.keys.Nodup) {field : SettingField} (hfield : field ∈ schema) :
    ∃ v, settings.get? field.key = some v ∧ field.shape.Fits v := by
  induction h with
  | nil => exact absurd hfield List.not_mem_nil
  | @cons first v schema settings hvalue hrest ih =>
    rw [keys, List.map_cons, List.nodup_cons] at hdistinct
    rcases List.mem_cons.1 hfield with rfl | hlater
    · exact ⟨v, Entries.get?_cons_self _ _ _, hvalue⟩
    · have hne : field.key ≠ first.key := fun same =>
        hdistinct.1 (same ▸ List.mem_map_of_mem hlater)
      -- the first entry is under another key, so the look-up goes on behind it
      rw [Entries.get?_cons_of_ne hne]
      exact ih hdistinct.2 hlater

theorem errorOf_eq_none {nodeType : String} {faults : List Fault}
    (h : errorOf nodeType faults = none) : faults = [] := by
  simp only [errorOf] at h
  split at h
  · exact List.head?_eq_none_iff.1 (Option.map_eq_none_iff.1 h)
  · exact absurd h nofun

/-- A field without a fault has a value that passes its check. -/
theorem check_of_fieldFaults {merged : Entries} {field : SettingField}
    (h : fieldFaults merged field = []) :
    ∃ v, field.shape.check ((merged.get? field.key).getD .null) = .ok v ∧
      fieldValue merged field = (field.key, v) := by
  unfold fieldFaults at h
  unfold fieldValue
  split at h
  · next v hv => exact ⟨v, hv, rfl⟩
  · exact absurd h (by simp [Mismatches.toList])

/-- Settings are accepted exactly if no required key is absent, no field has a fault and no key is
    unknown. -/
theorem checkMerged_eq_ok_iff {schema : Schema} {nodeType : String} {merged settings : Entries}
    {unknown : List Fault} :
    checkMerged schema nodeType merged unknown = .ok settings ↔
      absent merged schema.required = [] ∧ (∀ field ∈ schema, fieldFaults merged field = []) ∧
        unknown = [] ∧ settings = schema.map (fieldValue merged) := by
  simp only [checkMerged]
  constructor
  · intro h
    split at h
    · next habsent =>
      split at h
      · exact absurd h nofun
      · next hnone =>
        obtain ⟨hfaults, hunknown⟩ := List.append_eq_nil_iff.1 (errorOf_eq_none hnone)
        exact ⟨List.isEmpty_iff.1 habsent, List.flatMap_eq_nil_iff.1 hfaults, hunknown,
          (Except.ok.inj h).symm⟩
    · exact absurd h nofun
  · rintro ⟨habsent, hfaults, rfl, rfl⟩
    rw [habsent, List.flatMap_eq_nil_iff.2 hfaults]
    rfl

/-- Settings that are accepted are the checked values of all fields. -/
theorem checkMerged_eq_ok {schema : Schema} {nodeType : String} {merged settings : Entries}
    {unknown : List Fault} (h : checkMerged schema nodeType merged unknown = .ok settings) :
    settings = schema.map (fieldValue merged) ∧
      ∀ field ∈ schema, ∃ v, field.shape.check ((merged.get? field.key).getD .null) = .ok v ∧
        fieldValue merged field = (field.key, v) := by
  obtain ⟨-, hfaults, -, rfl⟩ := checkMerged_eq_ok_iff.1 h
  exact ⟨rfl, fun field hfield => check_of_fieldFaults (hfaults field hfield)⟩

theorem fits_of_checkMerged {schema : Schema} {nodeType : String} {merged settings : Entries}
    {unknown : List Fault} (h : checkMerged schema nodeType merged unknown = .ok settings) :
    schema.Fits settings := by
  obtain ⟨rfl, hchecked⟩ := checkMerged_eq_ok h
  -- the fields are checked one by one, so the induction is without the check of them all
  clear h
  induction schema with
  | nil => exact .nil
  | cons field rest ih =>
    obtain ⟨hfield, hrest⟩ := List.forall_mem_cons.1 hchecked
    obtain ⟨v, hcheck, hvalue⟩ := hfield
    rw [List.map_cons, hvalue]
    exact .cons (Shape.fits_of_check hcheck) (ih hrest)

section text
variable {others : Failure → Prop}

theorem hasText_of_checkMerged {schema : Schema} {nodeType : String}
    {merged settings : Entries} {unknown : List Fault}
    (h : checkMerged schema nodeType merged unknown = .ok settings)
    (hmerged : ∀ entry ∈ merged, entry.2.HasText others) :
    ∀ entry ∈ settings, entry.2.HasText others := by
  obtain ⟨rfl, hchecked⟩ := checkMerged_eq_ok h
  rw [List.forall_mem_map]
  intro field hfield
  obtain ⟨v, hcheck, hvalue⟩ := hchecked field hfield
  rw [hvalue]
  have hgiven : ((merged.get? field.key).getD .null).HasText others :=
    Entries.forall_getD (P := fun v => v.HasText others) hmerged (.of_isShowable rfl) field.key
  exact fun hnot => Shape.isShowable_of_check hcheck (hgiven hnot)

theorem isUser_of_errorOf {nodeType : String} {faults : List Fault} {error : GraphError}
    (h : errorOf nodeType faults = some error) : error.kind.isUser = true := by
  simp only [errorOf] at h
  split at h
  · obtain ⟨fault, _, rfl⟩ := Option.map_eq_some_iff.1 h
    rfl
  · obtain rfl := Option.some.inj h
    rfl

/-- The caller is to blame for settings that are refused. -/
theorem isUser_of_checkMerged {schema : Schema} {nodeType : String} {merged : Entries}
    {unknown : List Fault} {error : GraphError}
    (h : checkMerged schema nodeType merged unknown = .error error) :
    error.kind.isUser = true := by
  simp only [checkMerged] at h
  split at h
  · split at h
    · next herror => exact isUser_of_errorOf (Except.error.inj h ▸ herror)
    · exact absurd h nofun
  · obtain rfl := Except.error.inj h
    rfl

/-! ### Settings as a caller gives them -/

/-- Accepted settings fit their schema. -/
theorem fits_of_parseValue {schema : Schema} {nodeType : String} {given : Value}
    {settings : Entries} (h : schema.parseValue nodeType given = .ok settings) :
    schema.Fits settings := by
  unfold parseValue at h
  split at h
  · exact fits_of_checkMerged (Result.mapError_eq_ok.1 h)
  · exact fits_of_checkMerged (Result.mapError_eq_ok.1 h)
  · exact absurd h nofun

theorem forall_mem_named {P : Value → Prop} {entries : List (Value × Value)}
    (h : ∀ entry ∈ entries, P entry.2) : ∀ entry ∈ named entries, P entry.2 := by
  intro entry hentry
  obtain ⟨given, hgiven, hsome⟩ := List.mem_filterMap.1 hentry
  obtain ⟨_, _, rfl⟩ := Option.map_eq_some_iff.1 hsome
  exact h given hgiven

/-- Accepted settings can be shown if what was given and what stands in for it can. -/
theorem hasText_of_parseValue {schema : Schema} {nodeType : String} {given : Value}
    {settings : Entries} (h : schema.parseValue nodeType given = .ok settings)
    (hgiven : given.HasText others)
    (hstandards : ∀ entry ∈ schema.standards, entry.2.HasText others) :
    ∀ entry ∈ settings, entry.2.HasText others := by
  unfold parseValue at h
  split at h
  · exact hasText_of_checkMerged (Result.mapError_eq_ok.1 h) hstandards
  · next entries =>
    exact hasText_of_checkMerged (Result.mapError_eq_ok.1 h)
      (Entries.forall_mem_merge (P := fun v => v.HasText others) hstandards
        (forall_mem_named (P := fun v => v.HasText others) fun entry hentry =>
          (hgiven.of_mem_map entry hentry).2))
  · exact absurd h nofun

theorem Fits.isPlain {schema : Schema} {settings : Entries} (h : schema.Fits settings) :
    ∀ entry ∈ settings, entry.2.IsPlain := by
  induction h with
  | nil => exact nofun
  | cons hvalue _ ih => exact List.forall_mem_cons.2 ⟨Shape.isPlain_of_fits hvalue, ih⟩

/-- The caller is to blame if settings are refused. -/
theorem isFair_parseValue (schema : Schema) (nodeType : String) (given : Value) :
    IsFairUpTo others (schema.parseValue nodeType given) := by
  have hmerged : ∀ merged unknown,
      RefusesUpTo others (checkMerged schema nodeType merged unknown) :=
    fun merged unknown error herror => Or.inl (isUser_of_checkMerged herror)
  unfold parseValue
  split
  · exact (hmerged _ _).isFair
  · exact (hmerged _ _).isFair
  · exact IsFairUpTo.refuse rfl

end text

end Schema

end LayerGraph
