import LayerGraph.Proofs.Registry.History
import LayerGraph.Proofs.Text.Case
import Mathlib.Data.List.Nodup

/-! # Names of registered types

    A registry lists its types under the names that their factories have for them, and under their
    keys where the factories have none. The list is *faithful* if each name finds the factory that
    it stands for, and if no two names are alike but for the case of their letters. It is so exactly
    if every factory with a name of its own is registered under that name: a factory that is
    registered under another key is listed under a name that finds nothing, or something else
    (`types_isFaithful_iff`). What holds of every entry is kept through a run if it holds of every
    registration (`forall_mem_run`).
-/

namespace LayerGraph.Registry

/-! ### Names -/

/-- The name that an entry is listed under. -/
def nameOf (entry : String × Factory) : String :=
  if entry.2.typeKey.isEmpty then entry.1 else entry.2.typeKey

theorem types_eq_map (registry : Registry) : registry.types = registry.map nameOf := rfl

theorem nameOf_of_empty {entry : String × Factory} (h : entry.2.typeKey = "") :
    nameOf entry = entry.1 := by
  unfold nameOf
  rw [h]
  rfl

theorem nameOf_of_ne {entry : String × Factory} (h : entry.2.typeKey ≠ "") :
    nameOf entry = entry.2.typeKey := by
  unfold nameOf
  rw [if_neg (by simpa using h)]

/-- Whether an entry stands under the name that its factory has for itself, if it has one. -/
def StandsUnderOwn (entry : String × Factory) : Prop :=
  entry.2.typeKey ≠ "" → entry.1 = Text.lower entry.2.typeKey

/-- The names of a registry lead back to its factories, and no two of them are alike. -/
structure IsFaithful (registry : Registry) : Prop where
  /-- Each name finds the factory at its place. -/
  finds : ∀ (i : Nat) (entry : String × Factory), registry[i]? = some entry →
    ∃ name, registry.types[i]? = some name ∧ registry.find? name = some entry.2
  distinct : (registry.types.map Text.lower).Nodup

/-! ### Look-up -/

/-- With one entry for each key, who is found under a key is who stands there. -/
theorem lookup_eq_some_iff {registry : Registry} (h : (registry.map (·.1)).Nodup) {key : String}
    {factory : Factory} : registry.lookup key = some factory ↔ (key, factory) ∈ registry := by
  induction registry with
  | nil => simp
  | cons entry rest ih =>
    obtain ⟨held, holder⟩ := entry
    rw [List.map_cons, List.nodup_cons] at h
    rw [List.lookup_cons, List.mem_cons]
    by_cases hkey : key = held
    · subst hkey
      -- no entry behind the first one has its key
      have hrest : (key, factory) ∉ rest := fun hmem =>
        h.1 (List.mem_map.2 ⟨_, hmem, rfl⟩)
      simp [hrest, eq_comm]
    · rw [beq_false_of_ne hkey]
      simp [hkey, ih h.2]

/-- A name finds a factory that stands under its small form. -/
theorem find?_eq_some_iff {registry : Registry} (h : (registry.map (·.1)).Nodup) {type : String}
    {factory : Factory} :
    registry.find? type = some factory ↔ (Text.lower type, factory) ∈ registry :=
  lookup_eq_some_iff h

/-! ### Entries through a run -/

/-- What holds of all entries holds after an action, if it holds of what may be registered. -/
theorem forall_mem_after {P : String × Factory → Prop} {registry : Registry} {action : Action}
    (h : ∀ entry ∈ registry, P entry)
    (hnew : ∀ factory asked, action = .register factory asked →
      P (Text.lower (keyFor factory asked), factory)) :
    ∀ entry ∈ registry.after action, P entry := by
  cases action with
  | find | resolve => exact h
  | unregister type => exact fun entry hentry => h entry (List.mem_filter.1 hentry).1
  | register factory asked =>
    rcases register_cases registry factory asked with
      ⟨hresult, _⟩ | ⟨hresult, _, _⟩ | ⟨hresult, _, _⟩
    · rw [after, hresult]
      exact h
    · rw [after, hresult]
      exact h
    · rw [after, hresult]
      exact List.forall_mem_append.2 ⟨h, List.forall_mem_singleton.2 (hnew factory asked rfl)⟩

theorem forall_mem_run {P : String × Factory → Prop} {registry : Registry} {actions : List Action}
    (h : ∀ entry ∈ registry, P entry)
    (hnew : ∀ factory asked, .register factory asked ∈ actions →
      P (Text.lower (keyFor factory asked), factory)) :
    ∀ entry ∈ registry.run actions, P entry := by
  induction actions generalizing registry with
  | nil => exact h
  | cons action rest ih =>
    refine ih (forall_mem_after h ?_) ?_
    · rintro factory asked rfl
      exact hnew factory asked List.mem_cons_self
    · exact fun factory asked hmem => hnew factory asked (List.mem_cons_of_mem action hmem)

/-- All keys of a registry in use are in small letters. -/
theorem lower_key_of_use {actions : List Action} :
    ∀ entry ∈ run Node.registry actions, Text.lower entry.1 = entry.1 := by
  apply forall_mem_run
  · intro entry hentry
    obtain ⟨factory, _, rfl⟩ := List.mem_map.1 hentry
    exact Text.lower_lower factory.typeKey
  · intro factory asked _
    exact Text.lower_lower (keyFor factory asked)

/-- Without registrations under other keys every factory stands under its own name. -/
theorem standsUnderOwn_of_use {actions : List Action}
    (h : ∀ factory asked, .register factory asked ∈ actions →
      StandsUnderOwn (Text.lower (keyFor factory asked), factory)) :
    ∀ entry ∈ run Node.registry actions, StandsUnderOwn entry := by
  refine forall_mem_run ?_ h
  intro entry hentry _
  obtain ⟨factory, _, rfl⟩ := List.mem_map.1 hentry
  rfl

/-! ### Faithful lists -/

section faithful
variable {registry : Registry} (hnodup : (registry.map (·.1)).Nodup)
  (hsmall : ∀ entry ∈ registry, Text.lower entry.1 = entry.1)

include hsmall in
/-- The name of an entry that stands under its own name is its key, but for the case. -/
theorem lower_nameOf {entry : String × Factory} (hentry : entry ∈ registry)
    (hown : StandsUnderOwn entry) : Text.lower (nameOf entry) = entry.1 := by
  by_cases htype : entry.2.typeKey = ""
  · rw [nameOf_of_empty htype, hsmall entry hentry]
  · rw [nameOf_of_ne htype, hown htype]

include hnodup hsmall

theorem isFaithful_of_standsUnderOwn (h : ∀ entry ∈ registry, StandsUnderOwn entry) :
    registry.IsFaithful where
  finds i entry hi := by
    have hentry : entry ∈ registry := List.mem_of_getElem? hi
    refine ⟨nameOf entry, by rw [types_eq_map, List.getElem?_map, hi]; rfl, ?_⟩
    rw [find?_eq_some_iff hnodup, lower_nameOf hsmall hentry (h entry hentry)]
    exact hentry
  distinct := by
    have hkeys : registry.types.map Text.lower = registry.map (·.1) := by
      rw [types_eq_map, List.map_map]
      exact List.map_congr_left fun entry hentry => lower_nameOf hsmall hentry (h entry hentry)
    rw [hkeys]
    exact hnodup

omit hsmall in
/-- In a faithful list a factory with a name of its own stands under it: if it stood elsewhere, the
    entry that its name finds would be listed under the same name. -/
theorem standsUnderOwn_of_isFaithful (h : registry.IsFaithful) :
    ∀ entry ∈ registry, StandsUnderOwn entry := by
  intro entry hentry htype
  obtain ⟨i, hi, hget⟩ := List.mem_iff_getElem.1 hentry
  have hat : registry[i]? = some entry := List.getElem?_eq_some_iff.2 ⟨hi, hget⟩
  have hname : registry.types[i]? = some (nameOf entry) := by
    rw [types_eq_map, List.getElem?_map, hat]
    rfl
  obtain ⟨name, hsame, hfound⟩ := h.finds i entry hat
  obtain rfl : nameOf entry = name := Option.some.inj (hname.symm.trans hsame)
  rw [nameOf_of_ne htype, find?_eq_some_iff hnodup] at hfound
  have hother : nameOf (Text.lower entry.2.typeKey, entry.2) = entry.2.typeKey :=
    nameOf_of_ne htype
  have halike : Text.lower (nameOf (Text.lower entry.2.typeKey, entry.2)) =
      Text.lower (nameOf entry) := by
    rw [hother, nameOf_of_ne htype]
  have hdistinct : (registry.map (Text.lower ∘ nameOf)).Nodup := by
    rw [← List.map_map]
    exact h.distinct
  have hsame := List.inj_on_of_nodup_map hdistinct hfound hentry halike
  exact (congrArg Prod.fst hsame).symm

end faithful

/-! ### Registries in use -/

/-- The names of a registry through any run of actions, from the built-in types on.

    They are those of the registrations that count, in the order in which these were made: for each
    the name that its factory has for itself, or else its key. A name leads back to the factory at
    its place exactly if this factory stands under the name; so it does if the factory has no name
    of its own, or was registered under it. The list as a whole is faithful exactly if every factory
    with a name of its own stands under it, and that is so as long as none is registered under
    another key. -/
theorem types_isFaithful_iff (actions : List Action) :
    let registry := run Node.registry actions
    registry.types = (standing (history [] (discovery ++ actions))).map nameOf ∧
    (∀ entry ∈ registry,
      (registry.find? (nameOf entry) = some entry.2 ↔
        (Text.lower (nameOf entry), entry.2) ∈ registry) ∧
      (StandsUnderOwn entry → registry.find? (nameOf entry) = some entry.2)) ∧
    (registry.IsFaithful ↔ ∀ entry ∈ registry, StandsUnderOwn entry) ∧
    ((∀ factory asked, .register factory asked ∈ actions →
        asked = "" ∨ factory.typeKey = "" ∨ Text.lower asked = Text.lower factory.typeKey) →
      registry.IsFaithful) := by
  intro registry
  have hagrees : Agrees registry (history [] (discovery ++ actions)) := agrees_of_use actions
  have hsmall : ∀ entry ∈ registry, Text.lower entry.1 = entry.1 := lower_key_of_use
  refine ⟨?_, ?_, ⟨?_, ?_⟩, ?_⟩
  · rw [← hagrees.entries]
    rfl
  · intro entry hentry
    refine ⟨find?_eq_some_iff hagrees.nodup, fun hown => ?_⟩
    rw [find?_eq_some_iff hagrees.nodup, lower_nameOf hsmall hentry hown]
    exact hentry
  · exact standsUnderOwn_of_isFaithful hagrees.nodup
  · exact isFaithful_of_standsUnderOwn hagrees.nodup hsmall
  · intro hasked
    refine isFaithful_of_standsUnderOwn hagrees.nodup hsmall (standsUnderOwn_of_use ?_)
    intro factory asked hregister htype
    rcases hasked factory asked hregister with rfl | hempty | hsame
    · rfl
    · exact absurd hempty htype
    · show Text.lower (keyFor factory asked) = Text.lower factory.typeKey
      unfold keyFor
      split
      · rfl
      · exact hsame

/-- A factory that has no name of its own. -/
def namelessFactory : Factory := ⟨100, "", .ok none⟩

/-- A factory without a name of its own may be registered under any key. -/
theorem types_isFaithful_nameless :
    IsFaithful (run Node.registry [.register namelessFactory "Plain"]) := by
  obtain ⟨_, _, _, hfaithful⟩ := types_isFaithful_iff [.register namelessFactory "Plain"]
  refine hfaithful fun factory asked hregister => ?_
  obtain ⟨rfl, rfl⟩ := Action.register.inj (List.mem_singleton.1 hregister)
  exact Or.inr (Or.inl rfl)

/-- The factory of the rectifier is given a second key and loses its first. -/
def rekeying : List Action :=
  [.register (Node.factoryOf Node.relu.plugin 0) "Alias", .unregister "ReLU"]

/-- A factory that stands under a second key only is listed under a name that finds nothing. -/
theorem types_rekeyed :
    (run Node.registry rekeying).types[17]? = some "ReLU" ∧
      (run Node.registry rekeying).find? "ReLU" = none ∧
        ¬(run Node.registry rekeying).IsFaithful := by
  have hname : (run Node.registry rekeying).types[17]? = some "ReLU" := by decide
  have hlost : ((run Node.registry rekeying).find? "ReLU").isNone = true := by decide
  refine ⟨hname, Option.isNone_iff_eq_none.1 hlost, fun hfaithful => ?_⟩
  have hthere : (run Node.registry rekeying)[17]?.isSome = true := by decide
  obtain ⟨entry, hentry⟩ := Option.isSome_iff_exists.1 hthere
  obtain ⟨name, hsame, hfound⟩ := hfaithful.finds 17 entry hentry
  obtain rfl : "ReLU" = name := Option.some.inj (hname.symm.trans hsame)
  rw [hfound] at hlost
  exact absurd hlost Bool.false_ne_true

end LayerGraph.Registry
