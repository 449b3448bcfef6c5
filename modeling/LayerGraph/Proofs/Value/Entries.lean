import LayerGraph.Setting.Schema
import LayerGraph.Value.Lemmas

/-! # The values among entries

    What holds of all values of entries holds of what is found under a key, and is kept when a value
    of the same kind is written or when entries of the same kind are laid over them.
-/

namespace LayerGraph.Entries

theorem mem_of_get? {entries : Entries} {key : String} {v : Value}
    (h : entries.get? key = some v) : (key, v) ∈ entries := by
  unfold get? at h
  obtain ⟨before, after, hsplit, _⟩ := List.lookup_eq_some_iff.1 h
  exact hsplit ▸ List.mem_append_right before List.mem_cons_self

/-- What holds of all values of entries and of a new one holds after the new one is written. -/
theorem forall_mem_set {P : Value → Prop} {entries : Entries} {key : String} {value : Value}
    (h : ∀ entry ∈ entries, P entry.2) (hvalue : P value) :
    ∀ entry ∈ entries.set key value, P entry.2 := by
  unfold set
  split
  · rw [List.forall_mem_map]
    intro entry hentry
    split
    · exact hvalue
    · exact h entry hentry
  · rw [List.forall_mem_append, List.forall_mem_singleton]
    exact ⟨h, hvalue⟩

theorem forall_mem_merge {P : Value → Prop} {standards given : Entries}
    (hstandards : ∀ entry ∈ standards, P entry.2) (hgiven : ∀ entry ∈ given, P entry.2) :
    ∀ entry ∈ Schema.merge standards given, P entry.2 := by
  unfold Schema.merge
  induction given generalizing standards with
  | nil => exact hstandards
  | cons entry rest ih =>
    obtain ⟨hentry, hrest⟩ := List.forall_mem_cons.1 hgiven
    exact ih (forall_mem_set hstandards hentry) hrest

/-- What holds of null and of all values of entries holds of what is found under any key. -/
theorem forall_getD {P : Value → Prop} {entries : Entries} (h : ∀ entry ∈ entries, P entry.2)
    (hnull : P .null) (key : String) : P ((entries.get? key).getD .null) := by
  cases hfound : entries.get? key with
  | none => exact hnull
  | some v => exact h _ (mem_of_get? hfound)

end LayerGraph.Entries

namespace LayerGraph.Value

/-- What is found under a text in a mapping is among its values. -/
theorem exists_mem_of_member? {key : String} {members : List (Value × Value)} {v : Value}
    (h : member? key members = some v) : ∃ k, (k, v) ∈ members := by
  induction members with
  | nil => exact absurd h nofun
  | cons entry rest ih =>
    obtain ⟨k, w⟩ := entry
    unfold member? at h
    split at h
    · obtain rfl := Option.some.inj h
      exact ⟨k, List.mem_cons_self⟩
    · obtain ⟨k', hk'⟩ := ih h
      exact ⟨k', List.mem_cons_of_mem _ hk'⟩

end LayerGraph.Value
