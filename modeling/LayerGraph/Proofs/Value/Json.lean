import LayerGraph.Proofs.Value.Entries
import LayerGraph.Proofs.Value.Showable

/-! # JSON values

    The values that a JSON document can hold: the keys of mappings are strings, sequences are lists,
    and integers are no longer than JSON integers are read. So all of them can be shown.
-/

namespace LayerGraph.Value

mutual

/-- Whether a value can be the content of a JSON document. The keys of its mappings are strings,
    and its integers are no longer than JSON integers are read. -/
def isJson : Value → Bool
  | .null | .bool _ | .float _ | .str _ => true
  | .int n => isShort n
  | .list items => areJson items
  | .map entries => areJsonEntries entries
  | _ => false

/-- Whether all items of a list can be in a JSON document. -/
def areJson : List Value → Bool
  | [] => true
  | item :: rest => isJson item && areJson rest

/-- Whether all keys are strings and all values can be in a JSON document. -/
def areJsonEntries : List (Value × Value) → Bool
  | [] => true
  | (.str _, value) :: rest => isJson value && areJsonEntries rest
  | _ => false

end

theorem areJson_iff {items : List Value} :
    areJson items = true ↔ ∀ v ∈ items, v.isJson = true := by
  induction items with
  | nil => simp [areJson]
  | cons item rest ih => simp [areJson, ih]

theorem areJsonEntries_iff {entries : List (Value × Value)} :
    areJsonEntries entries = true ↔
      ∀ entry ∈ entries, (∃ key, entry.1 = .str key) ∧ entry.2.isJson = true := by
  induction entries with
  | nil => simp [areJsonEntries]
  | cons entry rest ih =>
    obtain ⟨key, value⟩ := entry
    rw [List.forall_mem_cons, ← ih]
    cases key <;> simp [areJsonEntries]

/-- A mapping with string keys is a JSON object if its values can be in one. -/
theorem isJson_ofEntries {entries : Entries} :
    (ofEntries entries).isJson = true ↔ ∀ entry ∈ entries, entry.2.isJson = true := by
  rw [ofEntries, isJson, areJsonEntries_iff, List.forall_mem_map]
  constructor
  · exact fun h entry hentry => (h entry hentry).2
  · exact fun h entry hentry => ⟨⟨entry.1, rfl⟩, h entry hentry⟩

theorem isJson_of_member? {key : String} {members : List (Value × Value)} {v : Value}
    (h : member? key members = some v) (hmembers : areJsonEntries members = true) :
    v.isJson = true := by
  obtain ⟨k, hk⟩ := exists_mem_of_member? h
  exact (areJsonEntries_iff.1 hmembers _ hk).2

/-- What can be in a JSON document can be shown. -/
theorem isShowable_of_isJson {v : Value} (h : v.isJson = true) : v.isShowable = true := by
  induction v using induct with
  | leaf v hleaf =>
    cases v with
    | int n =>
      rw [isJson] at h
      rw [isShowable]
      exact h
    | tuple | list | set | map => cases hleaf
    | _ => rfl
  | list items ih =>
    exact areShowable_iff.2 fun v hv => ih v hv (areJson_iff.1 h v hv)
  | map entries ih =>
    refine areShowableEntries_iff.2 fun entry hentry => ?_
    obtain ⟨⟨key, hkey⟩, hvalue⟩ := areJsonEntries_iff.1 h entry hentry
    rw [hkey]
    exact ⟨rfl, (ih entry hentry).2 hvalue⟩
  | tuple | set => cases h

end LayerGraph.Value
