/-! # Distinct texts

    A list of texts without its repetitions: each text stands where it occurs first. The two main
    statements say that nothing is lost and that nothing is left twice.
-/

namespace LayerGraph.Text

/-- Adds a text at the end, unless it is there already. -/
def addNew (known : List String) (text : String) : List String :=
  if known.contains text then known else known ++ [text]

/-- Each text of a list where it occurs first. -/
def distinct (texts : List String) : List String := texts.foldl addNew []

theorem mem_addNew {known : List String} {text x : String} :
    x ∈ addNew known text ↔ x ∈ known ∨ x = text := by
  unfold addNew
  by_cases h : known.contains text = true
  · rw [if_pos h]
    have present : text ∈ known := List.contains_iff_mem.1 h
    exact ⟨Or.inl, fun found => found.elim id (fun same => same ▸ present)⟩
  · rw [if_neg h, List.mem_append, List.mem_singleton]

theorem nodup_addNew {known : List String} (nodup : known.Nodup) (text : String) :
    (addNew known text).Nodup := by
  unfold addNew
  by_cases h : known.contains text = true
  · rw [if_pos h]
    exact nodup
  · rw [if_neg h, List.nodup_append]
    refine ⟨nodup, by simp, ?_⟩
    intro a before b last same
    rw [List.mem_singleton] at last
    rw [same, last] at before
    exact h (List.contains_iff_mem.2 before)

theorem mem_foldl_addNew {known texts : List String} {x : String} :
    x ∈ texts.foldl addNew known ↔ x ∈ known ∨ x ∈ texts := by
  induction texts generalizing known with
  | nil => simp
  | cons text rest ih => rw [List.foldl_cons, ih, mem_addNew, List.mem_cons, or_assoc]

theorem nodup_foldl_addNew {known : List String} (nodup : known.Nodup) (texts : List String) :
    (texts.foldl addNew known).Nodup := by
  induction texts generalizing known with
  | nil => exact nodup
  | cons text rest ih => exact ih (nodup_addNew nodup text)

/-- No text is lost and none is added. -/
theorem mem_distinct {texts : List String} {x : String} : x ∈ distinct texts ↔ x ∈ texts := by
  simp [distinct, mem_foldl_addNew]

/-- No text is left twice. -/
theorem nodup_distinct (texts : List String) : (distinct texts).Nodup :=
  nodup_foldl_addNew List.nodup_nil texts

end LayerGraph.Text
