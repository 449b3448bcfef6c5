import LayerGraph.Text.Distinct
import Mathlib

/-! # First occurrences

    A list without its repetitions is not just any list with the same items: each item stands where
    it occurs first. A list *keeps the first* of another if it has the same items, in the order of
    their first occurrences; there is only one such list, and `distinct` gives it
    (`distinct_keepsFirst`).
-/

namespace LayerGraph.Text

/-- The items of a list in the order of their first occurrences. -/
structure KeepsFirst (texts kept : List String) : Prop where
  mem : ∀ text, text ∈ kept ↔ text ∈ texts
  /-- So no item is there twice. -/
  order : kept.Pairwise fun x y => texts.idxOf x < texts.idxOf y

theorem distinct_append_singleton (texts : List String) (text : String) :
    distinct (texts ++ [text]) = addNew (distinct texts) text := by
  unfold distinct
  rw [List.foldl_append]
  rfl

/-- Each text stands where it occurs first, and once. -/
theorem distinct_keepsFirst (texts : List String) : KeepsFirst texts (distinct texts) where
  mem _ := mem_distinct
  order := by
    -- the list grows at its end, where an old text leaves all places as they are
    induction texts using List.reverseRecOn with
    | nil => exact .nil
    | append_singleton texts text ih =>
      have hold : ∀ x ∈ distinct texts, (texts ++ [text]).idxOf x = texts.idxOf x := fun x hx =>
        List.idxOf_append_of_mem (mem_distinct.1 hx)
      have hkept : (distinct texts).Pairwise fun x y =>
          (texts ++ [text]).idxOf x < (texts ++ [text]).idxOf y := by
        refine ih.imp_of_mem fun {x y} hx hy hlt => ?_
        rw [hold x hx, hold y hy]
        exact hlt
      rw [distinct_append_singleton]
      unfold addNew
      split
      · exact hkept
      · next hnew =>
        have habsent : text ∉ texts := fun hmem =>
          hnew (List.contains_iff_mem.2 (mem_distinct.2 hmem))
        refine List.pairwise_append.2 ⟨hkept, List.pairwise_singleton _ _, ?_⟩
        intro x hx y hy
        rw [List.mem_singleton.1 hy, hold x hx, List.idxOf_append_of_notMem habsent]
        exact Nat.lt_of_lt_of_le (List.idxOf_lt_length_of_mem (mem_distinct.1 hx))
          (Nat.le_add_right _ _)

end LayerGraph.Text
