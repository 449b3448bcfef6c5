import LayerGraph.Proofs.Fragment.Height
import LayerGraph.Proofs.Node.Builtins
import LayerGraph.Proofs.Node.Calls
import LayerGraph.Proofs.Node.Embedding
import LayerGraph.Proofs.Node.Forward

/-! # Code of a single line

    Which built-in node types can write code of a single line. The class of a data set or a module,
    the function for one epoch and the loop over epochs have two solid lines at least, and so has a
    report that is written at all. So code of a single line is that of a constructor node, of a
    pipeline, or of a report that is left out (`cases_of_height_le_one`).
-/

namespace LayerGraph.Node

open Fragment (height stack)

/-! ### Code of several lines -/

theorem height_pos_append {s : String} (h : Text.isBlankText s.toList = false) (t : String) :
    0 < height (s ++ t).toList := by
  apply Fragment.height_pos
  rw [String.toList_append, Text.isBlankText_append, h, Bool.false_and]

theorem Dataset.two_le_height (settings : Entries) :
    2 ≤ height (stack (texts settings)).toList := by
  have hclass := height_pos_append (s := "class " ++ settings.text "className")
    (by rw [String.toList_append, Text.isBlankText_append]; rfl) "(Dataset):"
  have hinit := height_pos_append
    (s := "    def __init__(" ++ settings.commaTexts "constructorParams")
    (by rw [String.toList_append, Text.isBlankText_append]; rfl) "):"
  rw [Fragment.height_stack]
  unfold texts
  simp only [List.map_cons, List.sum_cons]
  omega

theorem Module.two_le_height (settings : Entries) (bound : List (String × String))
    (flow : String) : 2 ≤ height (stack (texts settings bound flow)).toList := by
  have hclass := height_pos_append (s := "class " ++ settings.text "className")
    (by rw [String.toList_append, Text.isBlankText_append]; rfl) "(nn.Module):"
  have hinit := height_pos_append
    (s := "    def __init__(" ++ ", ".intercalate ("self" :: settings.texts "constructorParams"))
    (by rw [String.toList_append, Text.isBlankText_append]; rfl) "):"
  rw [Fragment.height_stack]
  unfold texts
  simp only [List.map_cons, List.sum_cons]
  omega

/-- A report has a header and statements below it. -/
theorem Report.two_le_height {settings : Entries} (h : ¬IsIdle settings) :
    2 ≤ height (stack (texts settings)).toList := by
  have hheader := height_pos_append (s := "if " ++ String.ofList (condition settings))
    (by rw [String.toList_append, Text.isBlankText_append]; rfl) ":"
  have hsolid : Text.isBlankText (statements settings) = false :=
    Bool.eq_false_iff.2 fun hblank => h (.inr hblank)
  have hstatements : 0 < height
      (Fragment.indent (String.ofList (statements settings)) (1 : Nat)).toList := by
    rw [Fragment.height_indent, String.toList_ofList]
    exact Fragment.height_pos hsolid
  rw [Fragment.height_stack]
  unfold texts
  simp only [List.map_cons, List.sum_cons]
  exact Nat.add_le_add hheader (Nat.le_add_right_of_le hstatements)

theorem Epoch.two_le_height (settings : Entries) (codes : List String) :
    2 ≤ height (stack (texts settings codes)).toList := by
  have hloss : height "    running_loss = 0.".toList = 1 := by decide
  have hlast : height "    last_loss = 0.".toList = 1 := by decide
  rw [Fragment.height_stack]
  unfold texts head
  simp only [List.cons_append, List.map_cons, List.sum_cons, hloss, hlast]
  omega

theorem Trainer.two_le_height (settings : Entries) (epochs : List Char) :
    2 ≤ height (stack (texts settings epochs)).toList := by
  have hloop := height_pos_append
    (s := "for epoch_index in range(" ++ String.ofList epochs)
    (by rw [String.toList_append, Text.isBlankText_append]; rfl) "):"
  have htrain : 0 < height ("    " ++ settings.text "modelVariable" ++ ".train(True)").toList := by
    apply Fragment.height_pos
    rw [String.toList_append, Text.isBlankText_append]
    have hcall : Text.isBlankText ".train(True)".toList = false := rfl
    rw [hcall, Bool.and_false]
  rw [Fragment.height_stack]
  unfold texts head
  simp only [List.cons_append, List.map_cons, List.sum_cons]
  omega

/-! ### All node types -/

/-- Code of a single line is that of a constructor node, of a report that is left out, or of a
    pipeline. -/
theorem cases_of_height_le_one : ∀ plugin ∈ builtins, ∀ given inside code,
    plugin.emit given inside = .ok code → height code.toList ≤ 1 →
      (∃ node ∈ constructors, plugin = node.plugin) ∨
        (plugin = Report.plugin ∧ inside.given = false ∧ code = "") ∨
        plugin = Pipeline.plugin := by
  apply forall_mem_builtins
  case constructor =>
    intro node hnode given inside code _ _
    exact .inl ⟨node, hnode, rfl⟩
  case pipeline => exact fun _ _ _ _ _ => .inr (.inr rfl)
  case report =>
    intro given inside code hcode hheight
    obtain ⟨hgiven, settings, -, hvalid⟩ := emit_eq_ok.1 hcode
    rcases Report.emitValid_eq_ok.1 hvalid with ⟨-, hnone⟩ | ⟨hbusy, -, rfl⟩
    · exact .inr (.inl ⟨rfl, hgiven, hnone⟩)
    · exact absurd hheight (Nat.not_le.2 (Report.two_le_height hbusy))
  -- the others are higher than a single line
  case dataset =>
    intro given inside code hcode hheight
    obtain ⟨-, settings, -, hvalid⟩ := emit_eq_ok.1 hcode
    obtain ⟨-, rfl⟩ := Dataset.emitValid_eq_ok.1 hvalid
    exact absurd hheight (Nat.not_le.2 (Dataset.two_le_height settings))
  case module =>
    intro given inside code hcode hheight
    obtain ⟨settings, hsettings, -⟩ := Result.bind_eq_ok.1 hcode
    obtain ⟨_, bound, flow, -, -, -, rfl⟩ := Module.exists_of_emit hsettings hcode
    exact absurd hheight (Nat.not_le.2 (Module.two_le_height settings bound flow))
  case epoch =>
    intro given inside code hcode hheight
    obtain ⟨settings, -, hvalid⟩ := Result.bind_eq_ok.1 hcode
    obtain ⟨-, _, codes, -, -, rfl⟩ := Epoch.emitValid_eq_ok.1 hvalid
    exact absurd hheight (Nat.not_le.2 (Epoch.two_le_height settings codes))
  case trainer =>
    intro given inside code hcode hheight
    obtain ⟨-, settings, hsettings, hvalid⟩ := emit_eq_ok.1 hcode
    obtain ⟨n, hn, -⟩ := Trainer.exists_epochs hsettings
    obtain ⟨epochs, -, rfl⟩ := (Trainer.emitValid_eq_ok hn).1 hvalid
    exact absurd hheight (Nat.not_le.2 (Trainer.two_le_height settings epochs))

end LayerGraph.Node
