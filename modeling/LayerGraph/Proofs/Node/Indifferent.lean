import LayerGraph.Proofs.Alike

/-! # Built-in types are indifferent

    No built-in plugin can tell parts that are alike apart (`isIndifferent_of_mem_builtins`). Most
    of them take nothing inside. A module binds its parts to names that their settings ask for, a
    pipeline reads the names of their classes, and a training function puts their code together;
    each looks at its parts one by one.
-/

namespace LayerGraph

namespace Node

/-- A node that takes nothing inside asks only whether something is given. -/
theorem sameOutcome_refuseChild {inside other : Inside} (h : inside.Alike other) (nodeType : String)
    (after : Except Failure String) :
    SameOutcome (refuseChild nodeType inside >>= fun _ => after)
      (refuseChild nodeType other >>= fun _ => after) := by
  unfold refuseChild
  rw [h.given]
  exact .of_eq rfl

/-! ### Modules -/

namespace Module

theorem attributeName_congr {settings other : Entries}
    (h : ∀ key, settings.get? key = other.get? key) (index : Nat) :
    attributeName index settings = attributeName index other := by
  unfold attributeName wantedName
  rw [h]

/-- A module refuses what stands inside under one key, whatever the reason is. -/
theorem sameOutcome_refuseInside {α : Type} (reason other : Reason) :
    SameOutcome (refuseInside reason : Except Failure α) (refuseInside other) :=
  .error (.graph ⟨rfl, rfl, rfl⟩)

theorem sameOutcome_boundPart {part other : Part} (h : part.Alike other) (index : Nat)
    (known : List String) :
    SameOutcome (boundPart index known part) (boundPart index known other) := by
  unfold boundPart
  dsimp only
  rw [attributeName_congr h.get?_eq]
  apply (SameOutcome.of_eq rfl).bind
  intro name _
  split
  · exact .of_eq rfl
  · apply h.info.sameOutcome.bind
    intro info hinfo
    apply (h.bound info (Result.mapError_eq_ok.1 hinfo)).bind
    intro code _
    split
    · -- the message names the type of the part
      exact sameOutcome_refuseInside _ _
    · exact .of_eq rfl

theorem sameOutcome_boundParts {parts others : List Part} (h : List.Forall₂ Part.Alike parts others)
    (index : Nat) (known : List String) :
    SameOutcome (boundParts index known parts) (boundParts index known others) := by
  induction h generalizing index known with
  | nil => exact .of_eq rfl
  | cons hpart _ ih =>
    rw [boundParts, boundParts]
    apply (sameOutcome_boundPart hpart index known).bind
    intro first _
    apply (ih (index + 1) (known ++ [first.1])).bind
    intro others _
    exact .of_eq rfl

end Module

/-! ### Pipelines -/

namespace Pipeline

theorem className?_congr {settings other : Entries}
    (h : ∀ key, settings.get? key = other.get? key) (info : NodeInfo) :
    className? info settings = className? info other := by
  unfold className?
  rw [h]

theorem sameOutcome_sectionOf {part other : Part} (h : part.Alike other) (settings : Entries) :
    SameOutcome (sectionOf settings part) (sectionOf settings other) := by
  unfold sectionOf
  apply h.code.bind
  intro code _
  dsimp only
  split
  · exact .of_eq rfl
  · apply h.info.sameOutcome.bind
    intro info _
    rw [className?_congr h.get?_eq]
    exact .of_eq rfl

end Pipeline

/-! ### All of them -/

theorem sameOutcome_module {inside other : Inside} (h : inside.Alike other) (given : Value) :
    SameOutcome (Module.emit given inside) (Module.emit given other) := by
  unfold Module.emit
  apply (SameOutcome.of_eq rfl).bind
  intro settings _
  apply (h.parts.mapError fun _ _ => .graph).bind
  intro parts others _ hparts
  apply (Module.sameOutcome_boundParts hparts 0 []).bind
  intro bound _
  exact .of_eq rfl

theorem sameOutcome_pipeline {inside other : Inside} (h : inside.Alike other) (given : Value) :
    SameOutcome (Pipeline.emit given inside) (Pipeline.emit given other) := by
  unfold Pipeline.emit
  apply (SameOutcome.of_eq rfl).bind
  intro settings _
  apply (h.parts.mapError fun _ _ => .graph).bind
  intro parts others _ hparts
  have hsections : SameOutcome (parts.mapM (Pipeline.sectionOf settings))
      (others.mapM (Pipeline.sectionOf settings)) :=
    Agree.mapM hparts fun _ _ hpart => Pipeline.sameOutcome_sectionOf hpart settings
  apply hsections.bind
  intro sections _
  dsimp only
  -- the import lines are those of the layers inside, at whatever depth
  split
  · apply h.metadata.sameOutcome.bind
    intro metadata _
    exact .of_eq rfl
  · exact .of_eq rfl

theorem sameOutcome_epoch {inside other : Inside} (h : inside.Alike other) (given : Value) :
    SameOutcome (Epoch.emit given inside) (Epoch.emit given other) := by
  unfold Epoch.emit Epoch.emitValid
  apply (SameOutcome.of_eq rfl).bind
  intro settings _
  split
  · exact .of_eq rfl
  · apply (h.parts.mapError fun _ _ => .graph).bind
    intro parts others _ hparts
    have hblocks : SameOutcome (Epoch.blocks parts) (Epoch.blocks others) := by
      apply Agree.mapM hparts
      intro part other hpart
      apply hpart.code.map
      intro code others hcode
      rw [hcode]
    apply hblocks.bind
    intro blocks _
    exact .of_eq rfl

/-- The built-in plugins are indifferent. -/
theorem isIndifferent_of_mem_builtins {plugin : Plugin} (hplugin : plugin ∈ builtins) :
    plugin.IsIndifferent := by
  suffices hinside : ∀ plugin ∈ builtins, ∀ inside other : Inside, inside.Alike other →
      ∀ given, SameOutcome (plugin.emit given inside) (plugin.emit given other) from
    ⟨fun h inside => emit_congr hplugin h inside, fun h given => hinside plugin hplugin _ _ h given⟩
  apply forall_mem_builtins
  case constructor =>
    intro node _ inside other h given
    exact sameOutcome_refuseChild h node.typeKey _
  case dataset =>
    intro inside other h given
    exact sameOutcome_refuseChild h Dataset.typeKey _
  case module =>
    intro inside other h given
    exact sameOutcome_module h given
  case pipeline =>
    intro inside other h given
    exact sameOutcome_pipeline h given
  case report =>
    intro inside other h given
    exact sameOutcome_refuseChild h Report.typeKey _
  case epoch =>
    intro inside other h given
    exact sameOutcome_epoch h given
  case trainer =>
    intro inside other h given
    exact sameOutcome_refuseChild h Trainer.typeKey _

theorem registry_isIndifferent : registry.IsIndifferent := by
  intro type plugin found
  exact isIndifferent_of_mem_builtins (mem_builtins_of_resolve found)

end Node

end LayerGraph
