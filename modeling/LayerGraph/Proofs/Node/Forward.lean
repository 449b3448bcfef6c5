import LayerGraph.Node.Module
import LayerGraph.Proofs.Node.Templates
import LayerGraph.Proofs.Rendering
import LayerGraph.Proofs.Setting.Given

/-! # The class of a module

    A module whose layers can be bound is turned into a class exactly if it has statements for
    `forward`: the data flow with the names of layers bound to attributes, or a chain of the layers.
    The texts of the class stand one below the other (`emit_eq`).
-/

namespace LayerGraph.Node.Module

open Fragment (stack)

/-- The texts that a class is made of. -/
def texts (settings : Entries) (bound : List (String × String)) (flow : String) : List String :=
  ["class " ++ settings.text "className" ++ "(nn.Module):",
   "    def __init__(" ++ ", ".intercalate ("self" :: settings.texts "constructorParams") ++ "):",
   Fragment.indent (stack ("super().__init__()" :: bound.map binding)) 2, "",
   "    def forward(" ++ ", ".intercalate ("self" :: settings.texts "forwardParams") ++ "):",
   Fragment.body flow 2]

/-- Every class can be written. -/
theorem render_eq (settings : Entries) (bound : List (String × String)) (flow : String) :
    render settings bound flow = .ok (stack (texts settings bound flow)) := by
  unfold render
  rw [renderSource_text Module.segments]
  · apply congrArg Except.ok
    apply String.toList_inj.1
    simp [texts, Segment.filled, Entries.text, Entries.get?, List.lookup, stack]
  · simp [Entries.get?, List.lookup]

/-- The parameters of `forward` are names. -/
theorem isName_of_forwardParams {given : Value} {settings : Entries}
    (hsettings : schema.parseValue typeKey given = .ok settings) :
    ∀ x ∈ settings.texts "forwardParams", Text.isName x = true := fun _ hx =>
  Schema.isName_of_mem_texts (Schema.fits_of_parseValue hsettings) (by decide)
    (List.getElem_mem (n := 2) (by decide)) rfl rfl hx

/-- The statements of `forward` without a data flow: a single parameter is passed through the layers
    in order. -/
def chain (settings : Entries) (names : List String) : String :=
  match settings.texts "forwardParams" with
  | [x] => stack (names.map (chainLink x) ++ ["return " ++ x])
  | _ => ""

/-- With a data flow its names are bound, or it is to blame; without one the layers are chained. -/
theorem forward_eq (settings : Entries) (names : List String) :
    forward settings names =
      if Fragment.isBlank (settings.text "dataFlow") = true then .ok (chain settings names)
      else (Flow.bind names (settings.text "dataFlow")).mapError fun reason =>
        .graph (.invalidSetting typeKey "dataFlow" reason) := by
  unfold forward chain
  cases hblank : Fragment.isBlank (settings.text "dataFlow") with
  | true =>
    simp only [hblank, if_true]
    cases settings.texts "forwardParams" with
    | nil => rfl
    | cons x others => cases others <;> rfl
  | false =>
    simp only [hblank]
    rfl

/-- A module whose layers are bound is the class around the statements of its `forward`. -/
theorem emit_eq {given : Value} {inside : Inside} {settings : Entries} {parts : List Part}
    {bound : List (String × String)} (hsettings : schema.parseValue typeKey given = .ok settings)
    (hparts : inside.parts = .ok parts) (hbound : boundParts 0 [] parts = .ok bound) :
    emit given inside =
      (forward settings (bound.map (·.1))).map fun flow => stack (texts settings bound flow) := by
  have hread : (inside.parts.mapError .graph : Except Failure (List Part)) = .ok parts :=
    Result.mapError_eq_ok.2 hparts
  unfold emit
  rw [hsettings]
  simp only [bind, Except.bind, hread, hbound]
  cases forward settings (bound.map (·.1)) with
  | error failure => rfl
  | ok flow => exact render_eq settings bound flow

/-- A module that is written has layers that are bound and statements for `forward`. -/
theorem exists_of_emit {given : Value} {inside : Inside} {settings : Entries} {code : String}
    (hsettings : schema.parseValue typeKey given = .ok settings)
    (h : emit given inside = .ok code) :
    ∃ parts bound flow, inside.parts = .ok parts ∧ boundParts 0 [] parts = .ok bound ∧
      forward settings (bound.map (·.1)) = .ok flow ∧
      code = stack (texts settings bound flow) := by
  have hall := h
  unfold emit at h
  rw [hsettings] at h
  obtain ⟨_, hsame, h⟩ := Result.bind_eq_ok.1 h
  obtain ⟨parts, hparts, h⟩ := Result.bind_eq_ok.1 h
  obtain ⟨bound, hbound, h⟩ := Result.bind_eq_ok.1 h
  have hparts : inside.parts = .ok parts := Result.mapError_eq_ok.1 hparts
  rw [emit_eq hsettings hparts hbound] at hall
  obtain ⟨flow, hflow, rfl⟩ := Result.map_eq_ok.1 hall
  exact ⟨parts, bound, flow, hparts, hbound, hflow, rfl⟩

end LayerGraph.Node.Module
