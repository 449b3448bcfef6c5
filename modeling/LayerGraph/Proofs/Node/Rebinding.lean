import LayerGraph.Node.Layers
import LayerGraph.Proofs.Flow.Rebinding
import LayerGraph.Proofs.Node.Attributes
import LayerGraph.Proofs.Node.Forward

/-! # Layers that are rebound in a module

    When the data flow of a module is refused: exactly if it cannot be read, gives the name of a
    layer another value where the check looks for it, or speaks of a numbered layer that does not
    exist (`refuses_dataFlow_iff`). The check does not look into brackets, at the target of a loop,
    or past a line break in front of `:=` (`emit_hiddenTarget`).
-/

namespace LayerGraph.Node.Module

open LayerGraph.Flow (Token Rebinds MissesLayer bind tokens normalLines)

/-- Whether a data flow can be read and neither rebinds nor misses a layer. -/
def IsAccepted (names : List String) (dataFlow : String) : Prop :=
  ∃ ts, tokens (normalLines dataFlow) = .ok ts ∧
    ∀ earlier t later, ts = earlier ++ t :: later →
      ¬Rebinds names earlier t later ∧ ¬MissesLayer names earlier t later

/-- A module whose layers are bound, and which has a data flow, is turned into code exactly if the
    data flow is accepted. Else the data flow is to blame. -/
theorem refuses_dataFlow_iff {given : Value} {inside : Inside} {settings : Entries}
    {parts : List Part} {bound : List (String × String)}
    (hsettings : schema.parseValue typeKey given = .ok settings)
    (hparts : inside.parts = .ok parts) (hbound : boundParts 0 [] parts = .ok bound)
    (hflow : Fragment.isBlank (settings.text "dataFlow") = false) :
    ((∃ code, emit given inside = .ok code) ↔
      IsAccepted (bound.map (·.1)) (settings.text "dataFlow")) ∧
    ((∃ reason, emit given inside =
        .error (.graph (.invalidSetting typeKey "dataFlow" reason))) ↔
      ¬IsAccepted (bound.map (·.1)) (settings.text "dataFlow")) := by
  rw [IsAccepted, ← Flow.bind_isOk_iff, emit_eq hsettings hparts hbound, forward_eq, hflow,
    if_neg Bool.false_ne_true]
  cases hbind : bind (bound.map (·.1)) (settings.text "dataFlow") with
  | ok code =>
    refine ⟨⟨fun _ => ⟨code, rfl⟩, fun _ => ⟨_, rfl⟩⟩, ⟨?_, fun hnot => ?_⟩⟩
    · rintro ⟨reason, herror⟩
      exact absurd herror nofun
    · exact absurd ⟨code, rfl⟩ hnot
  | error reason =>
    refine ⟨⟨?_, ?_⟩, ⟨fun _ => ?_, fun _ => ⟨reason, rfl⟩⟩⟩
    · rintro ⟨code, hcode⟩
      exact absurd hcode nofun
    · rintro ⟨code, hcode⟩
      exact absurd hcode nofun
    · rintro ⟨code, hcode⟩
      exact absurd hcode nofun

/-- A layer that is bound to `fc`. -/
def layerFc : Layer := .mk "ReLU" (some [("variableName", .str "fc")]) .none

/-- What a module holds whose only layer is bound to `fc`. -/
def insideFc : Inside := (Child.one layerFc).inside fun _ => .ok relu.plugin

theorem boundParts_layerFc :
    boundParts 0 [] [layerFc.part fun _ => .ok relu.plugin] = .ok [("fc", "torch.nn.ReLU()")] := by
  have hname : attributeName 0 [("variableName", .str "fc")] = .ok "fc" := by
    cbv
  have hcode : relu.emit (.ofEntries [("variableName", .null)])
      (Child.none.inside fun _ => .ok relu.plugin) = .ok "torch.nn.ReLU()" := by
    cbv
  have hline : (trimmed "torch.nn.ReLU()").contains '\n' = false := by
    cbv
  refine boundParts_cons_eq_ok.2 ⟨("fc", "torch.nn.ReLU()"), [], ?_, rfl, rfl⟩
  exact boundPart_eq_ok.2 ⟨hname, rfl, relu.info, "torch.nn.ReLU()", rfl, hcode, hline, rfl⟩

/-- The settings of a module with a data flow and nothing else. -/
def settingsOf (flow : String) : Entries :=
  [("className", .str "NeuralNetwork"), ("constructorParams", .tuple []),
   ("forwardParams", .tuple [.str "x"]), ("dataFlow", .str flow)]

theorem parseValue_dataFlow (flow : String) :
    schema.parseValue typeKey (.ofEntries [("dataFlow", .str flow)]) = .ok (settingsOf flow) := by
  have hkey : "dataFlow" ∈ schema.keys := by decide
  have hclass : Shape.name.check (.str "NeuralNetwork") = .ok (.str "NeuralNetwork") := by cbv
  have hparams : (Shape.sequence .name).check (.tuple [.str "x"]) = .ok (.tuple [.str "x"]) := by
    cbv
  have hrequired : schema.required = [] := rfl
  refine Schema.parseValue_of_checked _ (List.forall_mem_singleton.2 hkey) ?_ ?_
  · rw [hrequired]
    rfl
  · exact .cons ⟨rfl, hclass⟩ (.cons ⟨rfl, rfl⟩ (.cons ⟨rfl, hparams⟩ (.cons ⟨rfl, rfl⟩ .nil)))

/-- The code of a module with a data flow and nothing else among its settings. -/
theorem emit_dataFlow {inside : Inside} {parts : List Part} {bound : List (String × String)}
    {dataFlow flow : String} (hparts : inside.parts = .ok parts)
    (hbound : boundParts 0 [] parts = .ok bound) (hsolid : Fragment.isBlank dataFlow = false)
    (hbind : Flow.bind (bound.map (·.1)) dataFlow = .ok flow) :
    emit (.ofEntries [("dataFlow", .str dataFlow)]) inside =
      .ok (Fragment.stack (texts (settingsOf dataFlow) bound flow)) := by
  have hread : (settingsOf dataFlow).text "dataFlow" = dataFlow := rfl
  rw [emit_eq (parseValue_dataFlow dataFlow) hparts hbound, forward_eq, hread, hsolid,
    if_neg Bool.false_ne_true, hbind]
  rfl

/-- An assignment to the name of the layer. -/
theorem refuses_dataFlow_assignment :
    boundParts 0 [] [layerFc.part fun _ => .ok relu.plugin] = .ok [("fc", "torch.nn.ReLU()")] ∧
      ∃ reason, emit (.ofEntries [("dataFlow", .str "fc = fc(x)")]) insideFc =
        .error (.graph (.invalidSetting typeKey "dataFlow" reason)) := by
  have htokens : tokens (normalLines "fc = fc(x)") =
      .ok (⟨.name, ['f', 'c'], 1, 0⟩ :: ⟨.operator, ['='], 1, 3⟩ ::
        [⟨.name, ['f', 'c'], 1, 5⟩, ⟨.operator, ['('], 1, 7⟩, ⟨.name, ['x'], 1, 8⟩,
          ⟨.operator, [')'], 1, 9⟩, ⟨.newline, ['\n'], 1, 10⟩, ⟨.endMarker, [], 2, 0⟩]) := rfl
  have hrefused : ¬IsAccepted ["fc"] "fc = fc(x)" := by
    rintro ⟨ts, hts, hnone⟩
    obtain rfl := Except.ok.inj (htokens.symm.trans hts)
    -- the first token is the name, and the assignment stands directly behind it
    refine (hnone [] _ _ rfl).1 ⟨by decide, Or.inr ⟨[], _, _, rfl, ?_⟩⟩
    decide
  refine ⟨boundParts_layerFc, ?_⟩
  exact (refuses_dataFlow_iff (parseValue_dataFlow _) rfl boundParts_layerFc rfl).2.2 hrefused

/-- Layers that get another value as a target in brackets, as that of a loop, and in front of `:=`
    on the next line. -/
theorem emit_hiddenTarget :
    (∃ code, emit (.ofEntries [("dataFlow", .str "(fc, x) = fc, x")]) insideFc = .ok code) ∧
      (∃ code, emit (.ofEntries [("dataFlow", .str "for fc in x:\n    pass")]) insideFc =
        .ok code) ∧
      ∃ code, emit (.ofEntries [("dataFlow", .str "y = (fc\n     := x)")]) insideFc =
        .ok code := by
  refine ⟨?tuple, ?loop, ?line⟩
  case tuple =>
    have hbind : bind ["fc"] "(fc, x) = fc, x" = .ok "(self.fc, x) = self.fc, x" := rfl
    exact ⟨_, emit_dataFlow rfl boundParts_layerFc rfl hbind⟩
  case loop =>
    have hbind : bind ["fc"] "for fc in x:\n    pass" = .ok "for self.fc in x:\n    pass" := rfl
    exact ⟨_, emit_dataFlow rfl boundParts_layerFc rfl hbind⟩
  case line =>
    have hbind : bind ["fc"] "y = (fc\n     := x)" = .ok "y = (self.fc\n     := x)" := rfl
    exact ⟨_, emit_dataFlow rfl boundParts_layerFc rfl hbind⟩

end LayerGraph.Node.Module
