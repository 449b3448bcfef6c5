import LayerGraph.Proofs.Flow.Reading
import LayerGraph.Proofs.Node.Rebinding

/-! # Layers that are only read in a module

    A data flow of statements that read the layers of a module and assign none of them is not
    refused for an assignment, unless one of the statements misleads the check
    (`refuses_reading`): what is read in the header of a compound statement stands in front of
    the targets, and the check takes it for one (`emit_readHeader`).
-/

namespace LayerGraph.Node.Module

open LayerGraph.Flow (Token Header Statement OnlyRead AnyMisleads MissesLayer bind tokens
  normalLines)

/-- Whether a module is refused because its data flow assigns to a layer. -/
def RefusesAssignment (given : Value) (inside : Inside) : Prop :=
  ∃ name line, emit given inside =
    .error (.graph (.invalidSetting typeKey "dataFlow" (.assignsLayer name line)))

section flow
variable {given : Value} {inside : Inside} {settings : Entries} {parts : List Part}
  {bound : List (String × String)} (hsettings : schema.parseValue typeKey given = .ok settings)
  (hparts : inside.parts = .ok parts) (hbound : boundParts 0 [] parts = .ok bound)
  (hflow : Fragment.isBlank (settings.text "dataFlow") = false)
include hsettings hparts hbound hflow

/-- A module with a data flow is refused for what keeps the names of its layers from being bound. -/
theorem emit_eq_error_iff {reason : Reason} :
    emit given inside = .error (.graph (.invalidSetting typeKey "dataFlow" reason)) ↔
      bind (bound.map (·.1)) (settings.text "dataFlow") = .error reason := by
  rw [emit_eq hsettings hparts hbound, forward_eq, hflow, if_neg Bool.false_ne_true]
  cases bind (bound.map (·.1)) (settings.text "dataFlow") with
  | ok code => simp [Except.mapError, Except.map]
  | error reason => simp [Except.mapError, Except.map]

/-- A data flow of statements that only read the layers of a module is refused for an assignment to
    one only if a statement misleads the check, and then it is so refused unless it speaks of a
    layer that does not exist. -/
theorem refuses_reading {statements : List Statement} {rest : List Token}
    (htokens : tokens (normalLines (settings.text "dataFlow")) =
      .ok (statements.flatMap Statement.tokens ++ rest))
    (hreads : OnlyRead (bound.map (·.1)) [] statements rest) :
    (RefusesAssignment given inside → AnyMisleads (bound.map (·.1)) [] statements rest) ∧
      (AnyMisleads (bound.map (·.1)) [] statements rest →
        (∀ earlier t later, statements.flatMap Statement.tokens ++ rest = earlier ++ t :: later →
          ¬MissesLayer (bound.map (·.1)) earlier t later) → RefusesAssignment given inside) := by
  simp only [RefusesAssignment, emit_eq_error_iff hsettings hparts hbound hflow]
  exact Flow.bind_eq_error_misleads htokens hreads

end flow

/-- A statement with a header that asks for the layer, and an assignment to something else. -/
def ifFc : Statement where
  margin := []
  header := some ⟨⟨.name, ['i', 'f'], 1, 0⟩, [⟨.name, ['f', 'c'], 1, 3⟩], ⟨.operator, [':'], 1, 5⟩⟩
  targets := [([⟨.name, ['x'], 1, 7⟩], ⟨.operator, ['='], 1, 9⟩)]
  value := [⟨.number, ['1'], 1, 11⟩]
  ending := ⟨.newline, ['\n'], 1, 12⟩

/-- A layer that is asked for in a header is taken for a target of the assignment behind it. -/
theorem emit_readHeader :
    tokens (normalLines "if fc: x = 1") =
        .ok ([ifFc].flatMap Statement.tokens ++ [⟨.endMarker, [], 2, 0⟩]) ∧
      OnlyRead ["fc"] [] [ifFc] [⟨.endMarker, [], 2, 0⟩] ∧
      emit (.ofEntries [("dataFlow", .str "if fc: x = 1")]) insideFc =
        .error (.graph (.invalidSetting typeKey "dataFlow" (.assignsLayer "fc" 1))) := by
  have hheader : ∀ h, ifFc.header = some h → h.IsFormed := by
    rintro _ ⟨⟩
    exact ⟨rfl, by decide, by decide, by decide⟩
  have hformed : ifFc.IsFormed :=
    ⟨nofun, hheader, by decide, by decide, by decide, Or.inl rfl⟩
  refine ⟨rfl, ⟨List.forall_mem_singleton.2 hformed, by decide, by decide⟩, ?_⟩
  have hbind : bind ["fc"] "if fc: x = 1" = .error (.assignsLayer "fc" 1) := rfl
  exact (emit_eq_error_iff (parseValue_dataFlow _) rfl boundParts_layerFc rfl).2 hbind

/-- A statement that sets a member of the layer to what the layer makes of the input. -/
def weightFc : Statement where
  margin := []
  header := none
  targets :=
    [([⟨.name, ['f', 'c'], 1, 0⟩, ⟨.operator, ['.'], 1, 2⟩, ⟨.name, ['w'], 1, 3⟩],
      ⟨.operator, ['='], 1, 5⟩)]
  value :=
    [⟨.name, ['f', 'c'], 1, 7⟩, ⟨.operator, ['('], 1, 9⟩, ⟨.name, ['x'], 1, 10⟩,
      ⟨.operator, [')'], 1, 11⟩]
  ending := ⟨.operator, [';'], 1, 12⟩

/-- A statement that keeps the layer under itself. -/
def itemFc : Statement where
  margin := []
  header := none
  targets :=
    [([⟨.name, ['y'], 1, 14⟩, ⟨.operator, ['['], 1, 15⟩, ⟨.name, ['f', 'c'], 1, 16⟩,
      ⟨.operator, [']'], 1, 18⟩], ⟨.operator, ['='], 1, 20⟩)]
  value := [⟨.name, ['f', 'c'], 1, 22⟩]
  ending := ⟨.newline, ['\n'], 1, 24⟩

/-- Statements without headers and without signs of assignment in their values pass the check. -/
theorem refuses_reading_weightFc :
    tokens (normalLines "fc.w = fc(x); y[fc] = fc") =
        .ok ([weightFc, itemFc].flatMap Statement.tokens ++ [⟨.endMarker, [], 2, 0⟩]) ∧
      OnlyRead ["fc"] [] [weightFc, itemFc] [⟨.endMarker, [], 2, 0⟩] ∧
      ¬RefusesAssignment (.ofEntries [("dataFlow", .str "fc.w = fc(x); y[fc] = fc")]) insideFc := by
  have htokens : tokens (normalLines "fc.w = fc(x); y[fc] = fc") =
      .ok ([weightFc, itemFc].flatMap Statement.tokens ++ [⟨.endMarker, [], 2, 0⟩]) := rfl
  have hweight : weightFc.IsFormed :=
    ⟨nofun, nofun, by decide, by decide, by decide, Or.inr (by decide)⟩
  have hitem : itemFc.IsFormed := ⟨nofun, nofun, by decide, by decide, by decide, Or.inl rfl⟩
  have hreads : OnlyRead ["fc"] [] [weightFc, itemFc] [⟨.endMarker, [], 2, 0⟩] :=
    ⟨List.forall_mem_cons.2 ⟨hweight, List.forall_mem_singleton.2 hitem⟩, by decide, by decide⟩
  refine ⟨htokens, hreads, fun hrefused => ?_⟩
  obtain ⟨before, s, after, hsplit, hmisleads⟩ :=
    (refuses_reading (parseValue_dataFlow _) rfl boundParts_layerFc rfl htokens hreads).1 hrefused
  have hmem : s ∈ [weightFc, itemFc] := by simp [hsplit]
  rcases List.mem_cons.1 hmem with rfl | hmem
  · exact Statement.not_misleads hweight rfl (by decide) hmisleads
  · obtain rfl := List.mem_singleton.1 hmem
    exact Statement.not_misleads hitem rfl (by decide) hmisleads

end LayerGraph.Node.Module
