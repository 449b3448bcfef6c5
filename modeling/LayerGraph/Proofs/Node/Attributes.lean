import LayerGraph.Node.Module
import LayerGraph.Proofs.Result

/-! # Attributes of a module

    When the layers inside a module are bound to attributes, and why they are not: what
    `Module.boundPart` answers for one layer, case by case, and `Module.boundParts` for all of them.
-/

namespace LayerGraph.Node.Module

/-- A layer is bound if its name is new, its plugin yields code under the settings for an attribute,
    and that code is a single line. -/
theorem boundPart_eq_ok {index : Nat} {known : List String} {part : Part}
    {bound : String × String} :
    boundPart index known part = .ok bound ↔
      attributeName index (part.layer.settings.getD []) = .ok bound.1 ∧
        known.contains bound.1 = false ∧
          ∃ info code, part.info = .ok info ∧
            part.codeUnder (.ofEntries (boundSettings info (part.layer.settings.getD []))) =
              .ok code ∧
            (trimmed code).contains '\n' = false ∧ bound.2 = trimmed code := by
  unfold boundPart
  constructor
  · intro h
    obtain ⟨name, hname, h⟩ := Result.bind_eq_ok.1 h
    obtain ⟨hnew, h⟩ := Result.unless_eq_ok.1 h
    obtain ⟨info, hinfo, h⟩ := Result.bind_eq_ok.1 h
    obtain ⟨code, hcode, h⟩ := Result.bind_eq_ok.1 h
    obtain ⟨hline, h⟩ := Result.unless_eq_ok.1 h
    obtain rfl := Except.ok.inj h
    -- the settings and the code are those that were used on the way
    exact ⟨hname, Bool.eq_false_iff.2 hnew, info, code, Result.mapError_eq_ok.1 hinfo, hcode,
      Bool.eq_false_iff.2 hline, rfl⟩
  · rintro ⟨hname, hnew, info, code, hinfo, hcode, hline, hbound⟩
    refine Result.bind_eq_ok.2 ⟨bound.1, hname, Result.unless_eq_ok.2 ⟨?_, ?_⟩⟩
    · exact Bool.eq_false_iff.1 hnew
    refine Result.bind_eq_ok.2 ⟨info, Result.mapError_eq_ok.2 hinfo, ?_⟩
    refine Result.bind_eq_ok.2 ⟨code, hcode, Result.unless_eq_ok.2 ⟨?_, ?_⟩⟩
    · exact Bool.eq_false_iff.1 hline
    · exact congrArg Except.ok (Prod.ext rfl hbound.symm)

theorem isAttribute_of_attributeName {index : Nat} {settings : Entries} {name : String}
    (h : attributeName index settings = .ok name) : isAttribute name = true := by
  unfold attributeName at h
  simp only at h
  split at h
  · next hwanted =>
    rw [← Except.ok.inj h]
    exact (Option.filter_eq_some_iff.1 hwanted).2
  · obtain ⟨shown, -, h⟩ := Result.bind_eq_ok.1 h
    exact absurd h nofun

/-- Layers are bound one after the other, each to a name that those before it do not have. -/
theorem boundParts_cons_eq_ok {index : Nat} {known : List String} {part : Part}
    {parts : List Part} {bound : List (String × String)} :
    boundParts index known (part :: parts) = .ok bound ↔
      ∃ first others, boundPart index known part = .ok first ∧
        boundParts (index + 1) (known ++ [first.1]) parts = .ok others ∧
          bound = first :: others := by
  rw [boundParts, Result.bind_eq_ok]
  constructor
  · rintro ⟨first, hfirst, hrest⟩
    obtain ⟨others, hothers, h⟩ := Result.bind_eq_ok.1 hrest
    exact ⟨first, others, hfirst, hothers, (Except.ok.inj h).symm⟩
  · rintro ⟨first, others, hfirst, hothers, rfl⟩
    exact ⟨first, hfirst, Result.bind_eq_ok.2 ⟨others, hothers, rfl⟩⟩

/-- The layers of a module are bound to names that can be those of attributes. -/
theorem isAttribute_of_boundParts {index : Nat} {known : List String} {parts : List Part}
    {bound : List (String × String)} (h : boundParts index known parts = .ok bound) :
    ∀ name ∈ bound.map (·.1), isAttribute name = true := by
  induction parts generalizing index known bound with
  | nil =>
    rw [← Except.ok.inj h]
    exact nofun
  | cons part parts ih =>
    obtain ⟨first, others, hfirst, hothers, rfl⟩ := boundParts_cons_eq_ok.1 h
    exact List.forall_mem_cons.2
      ⟨isAttribute_of_attributeName (boundPart_eq_ok.1 hfirst).1, ih hothers⟩

/-- No two layers of a module are bound to one name. -/
theorem nodup_of_boundParts {index : Nat} {known : List String} {parts : List Part}
    {bound : List (String × String)} (h : boundParts index known parts = .ok bound)
    (hknown : known.Nodup) : (known ++ bound.map (·.1)).Nodup := by
  induction parts generalizing index known bound with
  | nil =>
    rw [← Except.ok.inj h, List.map_nil, List.append_nil]
    exact hknown
  | cons part parts ih =>
    obtain ⟨first, others, hfirst, hothers, rfl⟩ := boundParts_cons_eq_ok.1 h
    obtain ⟨-, hnew, -⟩ := boundPart_eq_ok.1 hfirst
    have hfresh : ∀ name ∈ known, name ≠ first.1 := by
      rintro name hname rfl
      exact Bool.eq_false_iff.1 hnew (List.contains_iff_mem.2 hname)
    have hwider : (known ++ [first.1]).Nodup :=
      List.nodup_append.2 ⟨hknown, List.pairwise_singleton _ _, fun name hname _ hmem =>
        List.mem_singleton.1 hmem ▸ hfresh name hname⟩
    rw [List.map_cons, List.append_cons]
    exact ih hothers hwider

end LayerGraph.Node.Module
