import LayerGraph.Proofs.Flow.Bodies
import LayerGraph.Proofs.Node.Rebinding
import LayerGraph.Proofs.Setting.Given

/-! # Strings in the data flow of a module

    What becomes of the strings in a data flow: in `forward` a string on one line is left alone, and
    the lines of a longer one are indented with the statements around it (`strings_forward`). So the
    strings are the same exactly if none of them stands on several lines.
-/

namespace LayerGraph.Node.Module

open LayerGraph.Flow (strings padded tokens normalLines IsTrimmed StartsFlush)
open Fragment (stack)
open Text (lines)

/-- The lines of the statements of `forward`. -/
def bodyLines (flow : String) : List (List Char) := lines (Fragment.body flow 2).toList

/-! ### Chains -/

/-- No quote stands in a chain of layers. -/
theorem not_mem_chain {settings : Entries} {names : List String} {quote : Char}
    (hquote : Flow.isQuote quote = true)
    (hparams : ∀ x ∈ settings.texts "forwardParams", Text.isName x = true)
    (hnames : ∀ name ∈ names, isAttribute name = true) :
    quote ∉ (chain settings names).toList := by
  have hliterals : ∀ piece ∈ ["\n", " = self.", "(", ")", "return "], quote ∉ piece.toList := by
    rw [Flow.isQuote, Bool.or_eq_true, beq_iff_eq, beq_iff_eq] at hquote
    rcases hquote with rfl | rfl <;> decide
  have hname : ∀ {name : String}, Text.isName name = true → quote ∉ name.toList := by
    rw [Flow.isQuote, Bool.or_eq_true, beq_iff_eq, beq_iff_eq] at hquote
    intro name hname
    rcases hquote with rfl | rfl <;> exact Text.not_mem_of_isName hname (by decide)
  unfold chain
  split
  · next x hx =>
    have hparam := hname (hparams x (hx ▸ List.mem_cons_self))
    rw [Fragment.toList_stack]
    refine Text.not_mem_join (hliterals "\n" (by decide)) (List.forall_mem_map.2 ?_)
    refine List.forall_mem_append.2 ⟨List.forall_mem_map.2 fun layer hlayer => ?_,
      List.forall_mem_singleton.2 ?_⟩
    · have hlayer := hname (Bool.and_eq_true_iff.1 (hnames layer hlayer)).1
      simp only [chainLink, String.toList_append, List.mem_append, not_or]
      exact ⟨⟨⟨⟨⟨hparam, hliterals _ (by decide)⟩, hlayer⟩, hliterals _ (by decide)⟩, hparam⟩,
        hliterals _ (by decide)⟩
    · rw [String.toList_append, List.mem_append, not_or]
      exact ⟨hliterals _ (by decide), hparam⟩
  · exact List.not_mem_nil

/-- The statements of `forward` have the strings of the data flow, padded. -/
theorem strings_of_forward {settings : Entries} {names : List String} {flow : String}
    (hparams : ∀ x ∈ settings.texts "forwardParams", Text.isName x = true)
    (hnames : ∀ name ∈ names, isAttribute name = true)
    (hflow : forward settings names = .ok flow) {ts us : List Flow.Token}
    (hts : tokens (normalLines (settings.text "dataFlow")) = .ok ts)
    (hus : tokens (bodyLines flow) = .ok us) : strings us = (strings ts).map (padded 2) := by
  rw [forward_eq] at hflow
  split at hflow
  · next hblank =>
    -- there are no strings, neither in the data flow nor in the chain that stands for it
    have hnone : ∀ line ∈ normalLines (settings.text "dataFlow"), ∀ c ∈ line,
        Flow.isQuote c = false := fun line hline c hc =>
      Flow.isQuote_of_isBlank (List.all_eq_true.1 hblank c (Flow.mem_of_mem_normalLines hline hc))
    have hchain : ∀ c ∈ (chain settings names).toList, Flow.isQuote c = false := fun c hc =>
      Bool.eq_false_iff.2 fun hquote => not_mem_chain hquote hparams hnames hc
    obtain rfl := Except.ok.inj hflow
    rw [Flow.strings_of_quoteless hnone rfl hts, Flow.strings_of_quoteless_body hchain hus]
    rfl
  · have hself : "self" ∉ names := fun hmem => absurd (hnames "self" hmem) (by decide)
    exact Flow.strings_of_bind hself (Result.mapError_eq_ok.1 hflow) hts hus

/-- Strings are only left alone if each stands on one line: the last line of a longer one holds its
    quote, so it is not blank and gets the spaces. -/
theorem padded_strings_eq_iff {ls : List (List Char)} {ts : List Flow.Token}
    (hts : tokens ls = .ok ts) :
    (strings ts).map (padded 2) = strings ts ↔ ∀ s ∈ strings ts, '\n' ∉ s := by
  have hmap : (strings ts).map (padded 2) = strings ts ↔ ∀ s ∈ strings ts, padded 2 s = s := by
    conv => lhs; rhs; rw [← List.map_id (strings ts)]
    exact List.map_inj_left
  rw [hmap]
  refine forall₂_congr fun s hs => ?_
  obtain ⟨c, hquote, hlast⟩ := Flow.endsIn_quote_of_mem_strings hts hs
  refine Flow.padded_eq_self_iff (by decide) hlast (Bool.eq_false_iff.2 fun hblank => ?_)
  rw [Flow.isQuote_of_isBlank hblank] at hquote
  exact absurd hquote nofun

/-- The strings of `forward` are those of the data flow, where all lines of a string but the first
    are indented with the statements. If no line of the data flow ends in a blank, these are the
    strings that the caller wrote, and the statements can be read if they begin at the first column
    and no form feed stands in them. -/
theorem strings_forward {given : Value} {inside : Inside} {settings : Entries} {code : String}
    {ts : List Flow.Token} (hsettings : schema.parseValue typeKey given = .ok settings)
    (hcode : emit given inside = .ok code)
    (hts : tokens (normalLines (settings.text "dataFlow")) = .ok ts) :
    ∃ parts bound flow, inside.parts = .ok parts ∧ boundParts 0 [] parts = .ok bound ∧
      forward settings (bound.map (·.1)) = .ok flow ∧ code = stack (texts settings bound flow) ∧
      (∀ us, tokens (bodyLines flow) = .ok us →
        strings us = (strings ts).map (padded 2) ∧
          (strings us = strings ts ↔ ∀ s ∈ strings ts, '\n' ∉ s)) ∧
      (IsTrimmed (settings.text "dataFlow") →
        (∀ rs, tokens (lines (settings.text "dataFlow").toList) = .ok rs →
          strings ts = strings rs) ∧
        (Fragment.isBlank (settings.text "dataFlow") = false →
          '\x0c' ∉ (settings.text "dataFlow").toList → StartsFlush ts →
            ∃ us, tokens (bodyLines flow) = .ok us)) := by
  obtain ⟨parts, bound, flow, hparts, hbound, hflow, rfl⟩ := exists_of_emit hsettings hcode
  have hnames := isAttribute_of_boundParts hbound
  have hparams := isName_of_forwardParams hsettings
  refine ⟨parts, bound, flow, hparts, hbound, hflow, rfl, fun us hus => ?_, fun htrimmed => ?_⟩
  · have hstrings := strings_of_forward hparams hnames hflow hts hus
    exact ⟨hstrings, hstrings ▸ padded_strings_eq_iff hts⟩
  · refine ⟨fun rs hrs => Flow.strings_of_isTrimmed htrimmed hts hrs, fun hsolid hfeed hflush => ?_⟩
    rw [forward_eq, hsolid, if_neg Bool.false_ne_true] at hflow
    have hself : "self" ∉ bound.map (·.1) := fun hmem => absurd (hnames "self" hmem) (by decide)
    exact Flow.exists_tokens_of_bind hself (Result.mapError_eq_ok.1 hflow) htrimmed hsolid hfeed hts
      hflush (by decide) (by decide)

/-- A string on one line, with the name of a layer in it. -/
theorem strings_forward_short :
    ∃ code bound flow us,
      emit (.ofEntries [("dataFlow", .str "s = \"fc\"\nreturn fc(x)")]) insideFc = .ok code ∧
        code = stack (texts (settingsOf "s = \"fc\"\nreturn fc(x)") bound flow) ∧
        tokens (bodyLines flow) = .ok us ∧ strings us = ["\"fc\"".toList] := by
  have hbind : Flow.bind ["fc"] "s = \"fc\"\nreturn fc(x)" =
      .ok "s = \"fc\"\nreturn self.fc(x)" := rfl
  have hcode : emit (.ofEntries [("dataFlow", .str "s = \"fc\"\nreturn fc(x)")]) insideFc =
      .ok _ := emit_dataFlow rfl boundParts_layerFc rfl hbind
  obtain ⟨ts, hts, hstrings, hflush⟩ : ∃ ts, tokens (normalLines "s = \"fc\"\nreturn fc(x)") =
      .ok ts ∧ strings ts = ["\"fc\"".toList] ∧ StartsFlush ts := ⟨_, rfl, rfl, by decide⟩
  obtain ⟨parts, bound, flow, -, -, -, hform, hsame, hread⟩ :=
    strings_forward (parseValue_dataFlow _) hcode hts
  have htrimmed : IsTrimmed "s = \"fc\"\nreturn fc(x)" := by
    rw [IsTrimmed]
    decide
  obtain ⟨us, hus⟩ := (hread htrimmed).2 rfl (by decide) hflush
  have hlines : strings us = strings ts := (hsame us hus).2.2 (by rw [hstrings]; decide)
  exact ⟨_, bound, flow, us, hcode, hform, hus, hlines.trans hstrings⟩

/-- A string on two lines. -/
theorem forward_pads_longer_string :
    ∃ code rs us, emit (.ofEntries [("dataFlow", .str "s = \"\"\"a\nb\"\"\"\nreturn s")])
        (Child.none.inside fun _ => .ok relu.plugin) = .ok code ∧
      code = stack (texts (settingsOf "s = \"\"\"a\nb\"\"\"\nreturn s") []
        "s = \"\"\"a\nb\"\"\"\nreturn s") ∧
      tokens (lines "s = \"\"\"a\nb\"\"\"\nreturn s".toList) = .ok rs ∧
      tokens (bodyLines "s = \"\"\"a\nb\"\"\"\nreturn s") = .ok us ∧
      strings rs = ["\"\"\"a\nb\"\"\"".toList] ∧
      strings us = ["\"\"\"a\n        b\"\"\"".toList] ∧ strings us ≠ strings rs := by
  have hbind : Flow.bind [] "s = \"\"\"a\nb\"\"\"\nreturn s" =
      .ok "s = \"\"\"a\nb\"\"\"\nreturn s" := rfl
  exact ⟨_, _, _, emit_dataFlow rfl rfl rfl hbind, rfl, rfl, rfl, rfl, rfl, by decide⟩

end LayerGraph.Node.Module
