import LayerGraph.Proofs.Flow.Bodies
import LayerGraph.Proofs.Fragment.Headers
import LayerGraph.Proofs.Text.Identifier

/-! # Comments in data flows

    Binding puts `self.` in front of names only, which are neither blank nor comments. So a line of
    a bound data flow is blank, or a comment, exactly if it is one in the data flow, and the bound
    data flow is comments only exactly if the data flow is (`isComment_of_bind`).
-/

namespace LayerGraph.Flow

open Fragment (isIdle isComment holdStatement)
open Text (lines trimBreaks trimEnd isBlankText)

/-! ### Qualified lines -/

/-- No name begins with a blank. -/
theorem isBlank_of_isNameStart {c : Char} (h : isNameStart c = true) : Text.isBlank c = false :=
  Text.isBlank_of_isIdentifierPart
    (Text.isIdentifierPart_of_isIdentifierStart (Bool.and_eq_true_iff.1 h).2)

/-- A line with `self.` in front of names is a qualified line. -/
theorem qualified_qualifyFrom {columns : List Nat} {cs : List Char} {start : Nat}
    (h : ∀ k ∈ columns, start ≤ k → ∀ c, cs[k - start]? = some c → isNameStart c = true) :
    Qualified cs (qualifyFrom columns start cs) := by
  induction cs generalizing start with
  | nil => exact .nil
  | cons c cs ih =>
    have hrest : Qualified cs (qualifyFrom columns (start + 1) cs) := by
      refine ih fun k hk hle d hd => h k hk (by omega) d ?_
      rwa [show k - start = k - (start + 1) + 1 by omega, List.getElem?_cons_succ]
    rw [qualifyFrom_cons]
    cases hmark : columns.contains start with
    | false => exact .keep c hrest
    | true =>
      have hstart := h start (List.contains_iff_mem.1 hmark) (Nat.le_refl _) c (by simp)
      exact .insert hstart hrest

namespace Qualified
variable {cs cs' : List Char}

theorem isBlankText_eq (h : Qualified cs cs') : isBlankText cs' = isBlankText cs := by
  induction h with
  | nil => rfl
  | keep c rest ih => exact congrArg (Text.isBlank c && ·) ih
  | insert hc rest ih =>
    show false = (Text.isBlank _ && _)
    rw [isBlank_of_isNameStart hc, Bool.false_and]

theorem isIdle_eq (h : Qualified cs cs') : isIdle cs' = isIdle cs := by
  induction h with
  | nil => rfl
  | @keep c cs cs' rest ih =>
    cases hblank : Text.isBlank c with
    | true =>
      have hrun : isBlankText [c] = true := by rw [isBlankText, List.all_cons, hblank]; rfl
      exact (Fragment.isIdle_append hrun cs').trans (ih.trans (Fragment.isIdle_append hrun cs).symm)
    | false => rw [Fragment.isIdle_cons hblank, Fragment.isIdle_cons hblank]
  | insert hc rest ih =>
    rw [Fragment.isIdle_cons (isBlank_of_isNameStart hc),
      beq_false_of_ne (ne_of_isNameStart hc (by decide))]
    rfl

end Qualified

/-- The names among the tokens of lines stand at characters of these lines that can begin one. -/
theorem exists_isNameStart_of_lexLines {ls : List (List Char)} {st : LexState} {line : Nat}
    {ts : List Token} (h : lexLines st line ls = .ok ts) {t : Token} (ht : t ∈ ts)
    (hname : t.kind = .name) : ∃ text c, ls[t.line - line]? = some text ∧
      (text ++ ['\n'])[t.column]? = some c ∧ isNameStart c = true := by
  induction ls generalizing st line ts with
  | nil => exact absurd hname (kind_of_mem_finish h ht).1
  | cons text rest ih =>
    obtain ⟨first, next, others, hfirst, hothers, rfl⟩ := exists_of_lexLines h
    rcases List.mem_append.1 ht with ht | ht
    · obtain ⟨reading⟩ := reading_lexLine hfirst
      obtain ⟨c, hat, hc⟩ := reading.exists_isNameStart ht hname
      have hline : t.line = line := line_of_mem_lexLine hfirst ht hname
      exact ⟨text, c, by rw [hline, Nat.sub_self]; rfl, hat, hc⟩
    · obtain ⟨own, c, hown, hat, hc⟩ := ih hothers ht
      have hlater : line + 1 ≤ t.line := line_of_mem_lexLines hothers ht hname
      refine ⟨own, c, ?_, hat, hc⟩
      rwa [show t.line - line = t.line - (line + 1) + 1 by omega, List.getElem?_cons_succ]

/-- Lines in which `self.` is put in front of names are qualified one by one. -/
theorem qualified_of_mem_zipIdx {ls : List (List Char)} {ts names : List Token}
    (hts : tokens ls = .ok ts) (hnames : ∀ r ∈ names, r ∈ ts ∧ r.kind = .name)
    {line : List Char} {index : Nat} (hline : (line, index) ∈ ls.zipIdx) :
    Qualified line (qualifyLine (columnsOn names (index + 1)) line) := by
  have hat : ls[index]? = some line := by
    obtain ⟨-, hlt, hsame⟩ := List.mem_zipIdx hline
    rw [List.getElem?_eq_getElem (by omega)]
    simp [hsame]
  rw [qualifyLine_eq]
  refine qualified_qualifyFrom fun k hk _ c hc => ?_
  obtain ⟨r, hr, rfl⟩ := List.mem_map.1 hk
  have hplace : r.line = index + 1 := beq_iff_eq.1 (List.mem_filter.1 hr).2
  obtain ⟨hmem, hname⟩ := hnames r (List.mem_filter.1 hr).1
  obtain ⟨text, d, htext, hd, hstart⟩ := exists_isNameStart_of_lexLines hts hmem hname
  rw [hplace, Nat.add_sub_cancel, hat] at htext
  obtain rfl := Option.some.inj htext
  rw [Nat.sub_zero] at hc
  rw [List.getElem?_append_left (List.getElem?_eq_some_iff.1 hc).1, hc] at hd
  exact Option.some.inj hd ▸ hstart

/-- What qualifying a line leaves as it is can be told of all lines. -/
theorem all_qualify {ls : List (List Char)} {ts names : List Token}
    (hts : tokens ls = .ok ts) (hnames : ∀ r ∈ names, r ∈ ts ∧ r.kind = .name)
    {p : List Char → Bool} (hp : ∀ {cs cs'}, Qualified cs cs' → p cs' = p cs) :
    (qualify names ls).all p = ls.all p := by
  have hls : ls.all p = ls.zipIdx.all fun place => p place.1 := by
    conv => lhs; rw [← List.zipIdx_map_fst 0 ls]
    exact List.all_map
  rw [hls, qualify, List.all_map, Bool.eq_iff_iff, List.all_eq_true, List.all_eq_true]
  refine forall₂_congr fun place hplace => ?_
  show p (qualifyLine (columnsOn names (place.2 + 1)) place.1) = true ↔ _
  rw [hp (qualified_of_mem_zipIdx hts hnames hplace)]

/-! ### Bound data flows -/

theorem all_normalLines {p : List Char → Bool} (hp : ∀ line, p (trimEnd line) = p line)
    (dataFlow : String) :
    (normalLines dataFlow).all p = (lines (trimBreaks dataFlow.toList)).all p := by
  rw [normalLines, List.all_map]
  exact congrArg (lines _).all (funext hp)

/-- Binding makes nothing a comment, and no comment anything else. -/
theorem isComment_of_bind {attributes : List String} {dataFlow flow : String}
    (hself : "self" ∉ attributes) (h : bind attributes dataFlow = .ok flow) :
    isComment flow = isComment dataFlow := by
  obtain ⟨ts, names, _, hts, hnames, hlines, -, -⟩ := exists_of_bind hself h
  have hblank : Fragment.isBlank flow = Fragment.isBlank dataFlow := by
    unfold Fragment.isBlank
    rw [Text.isBlankText_eq_all, hlines, all_qualify hts hnames Qualified.isBlankText_eq,
      all_normalLines Text.isBlankText_trimEnd, ← Text.isBlankText_eq_all,
      Text.isBlankText_trimBreaks]
  have hhold : holdStatement (lines flow.toList) = holdStatement (lines dataFlow.toList) := by
    rw [← Fragment.holdStatement_trimBreaks dataFlow.toList]
    unfold holdStatement
    rw [← List.not_all_eq_any_not, ← List.not_all_eq_any_not, hlines,
      all_qualify hts hnames Qualified.isIdle_eq, all_normalLines Fragment.isIdle_trimEnd]
  unfold isComment
  rw [hblank, hhold]

end LayerGraph.Flow
