import LayerGraph.Proofs.Flow.Indentation
import LayerGraph.Proofs.Flow.Rewriting

/-! # Data flows as bodies

    A bound data flow becomes the body of a method. Binding puts names and dots into it and nothing
    else, so that it keeps its strings and its indentations; as a body its lines are indented, and
    longer strings are padded (`strings_of_bind`). The body can be read if the data flow begins at
    the first column, without form feeds and without blanks at the ends of its lines
    (`exists_tokens_of_bind`).
-/

namespace LayerGraph.Flow

open Fragment (indentWidth)
open Text (lines trimBreaks trimEnd isBlankText)

/-! ### Expansions -/

section expansions
variable {ts ts' : List Token} {p : Token → Bool} (hp : ∀ t, p t = true → t.kind = .name)
  (h : ts'.map Token.content = ts.flatMap fun t => t.expansion (p t))
include hp h

/-- Names and dots in front of names are no strings. -/
theorem strings_of_expansions : strings ts' = strings ts := by
  have hcontents (ts : List Token) : strings ts =
      ((ts.map Token.content).filter (·.1 == .string)).map (·.2) := by
    rw [List.filter_map, List.map_map]
    rfl
  rw [hcontents ts', h]
  clear h
  induction ts with
  | nil => rfl
  | cons t ts ih =>
    rw [List.flatMap_cons, List.filter_append, List.map_append, ih, strings_cons t ts]
    apply congrArg (· ++ strings ts)
    rw [hcontents [t]]
    cases hname : p t with
    | true => simp [Token.expansion, Token.content, hp t hname]
    | false => rfl

/-- With a name in front of its first name the first statement begins as it did. -/
theorem firstKind?_of_expansions : firstKind? ts' = firstKind? ts := by
  have hkinds : ts'.map (·.kind) = ts.flatMap fun t => (t.expansion (p t)).map (·.1) := by
    rw [← List.map_flatMap, ← h, List.map_map]
    rfl
  rw [firstKind?, firstKind?, hkinds]
  clear h hkinds
  induction ts with
  | nil => rfl
  | cons t ts ih =>
    rw [List.flatMap_cons, List.map_cons]
    cases hname : p t with
    | true =>
      -- a name begins a statement, and so does the name that is put in front of it
      rw [hp t hname]
      rfl
    | false =>
      have hkind : (t.expansion false).map (·.1) = [t.kind] := rfl
      rw [hkind, List.singleton_append, List.find?_cons, List.find?_cons, ih]

end expansions

/-! ### Bound data flows -/

section bound
variable {attributes : List String} {dataFlow flow : String}

/-- A bound data flow has the tokens of the data flow, with those of `self.` in front of names. -/
theorem exists_of_bind (hself : "self" ∉ attributes) (h : bind attributes dataFlow = .ok flow) :
    ∃ ts names ts', tokens (normalLines dataFlow) = .ok ts ∧
      (∀ r ∈ names, r ∈ ts ∧ r.kind = .name) ∧
      lines flow.toList = qualify names (normalLines dataFlow) ∧
      tokens (lines flow.toList) = .ok ts' ∧
      ts'.map Token.content = ts.flatMap fun t => t.expansion (t.isNameAmong names) := by
  rw [bind] at h
  obtain ⟨ts, hts, h⟩ := Result.bind_eq_ok.1 h
  obtain ⟨names, hnames, h⟩ := Result.bind_eq_ok.1 h
  have hts : tokens (normalLines dataFlow) = .ok ts := Result.mapError_eq_ok.1 hts
  have hnames : names = referencesIn attributes [] ts := references_eq hself rfl hnames
  have hlines : lines flow.toList = qualify names (normalLines dataFlow) := by
    rw [← Except.ok.inj h, String.toList_ofList]
    exact lines_unlines_qualify names dataFlow
  have hmem : ∀ r ∈ names, r ∈ ts ∧ r.kind = .name := by
    intro r hr
    rw [hnames] at hr
    exact mem_of_mem_referencesIn hr
  have hplaces : ∀ r ∈ names, 0 < r.line →
      ∃ t ∈ ts, t.kind = .name ∧ t.line = r.line ∧ t.column = r.column :=
    fun r hr _ => ⟨r, (hmem r hr).1, (hmem r hr).2, rfl, rfl⟩
  obtain ⟨ts', hts', hcontents⟩ := lexLines_qualified hts hplaces 0
  exact ⟨ts, names, ts', hts, hmem, hlines, hlines ▸ hts', hcontents⟩

/-- The strings of a data flow in the body of a method are its strings, padded. -/
theorem strings_of_bind (hself : "self" ∉ attributes) (h : bind attributes dataFlow = .ok flow)
    {level : Nat} {ts us : List Token} (hts : tokens (normalLines dataFlow) = .ok ts)
    (hus : tokens (lines (Fragment.body flow level).toList) = .ok us) :
    strings us = (strings ts).map (padded level) := by
  obtain ⟨_, names, ts', hts', -, -, hflow, hcontents⟩ := exists_of_bind hself h
  obtain rfl := Except.ok.inj (hts'.symm.trans hts)
  rw [strings_of_body hflow hus,
    strings_of_expansions (fun t ht => (isNameAmong_iff.1 ht).1) hcontents]

end bound

/-! ### Trimmed lines -/

/-- Whether no line of a data flow ends in a blank. -/
def IsTrimmed (dataFlow : String) : Prop := ∀ line ∈ lines dataFlow.toList, trimEnd line = line

section trimmed
variable {dataFlow : String}

theorem normalLines_of_isTrimmed (h : IsTrimmed dataFlow) :
    normalLines dataFlow = lines (trimBreaks dataFlow.toList) := by
  rw [normalLines, List.map_congr_left fun line hline =>
    h line (Fragment.mem_lines_of_mem_lines_trimBreaks hline), List.map_id']

/-- A data flow without blanks at the ends of its lines has the strings that the caller wrote. -/
theorem strings_of_isTrimmed (h : IsTrimmed dataFlow) {ts rs : List Token}
    (hts : tokens (normalLines dataFlow) = .ok ts)
    (hrs : tokens (lines dataFlow.toList) = .ok rs) : strings ts = strings rs := by
  rw [normalLines_of_isTrimmed h] at hts
  exact strings_trimBreaks hrs hts

/-- The last line of a data flow is not empty. -/
theorem getLast?_normalLines (h : IsTrimmed dataFlow) (hsolid : Fragment.isBlank dataFlow = false) :
    (normalLines dataFlow).getLast? ≠ some [] := by
  rw [normalLines_of_isTrimmed h]
  intro hlast
  obtain ⟨front, hfront⟩ := List.getLast?_eq_some_iff.1 hlast
  by_cases hnil : front = []
  · have hempty : trimBreaks dataFlow.toList = [] := by
      apply eq_of_lines
      rw [hfront, hnil]
      rfl
    rw [Fragment.isBlank, ← Text.isBlankText_trimBreaks, hempty] at hsolid
    exact absurd hsolid nofun
  · have hbreaks : ∀ line ∈ front, '\n' ∉ line := fun line hline =>
      Text.not_mem_of_mem_lines (hfront ▸ List.mem_append_left _ hline)
    -- otherwise the trimmed text ends in a line break
    have hends : trimBreaks dataFlow.toList = Text.unlines front ++ ['\n'] := by
      apply eq_of_lines
      rw [hfront, Text.lines_append_break, Text.lines_unlines hnil hbreaks]
      rfl
    have hbreak := Text.getLast?_dropEndWhile (· == '\n') (dataFlow.toList.dropWhile (· == '\n'))
      '\n' ((congrArg List.getLast? hends).trans List.getLast?_concat)
    exact absurd hbreak (by decide)

end trimmed

/-! ### Lines of bound data flows -/

theorem subset_qualifyLine (columns : List Nat) (line : List Char) :
    line ⊆ qualifyLine columns line := by
  intro c hc
  rw [← List.zipIdx_map_fst 0 line] at hc
  obtain ⟨⟨_, column⟩, hmem, rfl⟩ := List.mem_map.1 hc
  refine List.mem_flatMap.2 ⟨_, hmem, ?_⟩
  dsimp only
  split
  · exact List.mem_append_right _ List.mem_cons_self
  · exact List.mem_cons_self

theorem mem_of_mem_normalLines {dataFlow : String} {line : List Char} {c : Char}
    (hline : line ∈ normalLines dataFlow) (hc : c ∈ line) : c ∈ dataFlow.toList := by
  obtain ⟨given, hgiven, rfl⟩ := List.mem_map.1 hline
  exact Text.mem_of_mem_lines (Fragment.mem_lines_of_mem_lines_trimBreaks hgiven)
    (Text.mem_of_mem_dropEndWhile hc)

/-- A blank line is empty, since its blanks are at its end. -/
theorem isPlain_of_mem_normalLines {dataFlow : String} (hfeed : '\x0c' ∉ dataFlow.toList)
    {line : List Char} (hline : line ∈ normalLines dataFlow) : IsPlain line where
  blank := by
    intro hblank
    obtain ⟨given, -, rfl⟩ := List.mem_map.1 hline
    cases hlast : (trimEnd given).getLast? with
    | none => exact List.getLast?_eq_none_iff.1 hlast
    | some c =>
      have hsolid := Text.getLast?_dropEndWhile Text.isBlank given c hlast
      rw [List.all_eq_true.1 hblank c (List.mem_of_getLast? hlast)] at hsolid
      exact absurd hsolid nofun
  feed := fun hmem => hfeed (mem_of_mem_normalLines hline hmem)

theorem IsPlain.qualifyLine {line : List Char} (h : IsPlain line) (columns : List Nat) :
    IsPlain (qualifyLine columns line) where
  blank := by
    intro hblank
    have hline : isBlankText line = true := List.all_eq_true.2 fun c hc =>
      List.all_eq_true.1 hblank c (subset_qualifyLine columns line hc)
    rw [h.blank hline]
    rfl
  feed := not_mem_qualifyLine columns (by decide) h.feed

theorem getLast?_qualify {names : List Token} {ls : List (List Char)} (h : ls.getLast? ≠ some []) :
    (qualify names ls).getLast? ≠ some [] := by
  intro hlast
  rw [qualify, List.getLast?_map] at hlast
  obtain ⟨⟨line, index⟩, hline, hempty⟩ := Option.map_eq_some_iff.1 hlast
  have hnil : line = [] := List.subset_nil.1 (hempty ▸ subset_qualifyLine _ line)
  refine h ?_
  rw [← List.zipIdx_map_fst 0 ls, List.getLast?_map, hline, hnil]
  rfl

/-- The body of a data flow can be read. -/
theorem exists_tokens_of_bind {attributes : List String} {dataFlow flow : String}
    (hself : "self" ∉ attributes) (h : bind attributes dataFlow = .ok flow)
    (htrimmed : IsTrimmed dataFlow) (hsolid : Fragment.isBlank dataFlow = false)
    (hfeed : '\x0c' ∉ dataFlow.toList) {ts : List Token}
    (hts : tokens (normalLines dataFlow) = .ok ts) (hflush : StartsFlush ts) {level : Nat}
    (hpad : 8 ∣ indentWidth * level) (hpos : 0 < level) :
    ∃ us, tokens (lines (Fragment.body flow level).toList) = .ok us := by
  obtain ⟨_, names, ts', hts', -, hlines, hflow, hcontents⟩ := exists_of_bind hself h
  obtain rfl := Except.ok.inj (hts'.symm.trans hts)
  refine exists_tokens_body hpad hpos ?_ ?_ hflow ?_
  · rw [hlines, qualify]
    refine List.forall_mem_map.2 fun numbered hline => ?_
    have hmem : numbered.1 ∈ normalLines dataFlow :=
      (List.mem_zipIdx hline).2.2 ▸ List.getElem_mem _
    exact (isPlain_of_mem_normalLines hfeed hmem).qualifyLine _
  · rw [hlines]
    exact getLast?_qualify (getLast?_normalLines htrimmed hsolid)
  · rwa [StartsFlush, firstKind?_of_expansions (fun t ht => (isNameAmong_iff.1 ht).1) hcontents]

end LayerGraph.Flow
