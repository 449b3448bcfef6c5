import LayerGraph.Node.Module
import LayerGraph.Proofs.Flow.References
import LayerGraph.Proofs.Text.Trimming

/-! # The bound data flow

    Binding the names of layers in a data flow puts `self.` in front of exactly the references
    (`tokens_bind`): the result falls into the tokens of the data flow, with the two tokens of
    `self.` in front of each of them, and without these texts it is the data flow again.
-/

namespace LayerGraph.Flow

/-! ### Pieces of lines -/

/-- A line that begins at the column `start`, cut in front of the given columns. -/
def cutAt (columns : List Nat) (start : Nat) : List Char → List (List Char)
  | [] => [[]]
  | c :: cs =>
    match cutAt columns (start + 1) cs with
    | [] => [[c]]
    | piece :: pieces =>
      if columns.contains start then [] :: (c :: piece) :: pieces else (c :: piece) :: pieces

theorem exists_cutAt (columns : List Nat) (start : Nat) (cs : List Char) :
    ∃ piece pieces, cutAt columns start cs = piece :: pieces := by
  cases cs with
  | nil => exact ⟨[], [], rfl⟩
  | cons c cs =>
    rw [cutAt]
    split
    · exact ⟨_, _, rfl⟩
    · split <;> exact ⟨_, _, rfl⟩

/-- Cutting a line loses nothing. -/
theorem flatten_cutAt (columns : List Nat) (start : Nat) (cs : List Char) :
    (cutAt columns start cs).flatten = cs := by
  induction cs generalizing start with
  | nil => rfl
  | cons c cs ih =>
    have hrest := ih (start + 1)
    obtain ⟨piece, pieces, hcut⟩ := exists_cutAt columns (start + 1) cs
    rw [hcut, List.flatten_cons] at hrest
    simp only [cutAt, hcut]
    split
    · rw [List.flatten_cons, List.flatten_cons, List.nil_append, List.cons_append, hrest]
    · rw [List.flatten_cons, List.cons_append, hrest]

/-- `self.` between the pieces of a line is `self.` in front of the columns where it is cut. -/
theorem join_cutAt (columns : List Nat) (start : Nat) (cs : List Char) :
    Text.join "self.".toList (cutAt columns start cs) = qualifyFrom columns start cs := by
  induction cs generalizing start with
  | nil => rfl
  | cons c cs ih =>
    have hrest := ih (start + 1)
    obtain ⟨piece, pieces, hcut⟩ := exists_cutAt columns (start + 1) cs
    rw [hcut] at hrest
    rw [qualifyFrom_cons, ← hrest]
    simp only [cutAt, hcut]
    split
    · rw [Text.join_cons_cons, Text.join_cons_head]
      rfl
    · rw [Text.join_cons_head]
      rfl

/-- The pieces of lines that are cut in front of names. -/
def piecesAt (names : List Token) (lines : List (List Char)) : List (List (List Char)) :=
  lines.zipIdx.map fun (line, index) => cutAt (columnsOn names (index + 1)) 0 line

/-- Without `self.` between them, the pieces are the lines again. -/
theorem flatten_piecesAt (names : List Token) (lines : List (List Char)) :
    (piecesAt names lines).map List.flatten = lines := by
  rw [piecesAt, List.map_map]
  have hcut : (List.flatten ∘ fun (line, index) => cutAt (columnsOn names (index + 1)) 0 line) =
      (Prod.fst : List Char × Nat → List Char) :=
    funext fun at_ => flatten_cutAt _ 0 at_.1
  rw [hcut, List.zipIdx_map_fst]

theorem join_piecesAt (names : List Token) (lines : List (List Char)) :
    (piecesAt names lines).map (Text.join "self.".toList) = qualify names lines := by
  rw [piecesAt, List.map_map, qualify]
  exact List.map_congr_left fun at_ _ => join_cutAt _ 0 at_.1

/-! ### Lines of the result -/

/-- Only `self.` is put into a line. -/
theorem not_mem_qualifyLine (columns : List Nat) {line : List Char} {b : Char}
    (hb : b ∉ "self.".toList) (h : b ∉ line) : b ∉ qualifyLine columns line := by
  intro hmem
  rw [qualifyLine, List.mem_flatMap] at hmem
  obtain ⟨⟨c, column⟩, hc, hmem⟩ := hmem
  have hline : c ∈ line := (List.mem_zipIdx hc).2.2 ▸ List.getElem_mem _
  have hne : b ≠ c := fun hsame => h (hsame ▸ hline)
  dsimp only at hmem
  split at hmem
  · rcases List.mem_append.1 hmem with hmem | hmem
    · exact hb hmem
    · exact hne (List.mem_singleton.1 hmem)
  · exact hne (List.mem_singleton.1 hmem)

theorem not_mem_normalLines {dataFlow : String} {line : List Char}
    (h : line ∈ normalLines dataFlow) : '\n' ∉ line := by
  obtain ⟨given, hgiven, rfl⟩ := List.mem_map.1 h
  exact fun hmem => Text.not_mem_of_mem_pieces hgiven (Text.mem_of_mem_dropEndWhile hmem)

/-- The lines of the rewritten text are the rewritten lines. -/
theorem lines_unlines_qualify (names : List Token) (dataFlow : String) :
    Text.lines (Text.unlines (qualify names (normalLines dataFlow))) =
      qualify names (normalLines dataFlow) := by
  have hlines : normalLines dataFlow ≠ [] := by
    rw [normalLines, Text.lines, Text.pieces, List.map_cons]
    exact List.cons_ne_nil _ _
  refine Text.pieces_join ?_ fun line hline => ?_
  · intro hnil
    rw [qualify, List.map_eq_nil_iff, List.zipIdx_eq_nil_iff] at hnil
    exact hlines hnil
  · obtain ⟨⟨given, index⟩, hgiven, rfl⟩ := List.mem_map.1 hline
    have hmem : given ∈ normalLines dataFlow := (List.mem_zipIdx hgiven).2.2 ▸ List.getElem_mem _
    exact not_mem_qualifyLine _ (by decide) (not_mem_normalLines hmem)

/-! ### The main statement -/

/-- A bound data flow has the tokens of the data flow, with those of `self.` in front of exactly the
    references; all others are unchanged. Its lines are the pieces of the lines of the data flow in
    front of and behind the references, with `self.` between them. -/
theorem tokens_bind {attributes : List String}
    (hattributes : ∀ name ∈ attributes, Node.Module.isAttribute name = true)
    {dataFlow result : String} (h : bind attributes dataFlow = .ok result) :
    ∃ ts ts' : List Token,
      tokens (normalLines dataFlow) = .ok ts ∧ tokens (Text.lines result.toList) = .ok ts' ∧
        ts'.map Token.content = boundContents attributes [] ts ∧
        ∃ pieces, pieces = piecesAt (referencesIn attributes [] ts) (normalLines dataFlow) ∧
          pieces.map List.flatten = normalLines dataFlow ∧
          pieces.map (Text.join "self.".toList) = Text.lines result.toList := by
  have hself : "self" ∉ attributes := fun hmem =>
    absurd (hattributes "self" hmem) (by decide)
  rw [bind] at h
  obtain ⟨ts, htokens, h⟩ := Result.bind_eq_ok.1 h
  obtain ⟨names, hnames, h⟩ := Result.bind_eq_ok.1 h
  have htokens : tokens (normalLines dataFlow) = .ok ts := Result.mapError_eq_ok.1 htokens
  obtain rfl : names = referencesIn attributes [] ts := references_eq hself rfl hnames
  -- no line breaks are inserted, so the result is cut where it was joined
  have hlines : Text.lines result.toList =
      qualify (referencesIn attributes [] ts) (normalLines dataFlow) := by
    rw [← Except.ok.inj h, String.toList_ofList, lines_unlines_qualify]
  -- every reference is one of the names that were read, at its place
  obtain ⟨ts', htokens', hcontents⟩ := lexLines_qualified htokens (fun r hr _ => by
    obtain ⟨hmem, hname⟩ := mem_of_mem_referencesIn hr
    exact ⟨r, hmem, hname, rfl, rfl⟩) 0
  refine ⟨ts, ts', htokens, hlines ▸ htokens', ?_, _, rfl, flatten_piecesAt _ _, ?_⟩
  · rw [hcontents, flatMap_isNameAmong (pairwise_lexLines htokens)]
  · rw [join_piecesAt, hlines]

/-- A call with a layer as a function and as an argument, whose keyword has the same name. -/
theorem tokens_bind_call :
    bind ["conv"] "x = conv(x, conv=conv)  # conv" =
        .ok "x = self.conv(x, conv=self.conv)  # conv" ∧
      ∃ ts ts' : List Token,
        tokens (normalLines "x = conv(x, conv=conv)  # conv") = .ok ts ∧
          tokens (Text.lines "x = self.conv(x, conv=self.conv)  # conv".toList) = .ok ts' ∧
          ts'.map Token.content = boundContents ["conv"] [] ts ∧
          ∃ pieces, pieces = piecesAt (referencesIn ["conv"] [] ts)
              (normalLines "x = conv(x, conv=conv)  # conv") ∧
            pieces.map List.flatten = normalLines "x = conv(x, conv=conv)  # conv" ∧
            pieces.map (Text.join "self.".toList) =
              Text.lines "x = self.conv(x, conv=self.conv)  # conv".toList := by
  have hbind : bind ["conv"] "x = conv(x, conv=conv)  # conv" =
      .ok "x = self.conv(x, conv=self.conv)  # conv" := rfl
  exact ⟨hbind, tokens_bind (by decide) hbind⟩

end LayerGraph.Flow
