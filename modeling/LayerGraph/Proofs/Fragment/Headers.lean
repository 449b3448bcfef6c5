import LayerGraph.Proofs.Fragment.Blocks

/-! # Blocks below headers

    Below a header stands a block: the lines that follow, up to the first one that is not blank and
    not indented further than the header. A line is *idle* if it is blank or a comment, and a block
    of idle lines holds no statement. Where blocks with different headers stand one below the other,
    each of them is found below its header (`blockBelow?_of_mem`). The body that is made of code
    holds a statement exactly if the code is not comments only (`holdStatement_body`).
-/

namespace LayerGraph.Fragment

open Text (lines isBlankText)

/-! ### Idle lines -/

/-- Whether a line is blank or a comment. -/
def isIdle (line : List Char) : Bool :=
  match line.dropWhile Text.isBlank with
  | [] => true
  | c :: _ => c == '#'

/-- Whether one of the lines is a statement or a part of one. -/
def holdStatement (ls : List (List Char)) : Bool := ls.any (!isIdle ·)

/-- Whether code is there, but is comments only. -/
def isComment (code : String) : Bool := !isBlank code && !holdStatement (lines code.toList)

theorem isIdle_append {blanks : List Char} (h : isBlankText blanks = true) (line : List Char) :
    isIdle (blanks ++ line) = isIdle line := by
  unfold isIdle
  rw [List.dropWhile_append_of_pos (List.all_eq_true.1 h)]

theorem isIdle_of_isBlankText {line : List Char} (h : isBlankText line = true) :
    isIdle line = true := by
  have hnil := isIdle_append h []
  rw [List.append_nil] at hnil
  exact hnil

theorem isIdle_trimEnd (line : List Char) : isIdle (Text.trimEnd line) = isIdle line := by
  obtain ⟨dropped, hsplit, hdropped⟩ := Text.dropEndWhile_append_dropped Text.isBlank line
  have hnone : dropped.dropWhile Text.isBlank = [] := by
    have hrun := @List.dropWhile_append_of_pos _ _ _ [] hdropped
    simpa using hrun
  show isIdle (Text.dropEndWhile Text.isBlank line) = isIdle line
  conv => rhs; rw [hsplit]
  unfold isIdle
  rw [List.dropWhile_append, hnone]
  cases (Text.dropEndWhile Text.isBlank line).dropWhile Text.isBlank with
  | nil => rfl
  | cons c rest => rfl

theorem isIdle_cons {c : Char} (h : Text.isBlank c = false) (line : List Char) :
    isIdle (c :: line) = (c == '#') := by
  unfold isIdle
  rw [List.dropWhile_cons_of_neg (by simp [h])]

/-- Spaces in front of a line do not change whether it is idle. -/
theorem isIdle_indentLine (level : Nat) (line : List Char) :
    isIdle (indentLine level line) = isIdle line := by
  obtain ⟨k, hk⟩ := exists_indentLine_eq level line
  rw [hk, isIdle_append (isBlankText_spaces k)]

theorem holdStatement_append (front back : List (List Char)) :
    holdStatement (front ++ back) = (holdStatement front || holdStatement back) :=
  List.any_append

theorem holdStatement_map_indentLine (level : Nat) (ls : List (List Char)) :
    holdStatement (ls.map (indentLine level)) = holdStatement ls := by
  unfold holdStatement
  rw [List.any_map]
  refine congrArg ls.any (funext fun line => ?_)
  rw [Function.comp_apply, isIdle_indentLine]

theorem holdStatement_indent (code : String) (level : Nat) :
    holdStatement (lines (indent code level).toList) = holdStatement (lines code.toList) := by
  rw [lines_indent, holdStatement_map_indentLine]

/-- Blank lines do not matter. -/
theorem holdStatement_solidLines (cs : List Char) :
    holdStatement (solidLines cs) = holdStatement (lines cs) := by
  unfold holdStatement solidLines
  rw [List.any_filter]
  refine congrArg (lines cs).any (funext fun line => ?_)
  cases hblank : isBlankText line with
  | true => rw [isIdle_of_isBlankText hblank]; rfl
  | false => rfl

theorem holdStatement_trimBreaks (cs : List Char) :
    holdStatement (lines (Text.trimBreaks cs)) = holdStatement (lines cs) := by
  rw [← holdStatement_solidLines, solidLines_trimBreaks, holdStatement_solidLines]

/-- The body that is made of code holds a statement, unless the code is comments only. -/
theorem holdStatement_body (code : String) (level : Nat) :
    holdStatement (lines (body code level).toList) = !isComment code := by
  rw [lines_body]
  unfold isComment
  cases isBlank code with
  | true =>
    show holdStatement ([_].map (indentLine level)) = true
    rw [holdStatement_map_indentLine]
    rfl
  | false =>
    rw [if_neg nofun, holdStatement_map_indentLine, holdStatement_trimBreaks, Bool.not_false,
      Bool.true_and, Bool.not_not]

/-! ### Headers -/

/-- The number of spaces in front of a line. -/
def indentation (line : List Char) : Nat := (line.takeWhile (· == ' ')).length

/-- Whether a line below a header still belongs to its block. -/
def isBelow (header line : List Char) : Bool :=
  isBlankText line || decide (indentation header < indentation line)

/-- The block below the first line that is the header. -/
def blockBelow? (header : List Char) (ls : List (List Char)) : Option (List (List Char)) :=
  match ls.dropWhile (· != header) with
  | [] => none
  | _ :: rest => some (rest.takeWhile (isBelow header))

/-- A header and the lines below it. -/
structure Block where
  header : List Char
  inner : List (List Char)

namespace Block

/-- The lines of a block, its header first. -/
def all (block : Block) : List (List Char) := block.header :: block.inner

/-- The header stands behind so many spaces, and the lines below it belong to it. -/
structure StandsAt (width : Nat) (block : Block) : Prop where
  solid : isBlankText block.header = false
  width_eq : indentation block.header = width
  below : ∀ line ∈ block.inner, isBelow block.header line = true

variable {width : Nat} {block other : Block}

/-- A block ends in front of the next header of the same width. -/
theorem StandsAt.not_isBelow (h : block.StandsAt width) (hother : other.StandsAt width) :
    isBelow block.header other.header = false := by
  unfold isBelow
  rw [hother.solid, h.width_eq, hother.width_eq, decide_eq_false (Nat.lt_irrefl _)]
  rfl

/-- A header is found in no other block. -/
theorem StandsAt.not_mem_all (h : block.StandsAt width) (hother : other.StandsAt width)
    (hne : block.header ≠ other.header) : block.header ∉ other.all := by
  unfold all
  rw [List.mem_cons, not_or]
  refine ⟨hne, fun hmem => ?_⟩
  have hbelow := hother.below _ hmem
  rw [hother.not_isBelow h] at hbelow
  exact absurd hbelow nofun

/-- Each of several blocks with different headers of the same width is found below its header. -/
theorem blockBelow?_of_mem {top : List (List Char)} {blocks : List Block}
    (hblocks : ∀ block ∈ blocks, block.StandsAt width)
    (htop : ∀ block ∈ blocks, block.header ∉ top) (hdistinct : (blocks.map header).Nodup)
    (hmem : block ∈ blocks) :
    blockBelow? block.header (top ++ blocks.flatMap all) = some block.inner := by
  obtain ⟨before, after, rfl⟩ := List.append_of_mem hmem
  have hblock := hblocks block hmem
  have hfront : ∀ line ∈ top ++ before.flatMap all, (line != block.header) = true := by
    intro line hline
    rw [bne_iff_ne]
    rintro rfl
    rcases List.mem_append.1 hline with hline | hline
    · exact htop block hmem hline
    · obtain ⟨other, hother, hline⟩ := List.mem_flatMap.1 hline
      refine hblock.not_mem_all (hblocks other (List.mem_append_left _ hother)) ?_ hline
      -- headers in front of the block are different from its own
      rw [List.map_append, List.map_cons, List.nodup_append] at hdistinct
      exact (hdistinct.2.2 _ (List.mem_map_of_mem hother) _ List.mem_cons_self).symm
  have hbehind : (after.flatMap all).takeWhile (isBelow block.header) = [] := by
    cases after with
    | nil => rfl
    | cons next after =>
      have hnext := hblocks next (by simp)
      exact List.takeWhile_cons_of_neg (by simp [hblock.not_isBelow hnext])
  unfold blockBelow?
  rw [List.flatMap_append, List.flatMap_cons, ← List.append_assoc,
    List.dropWhile_append_of_pos hfront]
  show (match List.dropWhile _ (block.header :: (block.inner ++ after.flatMap all)) with
    | [] => none
    | _ :: rest => some (rest.takeWhile (isBelow block.header))) = _
  rw [List.dropWhile_cons_of_neg (by simp)]
  show some _ = _
  rw [List.takeWhile_append_of_pos hblock.below, hbehind, List.append_nil]

end Block

/-- Indented lines belong to a header that is indented less. -/
theorem isBelow_of_mem_indent {header : List Char} {code : String} {level : Nat}
    (h : indentation header < indentWidth * level) {line : List Char}
    (hline : line ∈ lines (indent code level).toList) : isBelow header line = true := by
  rw [lines_indent] at hline
  obtain ⟨own, -, rfl⟩ := List.mem_map.1 hline
  unfold isBelow
  cases hblank : isBlankText own with
  | true => rw [indentLine_of_blank level hblank, hblank, Bool.true_or]
  | false =>
    have hspaces : indentWidth * level ≤ indentation (indentLine level own) := by
      rw [indentLine_of_solid level hblank]
      unfold indentation
      rw [List.takeWhile_append_of_pos (by simp), List.length_append, List.length_replicate]
      exact Nat.le_add_right _ _
    rw [decide_eq_true (Nat.lt_of_lt_of_le h hspaces), Bool.or_true]

end LayerGraph.Fragment
