import LayerGraph.Template
import LayerGraph.Proofs.Rendering
import LayerGraph.Proofs.Result
import LayerGraph.Proofs.Text.Distinct
import LayerGraph.Proofs.Text.Identifier

/-! # Templates in pieces

    What a template may look like, apart from how it is read: a row of *pieces*, which are text
    without braces, doubled braces, and names in braces. Every row of pieces is read
    (`segmentsOf_written`), and what is read is a row of pieces (`exists_pieces_of_segmentsOf`),
    unless it converts a value to nothing. Rendering goes piece by piece (`read_pieces`).
-/

namespace LayerGraph.Template

/-! ### Pieces -/

/-- Whether a character is a brace. -/
def isBrace (c : Char) : Bool := c == '\x7b' || c == '\x7d'

/-- A piece of a source. Behind a name there may be a colon. -/
inductive Piece where
  | plain (text : String)
  | doubled (brace : Char)
  | field (name : String) (colon : Bool)

namespace Piece

/-- A piece as it stands in the source. -/
def written : Piece → List Char
  | .plain text => text.toList
  | .doubled brace => [brace, brace]
  | .field name colon => '\x7b' :: name.toList ++ if colon then [':', '\x7d'] else ['\x7d']

/-- Text has no braces, only braces are doubled, and names are identifiers. -/
def IsSound : Piece → Prop
  | .plain text => ∀ c ∈ text.toList, isBrace c = false
  | .doubled brace => isBrace brace = true
  | .field name _ => Text.isIdentifier name.toList = true

instance : DecidablePred IsSound
  | .plain text => inferInstanceAs (Decidable (∀ c ∈ text.toList, isBrace c = false))
  | .doubled brace => inferInstanceAs (Decidable (isBrace brace = true))
  | .field name _ => inferInstanceAs (Decidable (Text.isIdentifier name.toList = true))

/-- The name of a placeholder. -/
def name? : Piece → Option String
  | .field name _ => some name
  | _ => none

/-- A piece in the text that a template renders: a brace stands alone, and a value in place of its
    name. -/
def shown (values : Entries) : Piece → Except NoText String
  | .plain text => .ok text
  | .doubled brace => .ok (String.singleton brace)
  | .field name _ =>
    match values.get? name with
    | some value => value.display
    | none => .ok ""

end Piece

/-- A row of pieces as a source. -/
def written (pieces : List Piece) : List Char := pieces.flatMap Piece.written

@[simp] theorem written_nil : written [] = [] := rfl

@[simp] theorem written_cons (piece : Piece) (pieces : List Piece) :
    written (piece :: pieces) = piece.written ++ written pieces := rfl

/-- The segments of a row of pieces behind text that waits for the end of its segment. -/
def segmentsFrom (waiting : List Char) : List Piece → List Segment
  | [] => if waiting = [] then [] else [⟨String.ofList waiting, none⟩]
  | .plain text :: rest => segmentsFrom (waiting ++ text.toList) rest
  | .doubled brace :: rest => ⟨String.ofList (waiting ++ [brace]), none⟩ :: segmentsFrom [] rest
  | .field name _ :: rest => ⟨String.ofList waiting, some name⟩ :: segmentsFrom [] rest

/-! ### Pieces are read -/

/-- Text goes on to the next brace. -/
theorem readText_append {text : List Char} (h : ∀ c ∈ text, isBrace c = false) (rest : List Char) :
    readText (text ++ rest) = (do
      let (more, tail) ← readText rest
      return (text ++ more, tail)) := by
  induction text with
  | nil =>
    rw [List.nil_append]
    cases readText rest <;> rfl
  | cons c text ih =>
    obtain ⟨hc, htext⟩ := List.forall_mem_cons.1 h
    have hopen : c ≠ '\x7b' := by
      rintro rfl
      exact absurd hc (by decide)
    have hclose : c ≠ '\x7d' := by
      rintro rfl
      exact absurd hc (by decide)
    rw [List.cons_append, readText, ih htext]
    · cases readText rest <;> rfl
    all_goals simp_all

/-- A name goes on to the mark behind it. -/
theorem readName_append {name : List Char} (h : ∀ c ∈ name, Text.isIdentifierPart c = true)
    (rest : List Char) :
    readName false (name ++ rest) = (do
      let (more, ending, after) ← readName false rest
      return (name ++ more, ending, after)) := by
  induction name with
  | nil =>
    rw [List.nil_append]
    cases readName false rest <;> rfl
  | cons c name ih =>
    obtain ⟨hc, hname⟩ := List.forall_mem_cons.1 h
    have hne {mark : Char} (hmark : Text.isIdentifierPart mark = false) : c ≠ mark :=
      ne_of_apply_ne Text.isIdentifierPart (by rw [hc, hmark]; decide)
    rw [List.cons_append, readName, if_neg Bool.false_ne_true, if_neg (hne (by decide)),
      if_neg (hne (by decide)), if_neg (hne (by decide)), if_neg (hne (by decide)),
      beq_false_of_ne (hne (by decide)), ih hname]
    cases readName false rest <;> rfl

theorem readField_written {name : String} (h : Text.isIdentifier name.toList = true) (colon : Bool)
    (rest : List Char) :
    readField (name.toList ++ ((if colon then [':', '\x7d'] else ['\x7d']) ++ rest)) =
      .ok (⟨name.toList, false⟩, rest) := by
  unfold readField
  rw [readName_append (Text.isIdentifierPart_of_isIdentifier h)]
  cases colon <;> simp [readName] <;> rfl

/-- A segment as it is read, before its name is checked. -/
def unchecked (segment : Segment) : List Char × Option Field :=
  (segment.text.toList, segment.placeholder.map fun name => ⟨name.toList, false⟩)

section segments
variable {waiting : List Char} (hwaiting : ∀ c ∈ waiting, isBrace c = false)
include hwaiting

theorem readSegments_doubled {brace : Char} (hbrace : isBrace brace = true) (rest : List Char)
    (fuel : Nat) :
    readSegments (fuel + 1) (waiting ++ ([brace, brace] ++ rest)) = (do
      let others ← readSegments fuel rest
      return (waiting ++ [brace], none) :: others) := by
  have htext : readText ([brace, brace] ++ rest) = .ok ([brace], .more rest) := by
    rcases Bool.or_eq_true_iff.1 hbrace with h | h <;> rw [eq_of_beq h] <;> rfl
  rw [readSegments, readText_append hwaiting, htext]
  · rfl
  · simp

theorem readSegments_field {name : String} (hname : Text.isIdentifier name.toList = true)
    (colon : Bool) (rest : List Char) (fuel : Nat) :
    readSegments (fuel + 1) (waiting ++ ((Piece.field name colon).written ++ rest)) = (do
      let others ← readSegments fuel rest
      return (waiting, some ⟨name.toList, false⟩) :: others) := by
  have hinside := readField_written hname colon rest
  have hsplit : (Piece.field name colon).written ++ rest = '\x7b' ::
      (name.toList ++ ((if colon then [':', '\x7d'] else ['\x7d']) ++ rest)) := by
    rw [← List.append_assoc]
    rfl
  have htext : readText ((Piece.field name colon).written ++ rest) = .ok ([],
      .field (name.toList ++ ((if colon then [':', '\x7d'] else ['\x7d']) ++ rest))) := by
    obtain ⟨first, others, hfirst, hstart, -⟩ := Text.exists_of_isIdentifier hname
    rw [hsplit, hfirst, List.cons_append, readText]
    · exact List.cons_ne_nil _ _
    · -- a second brace would make a doubled one, but it begins no name
      intro others' hsame
      rw [(List.cons.inj hsame).1] at hstart
      exact absurd hstart (by decide)
  rw [readSegments, readText_append hwaiting, htext]
  · show (readField _ >>= _) = _
    rw [hinside, List.append_nil]
    rfl
  · rw [hsplit]
    simp

theorem readSegments_end (hne : waiting ≠ []) (fuel : Nat) :
    readSegments (fuel + 1) waiting = .ok [(waiting, none)] := by
  have htext := readText_append hwaiting []
  rw [List.append_nil] at htext
  rw [readSegments, htext]
  · simp [readText]
    rfl
  · exact hne

end segments

/-- A row of pieces is read into its segments. -/
theorem readSegments_written {pieces : List Piece} (hsound : ∀ piece ∈ pieces, piece.IsSound)
    {waiting : List Char} (hwaiting : ∀ c ∈ waiting, isBrace c = false) {fuel : Nat}
    (hfuel : (waiting ++ written pieces).length ≤ fuel) :
    readSegments fuel (waiting ++ written pieces) =
      .ok ((segmentsFrom waiting pieces).map unchecked) := by
  induction pieces generalizing waiting fuel with
  | nil =>
    rw [written_nil, List.append_nil] at hfuel ⊢
    unfold segmentsFrom
    by_cases hnil : waiting = []
    · rw [if_pos hnil, hnil]
      cases fuel <;> rfl
    · -- what waits is not empty, so there is a step to read it
      obtain ⟨fuel, rfl⟩ := Nat.exists_eq_add_of_lt
        (Nat.lt_of_lt_of_le (List.length_pos_of_ne_nil hnil) hfuel)
      rw [if_neg hnil, Nat.zero_add, readSegments_end hwaiting hnil]
      simp [unchecked]
  | cons piece rest ih =>
    obtain ⟨hpiece, hrest⟩ := List.forall_mem_cons.1 hsound
    have hlater : ∀ n, (written rest).length ≤ n →
        readSegments n (written rest) = .ok ((segmentsFrom [] rest).map unchecked) :=
      fun n hle => ih hrest (List.forall_mem_nil _) hle
    rw [written_cons] at hfuel ⊢
    -- plain text goes on waiting; a brace ends what waits and takes a step
    cases piece with
    | plain text =>
      rw [← List.append_assoc] at hfuel ⊢
      exact ih hrest (List.forall_mem_append.2 ⟨hwaiting, hpiece⟩) hfuel
    | doubled brace =>
      obtain ⟨fuel, rfl⟩ := Nat.exists_eq_add_one.2 (hfuel.trans_lt' (by simp [Piece.written]))
      have hle : (written rest).length ≤ fuel := by
        simp [Piece.written] at hfuel
        omega
      refine (readSegments_doubled hwaiting hpiece _ fuel).trans ?_
      rw [hlater fuel hle]
      simp [segmentsFrom, unchecked]
    | field name colon =>
      obtain ⟨fuel, rfl⟩ := Nat.exists_eq_add_one.2 (hfuel.trans_lt' (by simp [Piece.written]))
      have hle : (written rest).length ≤ fuel := by
        simp [Piece.written] at hfuel
        omega
      rw [readSegments_field hwaiting hpiece, hlater fuel hle]
      simp [segmentsFrom, unchecked]

/-- The placeholders of a row of pieces are its names. -/
theorem placeholders_segmentsFrom (pieces : List Piece) (waiting : List Char) :
    (segmentsFrom waiting pieces).filterMap (·.placeholder) = pieces.filterMap Piece.name? := by
  induction pieces generalizing waiting with
  | nil =>
    unfold segmentsFrom
    split <;> rfl
  | cons piece rest ih => cases piece <;> simp [segmentsFrom, Piece.name?, List.filterMap_cons, ih]

theorem segmentOf_unchecked {segment : Segment}
    (h : ∀ name ∈ segment.placeholder, Text.isIdentifier name.toList = true) :
    segmentOf (unchecked segment) = .ok segment := by
  obtain ⟨text, placeholder⟩ := segment
  cases placeholder with
  | none => simp [segmentOf, unchecked]
  | some name => simp [segmentOf, unchecked, placeholderOf, h name rfl, Except.map]

/-- A row of pieces is a source of its segments. -/
theorem segmentsOf_written {pieces : List Piece} (hsound : ∀ piece ∈ pieces, piece.IsSound)
    {source : String} (hsource : source.toList = written pieces) :
    segmentsOf source = .ok (segmentsFrom [] pieces) := by
  have hread := readSegments_written hsound (List.forall_mem_nil _) (Nat.le_refl _)
  rw [List.nil_append] at hread
  unfold segmentsOf
  rw [hsource, hread]
  show ((segmentsFrom [] pieces).map unchecked).mapM segmentOf = _
  rw [List.mapM_map]
  have hchecked : ∀ segment ∈ segmentsFrom [] pieces,
      segmentOf (unchecked segment) = .ok segment := by
    intro segment hsegment
    refine segmentOf_unchecked fun name hname => ?_
    have hmem : name ∈ (segmentsFrom [] pieces).filterMap (·.placeholder) :=
      List.mem_filterMap.2 ⟨segment, hsegment, hname⟩
    rw [placeholders_segmentsFrom] at hmem
    obtain ⟨piece, hpiece, hsome⟩ := List.mem_filterMap.1 hmem
    cases piece with
    | field own colon =>
      obtain rfl := Option.some.inj hsome
      exact hsound _ hpiece
    | plain text => exact absurd hsome nofun
    | doubled brace => exact absurd hsome nofun
  exact (Result.mapM_eq_ok_map hchecked).trans (congrArg Except.ok (List.map_id' _))

/-! ### What is read is in pieces -/

/-- Whether the rest of a source, behind text without braces, is this. -/
def Tail.IsBehind (front cs : List Char) : Tail → Prop
  | .done => cs = front
  | .more rest => ∃ brace, isBrace brace = true ∧ cs = front ++ ([brace, brace] ++ rest)
  | .field rest => cs = front ++ '\x7b' :: rest

/-- Text ends at the end, behind a doubled brace or at a brace that opens a placeholder. -/
theorem readText_eq_ok {cs text : List Char} {tail : Tail} (h : readText cs = .ok (text, tail)) :
    ∃ front : List Char, (∀ c ∈ front, isBrace c = false) ∧ tail.IsBehind front cs := by
  induction cs using readText.induct generalizing text tail with
  | case1 =>
    obtain ⟨rfl, rfl⟩ := Prod.mk.inj (Except.ok.inj h)
    exact ⟨[], List.forall_mem_nil _, rfl⟩
  | case2 => exact absurd h nofun
  | case3 rest =>
    obtain ⟨rfl, rfl⟩ := Prod.mk.inj (Except.ok.inj h)
    exact ⟨[], List.forall_mem_nil _, '\x7b', rfl, rfl⟩
  | case4 rest hnil hsingle =>
    rw [readText.eq_4 rest hnil hsingle] at h
    obtain ⟨rfl, rfl⟩ := Prod.mk.inj (Except.ok.inj h)
    exact ⟨[], List.forall_mem_nil _, rfl⟩
  | case5 rest =>
    obtain ⟨rfl, rfl⟩ := Prod.mk.inj (Except.ok.inj h)
    exact ⟨[], List.forall_mem_nil _, '\x7d', rfl, rfl⟩
  | case6 rest hsingle =>
    rw [readText.eq_6 rest hsingle] at h
    exact absurd h nofun
  | case7 c rest h1 h2 hopen h4 hclose ih =>
    rw [readText.eq_7 c rest h1 h2 hopen h4 hclose] at h
    obtain ⟨⟨more, tail⟩, hmore, h⟩ := Result.bind_eq_ok.1 h
    obtain ⟨rfl, rfl⟩ := Prod.mk.inj (Except.ok.inj h)
    obtain ⟨front, hfront, hsplit⟩ := ih hmore
    have hc : isBrace c = false := by
      rw [isBrace, beq_false_of_ne hopen, beq_false_of_ne hclose]
      rfl
    -- one more character in front changes nothing about how the text ends
    refine ⟨c :: front, List.forall_mem_cons.2 ⟨hc, hfront⟩, ?_⟩
    cases tail with
    | done => exact congrArg (c :: ·) hsplit
    | more others =>
      obtain ⟨brace, hbrace, rfl⟩ := hsplit
      exact ⟨brace, hbrace, rfl⟩
    | field inside => exact congrArg (c :: ·) hsplit

/-- The mark that ends a name. -/
def NameEnd.mark : NameEnd → Char
  | .close => '\x7d'
  | .spec => ':'
  | .conversion => '!'

theorem readName_eq_ok {bracketed : Bool} {cs name after : List Char} {ending : NameEnd}
    (h : readName bracketed cs = .ok (name, ending, after)) :
    cs = name ++ ending.mark :: after := by
  induction cs generalizing bracketed name with
  | nil => exact absurd h nofun
  | cons c rest ih =>
    -- unless the character ends the name, it belongs to it
    have hmark : ∀ {mark : NameEnd}, c = mark.mark →
        Except.ok ([], mark, rest) = (Except.ok (name, ending, after) : Except TemplateFault _) →
          c :: rest = name ++ ending.mark :: after := by
      rintro mark rfl hsame
      obtain ⟨rfl, hbehind⟩ := Prod.mk.inj (Except.ok.inj hsame)
      obtain ⟨rfl, rfl⟩ := Prod.mk.inj hbehind
      rfl
    have hlater : ∀ {bracketed : Bool}, (do
        let (name, ending, after) ← readName bracketed rest
        return (c :: name, ending, after)) = .ok (name, ending, after) →
          c :: rest = name ++ ending.mark :: after := by
      intro bracketed hlater
      obtain ⟨⟨more, ending', after'⟩, hmore, hsame⟩ := Result.bind_eq_ok.1 hlater
      obtain ⟨rfl, rfl, rfl⟩ : c :: more = name ∧ ending' = ending ∧ after' = after := by
        simpa [Pure.pure, Except.pure] using hsame
      exact congrArg (c :: ·) (ih hmore)
    unfold readName at h
    split at h
    · exact hlater h
    split at h
    · exact absurd h nofun
    split at h
    · next hc => exact @hmark .close hc h
    split at h
    · next hc => exact @hmark .spec hc h
    split at h
    · next hc => exact @hmark .conversion hc h
    exact hlater h

/-- A format that is empty ends at once. -/
theorem readSpec_eq_ok {cs spec after : List Char} (h : readSpec 0 cs = .ok (spec, after))
    (hempty : spec.isEmpty = true) : cs = '\x7d' :: after := by
  cases cs with
  | nil => exact absurd h nofun
  | cons c rest =>
    unfold readSpec at h
    split at h
    · next hc =>
      obtain ⟨-, rfl⟩ := Prod.mk.inj (Except.ok.inj h)
      rw [hc.1]
    · obtain ⟨⟨more, behind⟩, -, hsame⟩ := Result.bind_eq_ok.1 h
      obtain ⟨rfl, -⟩ := Prod.mk.inj (Except.ok.inj hsame)
      exact absurd hempty nofun

/-- A conversion is asked for, unless it is the one to nothing. -/
theorem mem_of_readConversion {name cs after : List Char} {field : Field}
    (h : readConversion name cs = .ok (field, after)) (hplain : field.formatted = false) :
    '\x00' ∈ cs := by
  unfold readConversion at h
  split at h
  · exact absurd h nofun
  · exact absurd h nofun
  · obtain ⟨rfl, -⟩ := Prod.mk.inj (Except.ok.inj h)
    rw [bne_eq_false_iff_eq.1 hplain]
    exact List.mem_cons_self
  · obtain ⟨⟨spec, behind⟩, -, hsame⟩ := Result.bind_eq_ok.1 h
    obtain ⟨rfl, -⟩ := Prod.mk.inj (Except.ok.inj hsame)
    rw [bne_eq_false_iff_eq.1 (Bool.or_eq_false_iff.1 hplain).1]
    exact List.mem_cons_self
  · exact absurd h nofun

/-- A placeholder that asks for nothing is its name and what closes it. -/
theorem readField_eq_ok {cs after : List Char} {field : Field}
    (h : readField cs = .ok (field, after)) (hplain : field.formatted = false)
    (hnul : '\x00' ∉ cs) :
    ∃ colon : Bool, cs = field.name ++ ((if colon then [':', '\x7d'] else ['\x7d']) ++ after) := by
  obtain ⟨⟨name, ending, rest⟩, hname, hrest⟩ := Result.bind_eq_ok.1 h
  obtain rfl := readName_eq_ok hname
  clear h hname
  dsimp only at hrest
  cases ending with
  | close =>
    obtain ⟨rfl, rfl⟩ := Prod.mk.inj (Except.ok.inj hrest)
    exact ⟨false, rfl⟩
  | spec =>
    obtain ⟨⟨spec, behind⟩, hspec, hsame⟩ := Result.bind_eq_ok.1 hrest
    obtain ⟨rfl, rfl⟩ := Prod.mk.inj (Except.ok.inj hsame)
    rw [readSpec_eq_ok hspec (by simpa using hplain)]
    exact ⟨true, rfl⟩
  | conversion =>
    have hmem := mem_of_readConversion hrest hplain
    exact absurd (List.mem_append_right _ (List.mem_cons_of_mem _ hmem)) hnul

/-- A placeholder passes the check if it is an identifier and asks for nothing. -/
theorem segmentOf_field_eq_ok {text : List Char} {field : Field} {segment : Segment}
    (h : segmentOf (text, some field) = .ok segment) :
    Text.isIdentifier field.name = true ∧ field.formatted = false := by
  unfold segmentOf placeholderOf at h
  dsimp only at h
  split at h
  · exact absurd h nofun
  · next hname =>
    split at h
    · exact absurd h nofun
    · next hplain => exact ⟨by simpa using hname, Bool.eq_false_iff.2 hplain⟩

theorem exists_pieces_of_readSegments {fuel : Nat} {cs : List Char} (hfuel : cs.length ≤ fuel)
    {raw : List (List Char × Option Field)} (hraw : readSegments fuel cs = .ok raw)
    {segments : List Segment} (hsegments : raw.mapM segmentOf = .ok segments)
    (hnul : '\x00' ∉ cs) :
    ∃ pieces : List Piece, (∀ piece ∈ pieces, piece.IsSound) ∧ cs = written pieces := by
  induction fuel generalizing cs raw segments with
  | zero => exact ⟨[], List.forall_mem_nil _, List.length_eq_zero_iff.1 (Nat.le_zero.1 hfuel)⟩
  | succ fuel ih =>
    by_cases hnil : cs = []
    · exact ⟨[], List.forall_mem_nil _, hnil⟩
    rw [readSegments.eq_3 _ _ hnil] at hraw
    obtain ⟨⟨text, tail⟩, htext, hbehind⟩ := Result.bind_eq_ok.1 hraw
    obtain ⟨front, hfront, hsplit⟩ := readText_eq_ok htext
    have hplain : (Piece.plain (String.ofList front)).IsSound := by
      show ∀ c ∈ (String.ofList front).toList, _
      rwa [String.toList_ofList]
    clear hraw htext
    cases tail with
    | done =>
      refine ⟨[.plain (String.ofList front)], List.forall_mem_singleton.2 hplain, ?_⟩
      simpa [Piece.written] using (show cs = front from hsplit)
    | more rest =>
      obtain ⟨brace, hbrace, rfl⟩ := hsplit
      obtain ⟨others, hothers, hsame⟩ := Result.bind_eq_ok.1 hbehind
      obtain rfl := Except.ok.inj hsame
      obtain ⟨_, later, -, hlater, -⟩ := Result.mapM_cons_eq_ok.1 hsegments
      have hle : rest.length ≤ fuel := by
        simp at hfuel
        omega
      obtain ⟨pieces, hpieces, rfl⟩ := ih hle hothers hlater fun hmem =>
        hnul (List.mem_append_right _ (List.mem_append_right _ hmem))
      refine ⟨.plain (String.ofList front) :: .doubled brace :: pieces, ?_, ?_⟩
      · exact List.forall_mem_cons.2 ⟨hplain, List.forall_mem_cons.2 ⟨hbrace, hpieces⟩⟩
      · simp [Piece.written]
    | field inside =>
      obtain rfl : cs = front ++ '\x7b' :: inside := hsplit
      obtain ⟨⟨field, rest⟩, hfield, hmore⟩ := Result.bind_eq_ok.1 hbehind
      obtain ⟨others, hothers, hsame⟩ := Result.bind_eq_ok.1 hmore
      obtain rfl := Except.ok.inj hsame
      obtain ⟨_, later, hchecked, hlater, -⟩ := Result.mapM_cons_eq_ok.1 hsegments
      -- the checks of the segment say that the field is a bare name, so only a colon can follow it
      obtain ⟨hname, hasked⟩ := segmentOf_field_eq_ok hchecked
      obtain ⟨colon, rfl⟩ := readField_eq_ok hfield hasked fun hmem =>
        hnul (List.mem_append_right _ (List.mem_cons_of_mem _ hmem))
      have hle : rest.length ≤ fuel := by
        simp at hfuel
        omega
      obtain ⟨pieces, hpieces, rfl⟩ := ih hle hothers hlater fun hmem =>
        hnul (List.mem_append_right _ (List.mem_cons_of_mem _ (List.mem_append_right _
          (List.mem_append_right _ hmem))))
      refine ⟨.plain (String.ofList front) :: .field (String.ofList field.name) colon :: pieces,
        ?_, ?_⟩
      · refine List.forall_mem_cons.2 ⟨hplain, List.forall_mem_cons.2 ⟨?_, hpieces⟩⟩
        show Text.isIdentifier (String.ofList field.name).toList = true
        rwa [String.toList_ofList]
      · simp [Piece.written]

/-- A source that is read is a row of pieces, unless it converts a value to nothing. -/
theorem exists_pieces_of_segmentsOf {source : String} {segments : List Segment}
    (h : segmentsOf source = .ok segments) (hnul : '\x00' ∉ source.toList) :
    ∃ pieces : List Piece, (∀ piece ∈ pieces, piece.IsSound) ∧
      source.toList = written pieces := by
  obtain ⟨raw, hraw, hsegments⟩ := Result.bind_eq_ok.1 h
  exact exists_pieces_of_readSegments (Nat.le_refl _) hraw hsegments hnul

end LayerGraph.Template
