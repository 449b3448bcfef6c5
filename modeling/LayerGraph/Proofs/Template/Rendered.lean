import LayerGraph.Proofs.Arguments
import LayerGraph.Proofs.Rendering
import LayerGraph.Proofs.Template.Pieces

/-! # Rendering in pieces

    A template is rendered piece by piece: text as it is, one brace for two, and the text of a value
    for its name (`render_eq_shown`). Values are not read again, whatever braces they have; and a
    text whose braces are doubled is rendered as it was (`render_escape`).
-/

namespace LayerGraph.Template

/-! ### Piece by piece -/

/-- Texts that are made one by one are put together one by one. -/
theorem join_mapM_cons {α : Type} (f : α → Except NoText String) (x : α) (xs : List α) :
    String.join <$> (x :: xs).mapM f = (do
      let text ← f x
      let others ← String.join <$> xs.mapM f
      return text ++ others) := by
  rw [List.mapM_cons]
  cases f x with
  | error reason => rfl
  | ok text =>
    cases xs.mapM f with
    | error reason => rfl
    | ok others => exact congrArg Except.ok String.join_cons

section pieces
variable (values : Entries)

/-- The text of a row of pieces. -/
def shown (pieces : List Piece) : Except NoText String :=
  String.join <$> pieces.mapM (Piece.shown values)

theorem renderSegment_field (text name : String) (colon : Bool) :
    renderSegment values ⟨text, some name⟩ =
      (text ++ ·) <$> Piece.shown values (.field name colon) := by
  unfold renderSegment Piece.shown
  dsimp only
  rw [Option.bind_some]
  cases values.get? name with
  | none => exact congrArg Except.ok String.append_empty.symm
  | some value => cases value.display <;> rfl

theorem join_segmentsFrom (pieces : List Piece) (waiting : List Char) :
    String.join <$> (segmentsFrom waiting pieces).mapM (renderSegment values) =
      (String.ofList waiting ++ ·) <$> shown values pieces := by
  -- `waiting` is the text of plain pieces that no segment holds yet, so it is rendered in front
  induction pieces generalizing waiting with
  | nil =>
    unfold segmentsFrom
    by_cases hnil : waiting = []
    · subst hnil
      rfl
    · rw [if_neg hnil]
      simp [renderSegment, shown, Functor.map, Except.map, Pure.pure, Except.pure, Bind.bind,
        Except.bind]
  | cons piece rest ih =>
    unfold shown at *
    rw [join_mapM_cons]
    cases piece with
    | plain text =>
      rw [segmentsFrom, ih, String.ofList_append, String.ofList_toList]
      cases String.join <$> rest.mapM (Piece.shown values) with
      | error reason => rfl
      | ok others => exact congrArg Except.ok (String.append_assoc ..)
    | doubled brace =>
      rw [segmentsFrom, join_mapM_cons, ih, String.ofList_append]
      cases String.join <$> rest.mapM (Piece.shown values) with
      | error reason => rfl
      | ok others =>
        show Except.ok
            (String.ofList waiting ++ String.ofList [brace] ++ (String.ofList [] ++ others)) =
          Except.ok (String.ofList waiting ++ (String.singleton brace ++ others))
        rw [String.singleton_eq_ofList, String.append_assoc, String.ofList_nil, String.empty_append]
    | field name colon =>
      rw [segmentsFrom, join_mapM_cons, ih, renderSegment_field values _ name colon]
      cases Piece.shown values (.field name colon) with
      | error reason => rfl
      | ok text =>
        cases String.join <$> rest.mapM (Piece.shown values) with
        | error reason => rfl
        | ok others =>
          show Except.ok (String.ofList waiting ++ text ++ (String.ofList [] ++ others)) =
            Except.ok (String.ofList waiting ++ (text ++ others))
          rw [String.append_assoc, String.ofList_nil, String.empty_append]

/-- Whether the value that a piece puts in, if it does, can be shown. -/
def Piece.isShowable : Piece → Bool
  | .field name _ => (values.get? name).all Value.isShowable
  | _ => true

theorem isShown_shown (piece : Piece) :
    Value.IsShown (piece.isShowable values) (piece.shown values) := by
  cases piece with
  | plain text => exact .ok text
  | doubled brace => exact .ok _
  | field name colon =>
    unfold Piece.isShowable Piece.shown
    dsimp only
    cases values.get? name with
    | none => exact .ok ""
    | some value => exact Value.isShown_display value

theorem all_isShowable_iff {pieces : List Piece} :
    pieces.all (Piece.isShowable values) = true ↔
      ∀ name ∈ pieces.filterMap Piece.name?, ∀ value, values.get? name = some value →
        value.isShowable = true := by
  rw [List.all_eq_true]
  constructor
  · intro h name hname value hvalue
    obtain ⟨piece, hpiece, hsome⟩ := List.mem_filterMap.1 hname
    have hshowable := h piece hpiece
    cases piece with
    | plain text => exact absurd hsome nofun
    | doubled brace => exact absurd hsome nofun
    | field own colon =>
      obtain rfl := Option.some.inj hsome
      rwa [Piece.isShowable, hvalue] at hshowable
  · intro h piece hpiece
    cases piece with
    | plain text => rfl
    | doubled brace => rfl
    | field name colon =>
      have hname := h name (List.mem_filterMap.2 ⟨_, hpiece, rfl⟩)
      unfold Piece.isShowable
      dsimp only
      cases hvalue : values.get? name with
      | none => rfl
      | some value => exact hname value hvalue

end pieces

/-- The placeholders without a value, in order. -/
def missing (t : Template) (values : Entries) : List String :=
  t.placeholders.filter fun name => (values.get? name).isNone

theorem render_of_missing {t : Template} {values : Entries} (h : t.missing values ≠ []) :
    t.render values = refuse (.template t.name (t.missing values) none) := by
  have hsome : (t.missing values).isEmpty = false := Bool.eq_false_iff.2 (mt List.isEmpty_iff.1 h)
  unfold render
  change (if (t.missing values).isEmpty then _ else _) = _
  rw [hsome]
  rfl

theorem render_of_present {t : Template} {values : Entries} (h : t.missing values = []) :
    t.render values = orNoText (String.join <$> t.segments.mapM (renderSegment values)) := by
  unfold render
  change (if (t.missing values).isEmpty then _ else _) = _
  rw [h]
  rfl

/-- The template that a row of pieces is. -/
theorem read_written {pieces : List Piece} (hsound : ∀ piece ∈ pieces, piece.IsSound)
    {source : String} (hsource : source.toList = written pieces) (name : String) :
    read source name = .ok ⟨name, segmentsFrom [] pieces⟩ := by
  unfold read
  rw [segmentsOf_written hsound hsource]

section rendering
variable {pieces : List Piece} {name : String} {values : Entries}

theorem mem_placeholders {key : String} :
    key ∈ placeholders ⟨name, segmentsFrom [] pieces⟩ ↔ key ∈ pieces.filterMap Piece.name? := by
  unfold placeholders
  rw [Text.mem_distinct, placeholders_segmentsFrom]

variable (h : missing ⟨name, segmentsFrom [] pieces⟩ values = [])
include h

/-- With a value for each placeholder a row of pieces is rendered piece by piece. -/
theorem render_segmentsFrom :
    render ⟨name, segmentsFrom [] pieces⟩ values = orNoText (shown values pieces) := by
  rw [render_of_present h, join_segmentsFrom]
  cases shown values pieces with
  | error reason => rfl
  | ok text => exact congrArg Except.ok String.empty_append

/-- The texts of the pieces are put together if all values can be shown. -/
theorem render_of_isShowable
    (hshowable : ∀ key ∈ pieces.filterMap Piece.name?, ∀ value, values.get? key = some value →
      value.isShowable = true) :
    ∃ texts, List.Forall₂ (fun piece text => Piece.shown values piece = .ok text) pieces texts ∧
      render ⟨name, segmentsFrom [] pieces⟩ values = .ok (String.join texts) := by
  have hshown := Value.isShown_mapM fun piece (_ : piece ∈ pieces) => isShown_shown values piece
  obtain ⟨texts, htexts⟩ := hshown.exists_ok ((all_isShowable_iff values).2 hshowable)
  refine ⟨texts, Result.mapM_eq_ok_iff_forall₂.1 htexts, ?_⟩
  rw [render_segmentsFrom h]
  unfold shown
  rw [htexts]
  rfl

/-- A value that cannot be shown has an integer that is too long. -/
theorem render_of_not_isShowable
    (hlong : ¬∀ key ∈ pieces.filterMap Piece.name?, ∀ value, values.get? key = some value →
      value.isShowable = true) :
    render ⟨name, segmentsFrom [] pieces⟩ values = .error (.noText .integerTooLong) := by
  have hshown := Value.isShown_mapM fun piece (_ : piece ∈ pieces) => isShown_shown values piece
  have hfails := hshown.eq_error (Bool.eq_false_iff.2 (mt (all_isShowable_iff values).1 hlong))
  rw [render_segmentsFrom h]
  unfold shown
  rw [hfails]
  rfl

end rendering

/-- The template is refused exactly if a placeholder has no value. -/
theorem refuses_iff_missing {t : Template} {values : Entries} :
    (∃ names fault, t.render values = refuse (.template t.name names fault)) ↔
      t.missing values ≠ [] := by
  constructor
  · rintro ⟨names, fault, hrefuse⟩ hnone
    rw [render_of_present hnone] at hrefuse
    -- a value without a text is no fault of the template
    cases hall : t.segments.mapM (renderSegment values) with
    | error reason =>
      rw [hall] at hrefuse
      exact absurd (Except.error.inj hrefuse) nofun
    | ok texts =>
      rw [hall] at hrefuse
      exact absurd hrefuse nofun
  · intro hmissing
    exact ⟨_, _, render_of_missing hmissing⟩

/-! ### Doubling braces -/

/-- A text with all its braces doubled. -/
def escape (text : String) : String :=
  String.ofList (text.toList.flatMap fun c => if isBrace c then [c, c] else [c])

/-- A character as a piece. -/
def pieceOf (c : Char) : Piece := if isBrace c then .doubled c else .plain (String.singleton c)

theorem isSound_pieceOf (c : Char) : (pieceOf c).IsSound := by
  unfold pieceOf
  split
  · next hc => exact hc
  · next hc =>
    show ∀ d ∈ (String.singleton c).toList, _
    rw [String.toList_singleton]
    exact List.forall_mem_singleton.2 (Bool.eq_false_iff.2 hc)

theorem written_pieceOf (c : Char) : (pieceOf c).written = if isBrace c then [c, c] else [c] := by
  unfold pieceOf
  split
  · rfl
  · exact String.toList_singleton c

theorem shown_pieceOf (values : Entries) (c : Char) :
    (pieceOf c).shown values = .ok (String.singleton c) := by
  unfold pieceOf
  split <;> rfl

/-- A text whose braces are doubled is rendered as it was. -/
theorem render_escape (text name : String) :
    ∃ t, read (escape text) name = .ok t ∧ ∀ values, t.render values = .ok text := by
  have hsound : ∀ piece ∈ text.toList.map pieceOf, piece.IsSound :=
    List.forall_mem_map.2 fun c _ => isSound_pieceOf c
  have hwritten : (escape text).toList = written (text.toList.map pieceOf) := by
    unfold escape written
    rw [String.toList_ofList, List.flatMap_map]
    exact List.flatMap_congr fun c _ => (written_pieceOf c).symm
  have hnameless : (text.toList.map pieceOf).filterMap Piece.name? = [] := by
    rw [List.filterMap_eq_nil_iff]
    refine List.forall_mem_map.2 fun c _ => ?_
    unfold pieceOf
    split <;> rfl
  have hshown : ∀ values, shown values (text.toList.map pieceOf) = .ok text := by
    intro values
    unfold shown
    have htexts : (text.toList.map pieceOf).mapM (Piece.shown values) =
        .ok (text.toList.map String.singleton) := by
      rw [List.mapM_map]
      exact Result.mapM_eq_ok_map fun c _ => shown_pieceOf values c
    rw [htexts]
    refine congrArg Except.ok (String.toList_injective ?_)
    rw [String.toList_join, List.flatMap_map]
    simp only [String.toList_singleton, List.flatMap_singleton']
  refine ⟨_, read_written hsound hwritten name, fun values => ?_⟩
  have hmissing : missing ⟨name, segmentsFrom [] (text.toList.map pieceOf)⟩ values = [] := by
    unfold missing placeholders
    rw [placeholders_segmentsFrom, hnameless]
    rfl
  rw [render_segmentsFrom hmissing, hshown]
  rfl

/-! ### Templates -/

/-- What templates are and what they render. A source is read exactly if it is a row of pieces, from
    left to right. The placeholders are the names in the pieces, each where it occurs first; without
    a value for each of them rendering is refused, and the refusal names those without one. Else the
    pieces are shown one by one, and only a value with an integer that is too long is left to fail.
    A text whose braces are doubled is rendered as it was. -/
theorem templates_in_pieces {source : String} (hnul : '\x00' ∉ source.toList) (name : String) :
    ((∃ t, read source name = .ok t) ↔
      ∃ pieces : List Piece, (∀ piece ∈ pieces, piece.IsSound) ∧
        source.toList = written pieces) ∧
    (∀ pieces : List Piece, (∀ piece ∈ pieces, piece.IsSound) → source.toList = written pieces →
      ∃ t, read source name = .ok t ∧
        Text.KeepsFirst (pieces.filterMap Piece.name?) t.placeholders ∧
        ∀ values,
          ((∃ names fault, t.render values = refuse (.template name names fault)) ↔
            t.missing values ≠ []) ∧
          (t.missing values ≠ [] →
            t.render values = refuse (.template name (t.missing values) none)) ∧
          (t.missing values = [] →
            (∀ key ∈ t.placeholders, ∀ value, values.get? key = some value →
              value.isShowable = true) →
            ∃ texts, List.Forall₂ (fun piece text => Piece.shown values piece = .ok text) pieces
                texts ∧
              t.render values = .ok (String.join texts)) ∧
          (t.missing values = [] →
            ¬(∀ key ∈ t.placeholders, ∀ value, values.get? key = some value →
              value.isShowable = true) →
            t.render values = .error (.noText .integerTooLong))) ∧
    ∀ text, ∃ t, read (escape text) name = .ok t ∧ ∀ values, t.render values = .ok text := by
  refine ⟨⟨?_, ?_⟩, ?_, fun text => render_escape text name⟩
  · rintro ⟨t, ht⟩
    unfold read at ht
    split at ht
    · next segments hsegments => exact exists_pieces_of_segmentsOf hsegments hnul
    · exact absurd ht nofun
  · rintro ⟨pieces, hsound, hsource⟩
    exact ⟨_, read_written hsound hsource name⟩
  · intro pieces hsound hsource
    have hnames : (segmentsFrom [] pieces).filterMap (·.placeholder) =
        pieces.filterMap Piece.name? := placeholders_segmentsFrom pieces []
    -- the template is known from its pieces, so all that follows is about these segments
    have hkept := Text.distinct_keepsFirst (pieces.filterMap Piece.name?)
    rw [← hnames] at hkept
    refine ⟨_, read_written hsound hsource name, hnames ▸ hkept, fun values => ?_⟩
    refine ⟨refuses_iff_missing, render_of_missing, ?_, ?_⟩
    · intro hpresent hshowable
      exact render_of_isShowable hpresent fun key hkey => hshowable key (mem_placeholders.2 hkey)
    · intro hpresent hlong
      refine render_of_not_isShowable hpresent fun hshowable => hlong fun key hkey => ?_
      exact hshowable key (mem_placeholders.1 hkey)

/-- A template with a doubled brace and a name twice, rendered without a value and with all. -/
theorem templates_in_pieces_pair :
    let source := "\x7ba\x7d\x7b\x7b\x7bb\x7d\x7ba:\x7d"
    '\x00' ∉ source.toList ∧ ∃ t, read source "pair" = .ok t ∧
      t.render [("a", .null)] = refuse (.template "pair" ["b"] none) ∧
      ∃ texts, t.render [("b", .str "\x7b\x7d"), ("a", .null)] = .ok (String.join texts) := by
  intro source
  have hnul : '\x00' ∉ source.toList := by decide
  have hsound : ∀ piece ∈ [Piece.field "a" false, .doubled '\x7b', .field "b" false,
      .field "a" true], piece.IsSound := by decide
  obtain ⟨t, ht, -, hrender⟩ := (templates_in_pieces hnul "pair").2.1 _ hsound (by decide)
  obtain rfl : t = ⟨"pair", [⟨"", some "a"⟩, ⟨"\x7b", none⟩, ⟨"", some "b"⟩, ⟨"", some "a"⟩]⟩ := by
    refine Except.ok.inj (ht.symm.trans ?_)
    decide
  refine ⟨hnul, _, ht, (hrender _).2.1 (by decide), ?_⟩
  have hshowable : ∀ entry ∈ [("b", Value.str "\x7b\x7d"), ("a", Value.null)],
      entry.2.isShowable = true :=
    List.forall_mem_cons.2 ⟨rfl, List.forall_mem_singleton.2 rfl⟩
  obtain ⟨texts, -, htexts⟩ := (hrender [("b", .str "\x7b\x7d"), ("a", .null)]).2.2.1 (by decide)
    fun key _ value hvalue => hshowable (key, value) (Entries.mem_of_get? hvalue)
  exact ⟨texts, htexts⟩

/-- A value with an integer of too many digits. -/
def longValues : Entries := [("a", .int (Nat.pow 10 integerDigitLimit))]

/-- No placeholder is without a value, and yet there is no text. -/
theorem render_longValues :
    ∃ t, read "\x7ba\x7d" "long" = .ok t ∧ t.missing longValues = [] ∧
      ¬∃ text, t.render longValues = .ok text := by
  have hlong : (Value.int (Nat.pow 10 integerDigitLimit : Nat)).isShowable = false := by
    rw [Value.isShowable]
    exact Value.isShort_of_le (Nat.le_of_eq (Int.natAbs_natCast _).symm)
  have hfails := (Value.isShown_display (.int (Nat.pow 10 integerDigitLimit : Nat))).eq_error hlong
  have hrender : render ⟨"long", [⟨"", some "a"⟩]⟩ longValues =
      .error (.noText .integerTooLong) := by
    rw [render_of_present rfl, List.mapM_cons]
    unfold renderSegment
    change orNoText (String.join <$> ((Value.display _ >>= _) >>= _)) = _
    rw [hfails]
    rfl
  refine ⟨⟨"long", [⟨"", some "a"⟩]⟩, by decide, rfl, ?_⟩
  rw [hrender]
  rintro ⟨text, htext⟩
  cases htext

end LayerGraph.Template
