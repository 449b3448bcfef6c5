import LayerGraph.Proofs.Json.Printable
import LayerGraph.Proofs.Value.Literal

/-! # Literals are faithful

    The literal of a value stands on one line (`breaksLine_eq_false`), and no other value has the
    same one. A value has no literal if one of its *leaves*, the values inside it that hold no
    others, has none: it is of a type that is not supported, or it is an integer with too many
    digits. The first such leaf, in the order in which the value is written, is to blame
    (`literal_eq_error_iff`). Main point: a type that is not supported is told exactly if no integer
    that is too long stands in front of it (`literals_are_faithful`).
-/

namespace LayerGraph

/-! ### Line breaks -/

namespace Text

/-- The characters at which a text is cut into lines. -/
def lineBreaks : CodePoints := [(0x0A, 0x0D), (0x1C, 0x1E), (0x85, 0x85), (0x2028, 0x2029)]

/-- Whether lines break at a character. -/
def breaksLine (c : Char) : Bool := lineBreaks.has c

/-- No character at which lines break is written as itself in a quoted text. -/
theorem isPrintable_eq_false_of_breaksLine {c : Char} (h : breaksLine c = true) :
    isPrintable c = false := by
  have hcode : c.toNat ≤ 0x1E ∨ c.toNat = 0x85 ∨ c.toNat = 0x2028 ∨ c.toNat = 0x2029 := by
    simp only [breaksLine, lineBreaks, CodePoints.has, List.any_cons, List.any_nil, Bool.or_eq_true,
      Bool.and_eq_true, decide_eq_true_eq, Bool.or_false] at h
    omega
  have hlisted : ∀ n ∈ [0x85, 0x2028, 0x2029],
      (unprintables.any fun run => decide (run.1 ≤ n) && decide (n ≤ run.2)) = true := by
    decide +kernel
  unfold isPrintable
  by_cases hsmall : c.toNat < 128
  · rw [if_pos hsmall]
    have hlow : ¬32 ≤ c.toNat := by omega
    simp [hlow]
  · rw [if_neg hsmall, CodePoints.has, hlisted c.toNat (by simp; omega)]
    rfl

theorem isPrintable_of_isPrintableAscii {c : Char} (h : Json.isPrintableAscii c = true) :
    isPrintable c = true := by
  unfold Json.isPrintableAscii at h
  rw [Bool.and_eq_true, decide_eq_true_eq, decide_eq_true_eq] at h
  unfold isPrintable
  rw [if_pos (by omega)]
  simp [h]

theorem isPrintable_of_mem_toDigits (n : Nat) : ∀ c ∈ Nat.toDigits 16 n, isPrintable c = true := by
  have hdigit : ∀ d < 16, isPrintable (Nat.digitChar d) = true := by decide
  induction n using Nat.strongRecOn with
  | ind n ih =>
    by_cases hsmall : n < 16
    · rw [Nat.toDigits_of_lt_base hsmall]
      simpa using hdigit n hsmall
    · rw [Nat.toDigits_of_base_le (by omega) (by omega), List.forall_mem_append]
      refine ⟨ih _ (by omega), ?_⟩
      simpa using hdigit _ (Nat.mod_lt _ (by omega))

theorem isPrintable_of_mem_hexadecimal (width n : Nat) :
    ∀ c ∈ hexadecimal width n, isPrintable c = true := by
  unfold hexadecimal
  rw [List.forall_mem_append]
  refine ⟨fun c hc => ?_, isPrintable_of_mem_toDigits n⟩
  rw [List.eq_of_mem_replicate hc]
  decide

/-- A character without a printed form is escaped by characters that have one. -/
theorem isPrintable_of_mem_escapeChar {mark : Char} (hmark : isPrintable mark = true) (c : Char) :
    ∀ d ∈ escapeChar mark c, isPrintable d = true := by
  have hslash : isPrintable '\\' = true := by decide
  unfold escapeChar
  split
  · next hescaped =>
    rcases hescaped with rfl | rfl
    · simp [hslash, hmark]
    · simp [hslash]
  split
  · exact List.all_eq_true.1 (by decide)
  split
  · exact List.all_eq_true.1 (by decide)
  split
  · exact List.all_eq_true.1 (by decide)
  split
  · next hprintable => simpa using hprintable
  -- the three hexadecimal escapes differ in a letter and in their widths
  split
  · exact List.forall_mem_cons.2 ⟨hslash, List.forall_mem_cons.2
      ⟨by decide, isPrintable_of_mem_hexadecimal 2 _⟩⟩
  split
  · exact List.forall_mem_cons.2 ⟨hslash, List.forall_mem_cons.2
      ⟨by decide, isPrintable_of_mem_hexadecimal 4 _⟩⟩
  · exact List.forall_mem_cons.2 ⟨hslash, List.forall_mem_cons.2
      ⟨by decide, isPrintable_of_mem_hexadecimal 8 _⟩⟩

theorem isPrintable_of_mem_quote (cs : List Char) : ∀ c ∈ quote cs, isPrintable c = true := by
  have hmark : isPrintable (quoteFor cs) = true := by
    rcases quoteFor_eq cs with hquote | hquote <;> rw [hquote] <;> decide
  unfold quote
  rw [List.forall_mem_append, List.forall_mem_cons, List.forall_mem_singleton]
  refine ⟨⟨hmark, fun c hc => ?_⟩, hmark⟩
  obtain ⟨d, -, hd⟩ := List.mem_flatMap.1 hc
  exact isPrintable_of_mem_escapeChar hmark d c hd

/-- Bytes are shown by characters that have a printed form. -/
theorem isPrintable_of_mem_quoteBytes (content : List UInt8) :
    ∀ c ∈ quoteBytes content, isPrintable c = true := by
  unfold quoteBytes
  dsimp only
  generalize hchars : content.map (fun b => Char.ofNat b.toNat) = chars
  have hmark : isPrintable (quoteFor chars) = true := by
    rcases quoteFor_eq chars with hquote | hquote <;> rw [hquote] <;> decide
  rw [List.cons_append, List.cons_append, List.forall_mem_cons, List.forall_mem_cons,
    List.forall_mem_append, List.forall_mem_singleton]
  refine ⟨by decide, hmark, fun c hc => ?_, hmark⟩
  obtain ⟨b, -, hb⟩ := List.mem_flatMap.1 hc
  unfold escapeByte at hb
  dsimp only at hb
  split at hb
  · exact isPrintable_of_mem_escapeChar hmark _ c hb
  · rcases List.mem_cons.1 hb with rfl | hb
    · decide
    · rcases List.mem_cons.1 hb with rfl | hb
      · decide
      · exact isPrintable_of_mem_hexadecimal 2 _ c hb

end Text

namespace Value

/-! ### Literals on one line -/

section plain
variable {c : Char} (hc : Text.isPrintable c = false)
include hc

theorem ne_of_isPrintable {d : Char} (hd : Text.isPrintable d = true) : c ≠ d := by
  intro hsame
  rw [hsame, hd] at hc
  cases hc

theorem not_mem_of_forall_isPrintable {cs : List Char} (h : ∀ d ∈ cs, Text.isPrintable d = true) :
    c ∉ cs :=
  fun hmem => ne_of_isPrintable hc (h c hmem) rfl

theorem not_mem_join_comma {texts : List (List Char)} (h : ∀ text ∈ texts, c ∉ text) :
    c ∉ Text.join [',', ' '] texts :=
  Text.not_mem_join (not_mem_of_forall_isPrintable hc (List.all_eq_true.1 (by decide))) h

theorem not_mem_tupleText {texts : List (List Char)} (h : ∀ text ∈ texts, c ∉ text) :
    c ∉ tupleText texts := by
  have hopen : c ≠ '(' := ne_of_isPrintable hc (by decide)
  have hclose : c ≠ ')' := ne_of_isPrintable hc (by decide)
  have hcomma : c ≠ ',' := ne_of_isPrintable hc (by decide)
  unfold tupleText
  split
  · simpa [hopen, hclose, hcomma] using h
  · simpa [hopen, hclose] using not_mem_join_comma hc h

theorem not_mem_listText {texts : List (List Char)} (h : ∀ text ∈ texts, c ∉ text) :
    c ∉ listText texts := by
  have hopen : c ≠ '[' := ne_of_isPrintable hc (by decide)
  have hclose : c ≠ ']' := ne_of_isPrintable hc (by decide)
  simpa [listText, hopen, hclose] using not_mem_join_comma hc h

theorem not_mem_mapText {texts : List (List Char)} (h : ∀ text ∈ texts, c ∉ text) :
    c ∉ mapText texts := by
  have hopen : c ≠ '\x7b' := ne_of_isPrintable hc (by decide)
  have hclose : c ≠ '\x7d' := ne_of_isPrintable hc (by decide)
  simpa [mapText, hopen, hclose] using not_mem_join_comma hc h

/-- A literal holds only characters that are printed as themselves. -/
theorem not_mem_codeText {v : Value} (hv : v.IsLiteral) {text : List Char}
    (h : v.codeText = .ok text) : c ∉ text := by
  induction hv generalizing text with
  | null =>
    obtain rfl := Except.ok.inj h
    exact not_mem_of_forall_isPrintable hc (List.all_eq_true.1 (by decide))
  | bool b =>
    obtain rfl := Except.ok.inj h
    cases b <;> exact not_mem_of_forall_isPrintable hc (List.all_eq_true.1 (by decide))
  | int n =>
    have hwritten : Json.integerText n = .ok text :=
      Result.mapError_eq_ok.2 (by simpa only [codeText, layout, literalLeaf] using h)
    exact not_mem_of_forall_isPrintable hc fun d hd =>
      Text.isPrintable_of_isPrintableAscii (Json.isPrintableAscii_of_mem_integerText hwritten d hd)
  | float x =>
    obtain rfl := Except.ok.inj h
    cases x with
    | nan => exact not_mem_of_forall_isPrintable hc (List.all_eq_true.1 (by decide))
    | infinity negative =>
      cases negative <;> exact not_mem_of_forall_isPrintable hc (List.all_eq_true.1 (by decide))
    | finite negative m =>
      exact not_mem_of_forall_isPrintable hc fun d hd =>
        Text.isPrintable_of_isPrintableAscii
          (Json.isPrintableAscii_of_mem_floatText (.finite negative m) d hd)
  | str s =>
    obtain rfl := Except.ok.inj h
    exact not_mem_of_forall_isPrintable hc (Text.isPrintable_of_mem_quote s.toList)
  | tuple _ ih =>
    obtain ⟨texts, htexts, rfl⟩ := Result.map_eq_ok.1 h
    rw [layoutAll_eq_mapM] at htexts
    exact not_mem_tupleText hc (Result.forall_mem_of_mapM htexts fun v hv _ => ih v hv)
  | list _ ih =>
    obtain ⟨texts, htexts, rfl⟩ := Result.map_eq_ok.1 h
    rw [layoutAll_eq_mapM] at htexts
    exact not_mem_listText hc (Result.forall_mem_of_mapM htexts fun v hv _ => ih v hv)
  | map _ _ ihkeys ihvalues =>
    obtain ⟨texts, htexts, rfl⟩ := Result.map_eq_ok.1 h
    rw [layoutEntries_eq_mapM] at htexts
    apply not_mem_mapText hc
    refine Result.forall_mem_of_mapM htexts fun entry hentry text htext => ?_
    obtain ⟨key, hkey, htext⟩ := Result.bind_eq_ok.1 htext
    obtain ⟨value, hvalue, htext⟩ := Result.bind_eq_ok.1 htext
    obtain rfl := Except.ok.inj htext
    -- between a key and its value there are only marks, which are printed as themselves
    have hcolon : c ≠ ':' := ne_of_isPrintable hc (by decide)
    have hblank : c ≠ ' ' := ne_of_isPrintable hc (by decide)
    simp [ihkeys entry hentry hkey, ihvalues entry hentry hvalue, hcolon, hblank]

end plain

theorem literal_eq_ok_iff {v : Value} {code : String} :
    v.literal = .ok code ↔ v.codeText = .ok code.toList := by
  unfold literal
  rw [Result.map_eq_ok]
  constructor
  · rintro ⟨text, htext, rfl⟩
    rw [String.toList_ofList]
    exact htext
  · intro h
    exact ⟨code.toList, h, String.ofList_toList⟩

/-- A literal stands on one line. -/
theorem breaksLine_eq_false {v : Value} (hv : v.IsLiteral) {code : String}
    (h : v.literal = .ok code) : ∀ c ∈ code.toList, Text.breaksLine c = false := by
  intro c hc
  rw [← Bool.not_eq_true]
  intro hbreak
  exact not_mem_codeText (Text.isPrintable_eq_false_of_breaksLine hbreak) hv
    (literal_eq_ok_iff.1 h) hc

/-- Two values with one literal are the same. -/
theorem literal_inj {v w : Value} (hv : v.IsLiteral) (hw : w.IsLiteral) {code : String}
    (h : v.literal = .ok code) (hother : w.literal = .ok code) : v = w := by
  have hnone : EndsItem [] := by simp [EndsItem]
  exact (layout_append_inj hv w hw _ _ [] [] (literal_eq_ok_iff.1 h) (literal_eq_ok_iff.1 hother)
    hnone hnone rfl).1

/-! ### Values without a literal -/

mutual

/-- The values inside a value that hold no others, in the order in which they are written: keys come
    in front of their values. A set counts as one of them, since it is never written. -/
def leaves : Value → List Value
  | .tuple items => leavesAll items
  | .list items => leavesAll items
  | .map entries => leavesEntries entries
  | v => [v]

/-- The leaves of the items of a sequence. -/
def leavesAll : List Value → List Value
  | [] => []
  | v :: rest => leaves v ++ leavesAll rest

/-- The leaves of the entries of a mapping. -/
def leavesEntries : List (Value × Value) → List Value
  | [] => []
  | (key, value) :: rest => leaves key ++ (leaves value ++ leavesEntries rest)

end

/-- Whether a value is of a type that has no literals. -/
def isUnsupported : Value → Bool
  | .bytes _ | .set _ | .foreign _ => true
  | _ => false

/-- Two texts that are kept away by the same reasons. -/
def FailAlike {α β : Type} (x : Except NoText α) (y : Except NoText β) : Prop :=
  ∀ reason, x = .error reason ↔ y = .error reason

theorem FailAlike.map {α β γ : Type} {x : Except NoText α} {y : Except NoText β}
    (h : FailAlike x y) (f : α → γ) : FailAlike (f <$> x) y := by
  intro reason
  rw [Result.map_eq_error]
  exact h reason

/-- Of two texts the first one decides, unless it is there. -/
theorem FailAlike.bind {α γ : Type} {x : Except NoText α} {next : α → Except NoText γ}
    {xs ys : List Value} (h : FailAlike x (xs.mapM literalLeaf))
    (hnext : ∀ a, FailAlike (next a) (ys.mapM literalLeaf)) :
    FailAlike (x >>= next) ((xs ++ ys).mapM literalLeaf) := by
  intro reason
  rw [Result.bind_eq_error, Result.mapM_append_eq_error, h reason]
  refine or_congr Iff.rfl ?_
  cases hx : x with
  | ok a =>
    have hall : ∃ texts, xs.mapM literalLeaf = .ok texts := by
      cases hxs : xs.mapM literalLeaf with
      | ok texts => exact ⟨texts, rfl⟩
      | error other =>
        have hfails := (h other).2 hxs
        rw [hx] at hfails
        cases hfails
    obtain ⟨texts, htexts⟩ := hall
    simp [htexts, (hnext a) reason]
  | error other =>
    simp [(h other).1 hx]

/-- The text of a value that is kept away by what keeps the literals of its leaves away. -/
def IsWrittenByLeaves (v : Value) : Prop :=
  FailAlike (layout ⟨literalLeaf, false⟩ v) (v.leaves.mapM literalLeaf)

theorem failAlike_layoutAll {items : List Value} (h : ∀ v ∈ items, v.IsWrittenByLeaves) :
    FailAlike (layoutAll ⟨literalLeaf, false⟩ items) ((leavesAll items).mapM literalLeaf) := by
  induction items with
  | nil => exact fun _ => Iff.rfl
  | cons v items ih =>
    obtain ⟨hv, hitems⟩ := List.forall_mem_cons.1 h
    rw [layoutAll, leavesAll]
    exact FailAlike.bind hv fun first => (ih hitems).map (first :: ·)

theorem failAlike_layoutEntries {entries : List (Value × Value)}
    (h : ∀ entry ∈ entries, entry.1.IsWrittenByLeaves ∧ entry.2.IsWrittenByLeaves) :
    FailAlike (layoutEntries ⟨literalLeaf, false⟩ entries)
      ((leavesEntries entries).mapM literalLeaf) := by
  induction entries with
  | nil => exact fun _ => Iff.rfl
  | cons entry entries ih =>
    obtain ⟨key, value⟩ := entry
    obtain ⟨⟨hkey, hvalue⟩, hrest⟩ := List.forall_mem_cons.1 h
    rw [layoutEntries, leavesEntries]
    exact FailAlike.bind hkey fun first => FailAlike.bind hvalue fun second =>
      (ih hrest).map ((first ++ ':' :: ' ' :: second) :: ·)

/-- A value is written leaf by leaf. -/
theorem isWrittenByLeaves (v : Value) : v.IsWrittenByLeaves := by
  have hleaf (v : Value) : FailAlike (literalLeaf v) ([v].mapM literalLeaf) := by
    intro reason
    cases h : literalLeaf v <;> simp [h]
  unfold IsWrittenByLeaves
  induction v using induct with
  | leaf v h =>
    cases v with
    | tuple | list | set | map => cases h
    | _ =>
      simp only [layout, leaves]
      exact hleaf _
  | set items =>
    simp only [layout, leaves]
    exact hleaf (.set items)
  | tuple items ih =>
    rw [layout, leaves]
    exact (failAlike_layoutAll ih).map tupleText
  | list items ih =>
    rw [layout, leaves]
    exact (failAlike_layoutAll ih).map listText
  | map entries ih =>
    rw [layout, leaves]
    exact (failAlike_layoutEntries ih).map mapText

/-- A value has no literal exactly if one of its leaves has none, and the first such leaf says
    why. -/
theorem literal_eq_error_iff {v : Value} {reason : NoText} :
    v.literal = .error reason ↔ ∃ before leaf after, v.leaves = before ++ leaf :: after ∧
      (∀ other ∈ before, ∃ text, literalLeaf other = .ok text) ∧
        literalLeaf leaf = .error reason := by
  rw [literal, Result.map_eq_error, isWrittenByLeaves v reason]
  exact Result.mapM_eq_error

/-- The leaves of a value hold no others, or are sets. -/
theorem isLeaf_of_mem_leaves (v : Value) :
    ∀ leaf ∈ v.leaves, leaf.isLeaf = true ∨ leaf.isUnsupported = true := by
  induction v using induct with
  | leaf v h =>
    have hself : v.leaves = [v] := by
      cases v with
      | tuple | list | map => cases h
      | _ => rfl
    rw [hself, List.forall_mem_singleton]
    exact Or.inl h
  | set items => simp [leaves, isUnsupported]
  | tuple items ih | list items ih =>
    rw [leaves]
    induction items with
    | nil => simp [leavesAll]
    | cons v items ihitems =>
      obtain ⟨hv, hitems⟩ := List.forall_mem_cons.1 ih
      rw [leavesAll, List.forall_mem_append]
      exact ⟨hv, ihitems hitems⟩
  | map entries ih =>
    rw [leaves]
    induction entries with
    | nil => simp [leavesEntries]
    | cons entry entries ihentries =>
      obtain ⟨key, value⟩ := entry
      obtain ⟨⟨hkey, hvalue⟩, hrest⟩ := List.forall_mem_cons.1 ih
      rw [leavesEntries, List.forall_mem_append, List.forall_mem_append]
      exact ⟨hkey, hvalue, ihentries hrest⟩

/-- A leaf has a literal, is an integer that is too long, or is of a type that is not supported. -/
theorem literalLeaf_cases {leaf : Value} (h : leaf.isLeaf = true ∨ leaf.isUnsupported = true) :
    (leaf.isUnsupported = true ∧ literalLeaf leaf = .error (.unsupported leaf.typeName)) ∨
      leaf.isUnsupported = false ∧ IsShown leaf.isShowable (literalLeaf leaf) := by
  cases leaf with
  | int n =>
    right
    refine ⟨rfl, ?_⟩
    simp only [isShowable, literalLeaf]
    exact isShown_integerText n
  | bytes | set | foreign => exact Or.inl ⟨rfl, rfl⟩
  | tuple | list | map => simp [isLeaf, isUnsupported] at h
  | _ => exact Or.inr ⟨rfl, .ok _⟩

/-- A leaf is written or not for what it is. -/
theorem exists_literalLeaf_iff {leaf : Value}
    (h : leaf.isLeaf = true ∨ leaf.isUnsupported = true) :
    (∃ text, literalLeaf leaf = .ok text) ↔
      leaf.isUnsupported = false ∧ leaf.isShowable = true := by
  rcases literalLeaf_cases h with ⟨hno, herror⟩ | ⟨hyes, hshown⟩
  · simp [hno, herror]
  · rw [hshown.exists_ok_iff, and_iff_right hyes]

theorem literalLeaf_eq_unsupported_iff {leaf : Value}
    (h : leaf.isLeaf = true ∨ leaf.isUnsupported = true) {typeName : String} :
    literalLeaf leaf = .error (.unsupported typeName) ↔
      leaf.isUnsupported = true ∧ leaf.typeName = typeName := by
  rcases literalLeaf_cases h with ⟨hno, herror⟩ | ⟨hyes, hshown⟩
  · simp [hno, herror]
  · refine iff_of_false (fun herror => ?_) fun h => by simp [hyes] at h
    cases hshown.eq_of_error herror

/-- Of values that are built from scalars, those without long integers have a literal. -/
theorem IsLiteral.isShown_literal {v : Value} (h : v.IsLiteral) :
    IsShown v.isShowable v.literal := by
  suffices hlayout : IsShown v.isShowable (layout ⟨literalLeaf, false⟩ v) from
    hlayout.map String.ofList
  induction h with
  | int n =>
    simp only [isShowable, layout, literalLeaf]
    exact isShown_integerText n
  | tuple _ ih =>
    rw [isShowable, layout]
    exact (isShown_layoutAll ih).map tupleText
  | list _ ih =>
    rw [isShowable, layout]
    exact (isShown_layoutAll ih).map listText
  | map _ _ ihkeys ihvalues =>
    rw [isShowable, layout]
    apply (isShown_layoutEntries _).map mapText
    intro entry hentry
    exact ⟨ihkeys entry hentry, ihvalues entry hentry⟩
  | _ => exact IsShown.ok _

/-- Literals are faithful.

    A value that is built from null, truth values, numbers and strings by tuples, lists and mappings
    has a literal, unless an integer with too many digits stands in it; the literal stands on one
    line. No two of these values have one literal. A type without literals is told for a value, raw
    expressions or not, exactly if a leaf of this type stands in it, and in front of the leaf there
    is neither another one that is not supported nor an integer with too many digits. -/
theorem literals_are_faithful :
    (∀ v : Value, v.IsLiteral → ((∃ code, v.literal = .ok code) ↔ v.isShowable = true) ∧
      ∀ code, v.literal = .ok code → ∀ c ∈ code.toList, Text.breaksLine c = false) ∧
      (∀ v w : Value, v.IsLiteral → w.IsLiteral → ∀ code, v.literal = .ok code →
        w.literal = .ok code → v = w) ∧
      ∀ (v : Value) (typeName : String), v.literal = .error (.unsupported typeName) ↔
        ∃ before leaf after, v.leaves = before ++ leaf :: after ∧
          (∀ other ∈ before, other.isUnsupported = false ∧ other.isShowable = true) ∧
            leaf.isUnsupported = true ∧ leaf.typeName = typeName := by
  refine ⟨fun v hv => ⟨hv.isShown_literal.exists_ok_iff, fun code h => breaksLine_eq_false hv h⟩,
    fun v w hv hw code h hother => literal_inj hv hw h hother, fun v typeName => ?_⟩
  have hleaves := isLeaf_of_mem_leaves v
  rw [literal_eq_error_iff]
  -- the leaves are the same on both sides, and each is looked at for what it is
  constructor
  · rintro ⟨before, leaf, after, hsplit, hbefore, hleaf⟩
    refine ⟨before, leaf, after, hsplit, fun other hother => ?_, ?_⟩
    · exact (exists_literalLeaf_iff (hleaves other (by simp [hsplit, hother]))).1
        (hbefore other hother)
    · exact (literalLeaf_eq_unsupported_iff (hleaves leaf (by simp [hsplit]))).1 hleaf
  · rintro ⟨before, leaf, after, hsplit, hbefore, hleaf⟩
    refine ⟨before, leaf, after, hsplit, fun other hother => ?_, ?_⟩
    · exact (exists_literalLeaf_iff (hleaves other (by simp [hsplit, hother]))).2
        (hbefore other hother)
    · exact (literalLeaf_eq_unsupported_iff (hleaves leaf (by simp [hsplit]))).2 hleaf

/-- A value of every kind, with one-element sequences and quotes inside. -/
def mixedValue : Value :=
  .map [(.tuple [.bool true], .list [.int 1, .float (.infinity true), .str "it's\n"]),
    (.null, .tuple [.map []])]

theorem literals_are_faithful_mixedValue :
    mixedValue.IsLiteral ∧ mixedValue.isShowable = true ∧
      (∃ code, mixedValue.literal = .ok code ∧ ∀ w : Value, w.IsLiteral →
        w.literal = .ok code → mixedValue = w) := by
  have hliteral : mixedValue.IsLiteral := by
    refine .map ?_ ?_
    · simp only [List.forall_mem_cons]
      exact ⟨.tuple (List.forall_mem_singleton.2 (.bool true)), .null, List.forall_mem_nil _⟩
    · simp only [List.forall_mem_cons]
      refine ⟨.list ?_, .tuple ?_, List.forall_mem_nil _⟩
      · simp only [List.forall_mem_cons]
        exact ⟨.int 1, .float _, .str _, List.forall_mem_nil _⟩
      · exact List.forall_mem_singleton.2 (.map (List.forall_mem_nil _) (List.forall_mem_nil _))
  have hlt : (1 : Int).natAbs < 10 ^ 1 := by decide
  have hshort : isShort 1 = true := isShort_of_lt hlt (by decide)
  have hshowable : mixedValue.isShowable = true := by
    simp [mixedValue, isShowable, areShowable, areShowableEntries, hshort]
  obtain ⟨hshown, hapart, -⟩ := literals_are_faithful
  obtain ⟨code, hcode⟩ := (hshown mixedValue hliteral).1.2 hshowable
  exact ⟨hliteral, hshowable, code, hcode,
    fun w hw hsame => hapart mixedValue w hliteral hw code hcode hsame⟩

/-- A value with an integer of too many digits in front of what is not supported. -/
def longBeforeBytes : Value := .list [.int (Nat.pow 10 integerDigitLimit), .bytes []]

/-- Something that is not supported stands in the value, and yet it is not told. -/
theorem literal_longBeforeBytes :
    (∃ leaf ∈ longBeforeBytes.leaves, leaf.isUnsupported = true) ∧
      ¬∃ typeName, longBeforeBytes.literal = .error (.unsupported typeName) := by
  have hlong : isShort (Nat.pow 10 integerDigitLimit : Nat) = false :=
    isShort_of_le (Nat.le_of_eq (Int.natAbs_natCast _).symm)
  have hfails : longBeforeBytes.literal = .error .integerTooLong := by
    unfold literal longBeforeBytes
    simp only [layout, layoutAll, literalLeaf]
    rw [(isShown_integerText _).eq_error hlong]
    rfl
  constructor
  · refine ⟨.bytes [], ?_, rfl⟩
    exact List.mem_cons_of_mem _ List.mem_cons_self
  · rw [hfails]
    simp

end Value

end LayerGraph
