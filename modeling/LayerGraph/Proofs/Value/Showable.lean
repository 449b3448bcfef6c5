import LayerGraph.Proofs.Result
import LayerGraph.Value.Literal

/-! # Values that can be shown

    Only an integer beyond the digit limit keeps a value from being shown in a message, wherever it
    stands in it. So a value is *showable* if all integers in it are short; all other values fail to
    be shown for that one reason (`isShown_quoted`). Code holds *plain* values only: scalars, and
    tuples of them. What keeps a plain value from being written in code is the same
    (`isShown_literal`).
-/

namespace LayerGraph.Value

/-! ### Short integers -/

/-- Whether an integer is short enough to be written, or read. -/
@[irreducible] def isShort (n : Int) : Bool := decide (n.natAbs < Nat.pow 10 integerDigitLimit)

/-- An integer of no more digits than the limit is short. -/
theorem isShort_of_lt {n : Int} {digits : Nat} (hlt : n.natAbs < 10 ^ digits)
    (hle : digits ≤ integerDigitLimit) : isShort n = true := by
  unfold isShort
  -- the limit is not to be computed with
  generalize integerDigitLimit = limit at hle
  exact decide_eq_true (Nat.lt_of_lt_of_le hlt (Nat.pow_le_pow_right (by omega) hle))

/-- An integer of more digits than the limit is not short. -/
theorem isShort_of_le {n : Int} (hle : Nat.pow 10 integerDigitLimit ≤ n.natAbs) :
    isShort n = false := by
  unfold isShort
  exact decide_eq_false (Nat.not_lt.2 hle)

/-! ### Induction over values -/

/-- Whether a value holds no others. -/
def isLeaf : Value → Bool
  | .tuple _ | .list _ | .set _ | .map _ => false
  | _ => true

/-- What a value inherits from those inside it holds of every value. -/
theorem induct {P : Value → Prop} (leaf : ∀ v : Value, v.isLeaf = true → P v)
    (tuple : ∀ items : List Value, (∀ v ∈ items, P v) → P (.tuple items))
    (list : ∀ items : List Value, (∀ v ∈ items, P v) → P (.list items))
    (set : ∀ items : List Value, (∀ v ∈ items, P v) → P (.set items))
    (map : ∀ entries : List (Value × Value), (∀ entry ∈ entries, P entry.1 ∧ P entry.2) →
      P (.map entries)) (v : Value) : P v :=
  -- the statements about items, about entries and about one entry go along
  @Value.rec P (fun items => ∀ v ∈ items, P v)
    (fun entries => ∀ entry ∈ entries, P entry.1 ∧ P entry.2) (fun entry => P entry.1 ∧ P entry.2)
    (leaf _ rfl) (fun _ => leaf _ rfl) (fun _ => leaf _ rfl) (fun _ => leaf _ rfl)
    (fun _ => leaf _ rfl) (fun _ => leaf _ rfl) (fun _ => leaf _ rfl)
    tuple list set map (fun _ => leaf _ rfl)
    nofun (fun _ _ hitem hrest => List.forall_mem_cons.2 ⟨hitem, hrest⟩)
    nofun (fun _ _ hentry hrest => List.forall_mem_cons.2 ⟨hentry, hrest⟩)
    (fun _ _ hkey hvalue => ⟨hkey, hvalue⟩) v

/-! ### Showable values -/

mutual

/-- Whether all integers in a value are short enough to be written. -/
def isShowable : Value → Bool
  | .int n => isShort n
  | .tuple items | .list items | .set items => areShowable items
  | .map entries => areShowableEntries entries
  | _ => true

/-- Whether all integers in the items of a sequence are short enough to be written. -/
def areShowable : List Value → Bool
  | [] => true
  | item :: rest => isShowable item && areShowable rest

/-- Whether all integers in the keys and values of a mapping are short enough to be written. -/
def areShowableEntries : List (Value × Value) → Bool
  | [] => true
  | (key, value) :: rest => isShowable key && isShowable value && areShowableEntries rest

end

theorem areShowable_iff {items : List Value} :
    areShowable items = true ↔ ∀ v ∈ items, v.isShowable = true := by
  induction items with
  | nil => simp [areShowable]
  | cons item rest ih => simp [areShowable, ih]

theorem areShowableEntries_iff {entries : List (Value × Value)} :
    areShowableEntries entries = true ↔
      ∀ entry ∈ entries, entry.1.isShowable = true ∧ entry.2.isShowable = true := by
  induction entries with
  | nil => simp [areShowableEntries]
  | cons entry rest ih => simp [areShowableEntries, ih, and_assoc]

/-- A mapping with string keys is showable if its values are. -/
theorem isShowable_ofEntries {entries : Entries} :
    (ofEntries entries).isShowable = true ↔ ∀ entry ∈ entries, entry.2.isShowable = true := by
  rw [ofEntries, isShowable, areShowableEntries_iff, List.forall_mem_map]
  constructor
  · exact fun h entry hentry => (h entry hentry).2
  · exact fun h entry hentry => ⟨rfl, h entry hentry⟩

/-! ### Texts -/

/-- A text that is there for what is showable, and is kept away by a long integer otherwise. -/
def IsShown {α : Type} (showable : Bool) (text : Except NoText α) : Prop :=
  if showable then ∃ a, text = .ok a else text = .error .integerTooLong

namespace IsShown
variable {α β : Type}

theorem ok (a : α) : IsShown true (.ok a : Except NoText α) := ⟨a, rfl⟩

section cases
variable {showable : Bool} {text : Except NoText α} (h : IsShown showable text)
include h

theorem exists_ok (hshowable : showable = true) : ∃ a, text = .ok a := by
  subst hshowable
  exact h

theorem eq_error (hlong : showable = false) : text = .error .integerTooLong := by
  subst hlong
  exact h

theorem exists_ok_iff : (∃ a, text = .ok a) ↔ showable = true := by
  refine ⟨fun ⟨a, ha⟩ => ?_, h.exists_ok⟩
  rw [← Bool.not_eq_false]
  intro hlong
  cases ha.symm.trans (h.eq_error hlong)

/-- Nothing but a long integer keeps the text away. -/
theorem eq_of_error {cause : NoText} (hcause : text = .error cause) : cause = .integerTooLong := by
  cases hshowable : showable with
  | true =>
    obtain ⟨a, ha⟩ := h.exists_ok hshowable
    cases ha.symm.trans hcause
  | false => exact Except.error.inj (hcause.symm.trans (h.eq_error hshowable))

theorem map (f : α → β) : IsShown showable (f <$> text) := by
  cases showable with
  | true =>
    obtain ⟨a, rfl⟩ := h.exists_ok rfl
    exact ok (f a)
  | false =>
    rw [h.eq_error rfl]
    rfl

end cases

/-- Of two texts the first one decides, unless it is there. -/
theorem bind {first second : Bool} {text : Except NoText α} {next : α → Except NoText β}
    (h : IsShown first text) (hnext : ∀ a, IsShown second (next a)) :
    IsShown (first && second) (text >>= next) := by
  cases first with
  | true =>
    obtain ⟨a, rfl⟩ := h.exists_ok rfl
    exact hnext a
  | false =>
    rw [h.eq_error rfl]
    rfl

end IsShown

theorem isShown_integerText (n : Int) : IsShown (isShort n) (integerText n) := by
  cases hshort : isShort n with
  | true =>
    unfold isShort at hshort
    have hlt : ¬Nat.pow 10 integerDigitLimit ≤ n.natAbs := Nat.not_le.2 (of_decide_eq_true hshort)
    exact ⟨_, if_neg hlt⟩
  | false =>
    show integerText n = .error .integerTooLong
    unfold isShort at hshort
    unfold integerText
    -- the limit is not to be computed with
    generalize integerDigitLimit = limit at hshort
    have hle : Nat.pow 10 limit ≤ n.natAbs := Nat.not_lt.1 (of_decide_eq_false hshort)
    rw [if_pos hle]

section layout
variable {style : Style}

/-- Items are laid out one by one, and so are shown if each of them is. -/
theorem isShown_layoutAll {items : List Value}
    (h : ∀ v ∈ items, IsShown v.isShowable (layout style v)) :
    IsShown (areShowable items) (layoutAll style items) := by
  induction items with
  | nil => exact IsShown.ok []
  | cons item rest ih =>
    obtain ⟨hitem, hrest⟩ := List.forall_mem_cons.1 h
    rw [areShowable, layoutAll]
    exact hitem.bind fun first => (ih hrest).map (first :: ·)

theorem isShown_layoutEntries {entries : List (Value × Value)}
    (h : ∀ entry ∈ entries, IsShown entry.1.isShowable (layout style entry.1) ∧
      IsShown entry.2.isShowable (layout style entry.2)) :
    IsShown (areShowableEntries entries) (layoutEntries style entries) := by
  induction entries with
  | nil => exact IsShown.ok []
  | cons entry rest ih =>
    obtain ⟨key, value⟩ := entry
    obtain ⟨⟨hkey, hvalue⟩, hrest⟩ := List.forall_mem_cons.1 h
    rw [areShowableEntries, layoutEntries, Bool.and_assoc]
    exact hkey.bind fun first => hvalue.bind fun second =>
      (ih hrest).map ((first ++ ':' :: ' ' :: second) :: ·)

end layout

/-- A showable value can be quoted, and any other holds an integer that is too long. -/
theorem isShown_quoted (v : Value) : IsShown v.isShowable v.quoted := by
  suffices h : IsShown v.isShowable (layout ⟨quotedLeaf, true⟩ v) from h.map String.ofList
  induction v using induct with
  | leaf v hleaf =>
    cases v with
    | int n =>
      simp only [isShowable, layout, quotedLeaf]
      exact isShown_integerText n
    | tuple | list | set | map => exact absurd hleaf nofun
    | _ => exact IsShown.ok _
  | tuple items ih =>
    rw [isShowable, layout]
    exact (isShown_layoutAll ih).map tupleText
  | list items ih =>
    rw [isShowable, layout]
    exact (isShown_layoutAll ih).map listText
  | set items ih =>
    rw [isShowable, layout]
    exact (isShown_layoutAll ih).map setText
  | map entries ih =>
    rw [isShowable, layout]
    exact (isShown_layoutEntries ih).map mapText

/-- A showable value can be inserted into a text, and any other holds an integer that is too
    long. -/
theorem isShown_display (v : Value) : IsShown v.isShowable v.display := by
  cases v with
  | str | expr | foreign => exact IsShown.ok _
  | _ => exact isShown_quoted _

/-! ### Plain values -/

/-- A value of the types that settings have once they are checked. -/
inductive IsConstant : Value → Prop where
  | null : IsConstant .null
  | bool (b : Bool) : IsConstant (.bool b)
  | int (n : Int) : IsConstant (.int n)
  | float (x : Number.Binary64) : IsConstant (.float x)
  | str (s : String) : IsConstant (.str s)
  | tuple {items : List Value} (h : ∀ v ∈ items, IsConstant v) : IsConstant (.tuple items)

/-- A value of the types that settings have once they are checked, or a raw expression. -/
inductive IsPlain : Value → Prop where
  | null : IsPlain .null
  | bool (b : Bool) : IsPlain (.bool b)
  | int (n : Int) : IsPlain (.int n)
  | float (x : Number.Binary64) : IsPlain (.float x)
  | str (s : String) : IsPlain (.str s)
  | expr (source : String) : IsPlain (.expr source)
  | tuple {items : List Value} (h : ∀ v ∈ items, IsPlain v) : IsPlain (.tuple items)

theorem IsConstant.isPlain {v : Value} (h : v.IsConstant) : v.IsPlain := by
  induction h with
  | null => exact .null
  | bool b => exact .bool b
  | int n => exact .int n
  | float x => exact .float x
  | str s => exact .str s
  | tuple _ ih => exact .tuple ih

/-- A plain value has a literal if it is showable, and else holds an integer that is too long. -/
theorem isShown_literal {v : Value} (h : v.IsPlain) : IsShown v.isShowable v.literal := by
  suffices hlayout : IsShown v.isShowable (layout ⟨literalLeaf, false⟩ v) from
    hlayout.map String.ofList
  induction h with
  | int n =>
    simp only [isShowable, layout, literalLeaf]
    exact isShown_integerText n
  | tuple _ ih =>
    rw [isShowable, layout]
    exact (isShown_layoutAll ih).map tupleText
  | _ => exact IsShown.ok _

end LayerGraph.Value
