import LayerGraph.Flow.Binding
import Mathlib

/-! # Qualified text

    A text is *qualified* by putting `self.` in front of some of its names. Here that is a relation
    between characters: it says what may have been inserted, and where, without saying which names
    are meant. All that a reader may look for behind a lexeme, such as a digit, a quote, a bracket
    or the end of the line, is found in a qualified text exactly if it is found in the text, since
    it is neither what a name begins with nor in `self.`.
-/

namespace LayerGraph.Flow

/-! ### Names -/

/-- Whether a character can begin a name. -/
def isNameStart (c : Char) : Bool := Text.isWord c && Text.isIdentifierStart c

theorem isWord_of_isNameStart {c : Char} (h : isNameStart c = true) : Text.isWord c = true :=
  (Bool.and_eq_true _ _ ▸ h : _ ∧ _).1

theorem ne_of_isWord {c d : Char} (hc : Text.isWord c = true) (hd : Text.isWord d = false) :
    c ≠ d := by
  rintro rfl
  rw [hc] at hd
  exact absurd hd nofun

/-- A character that is no part of a word does not begin a name. -/
theorem ne_of_isNameStart {c d : Char} (h : isNameStart c = true) (hd : Text.isWord d = false) :
    c ≠ d :=
  ne_of_isWord (isWord_of_isNameStart h) hd

theorem isDecimal_of_isNameStart {c : Char} (h : isNameStart c = true) : isDecimal c = false := by
  have hstart : Text.isIdentifierStart c = true := (Bool.and_eq_true _ _ ▸ h : _ ∧ _).2
  by_cases hdigit : isDecimal c = true
  · unfold isDecimal at hdigit
    rw [Bool.and_eq_true, decide_eq_true_eq, decide_eq_true_eq] at hdigit
    have hlow : 48 ≤ c.toNat := hdigit.1
    have hhigh : c.toNat ≤ 57 := hdigit.2
    have hletter : c.isAlpha = false := by
      simp [Char.isAlpha, Char.isUpper, Char.isLower, UInt32.le_iff_toNat_le]
      omega
    have hline : c ≠ '_' := by
      rintro rfl
      exact absurd hhigh (by decide)
    rw [Text.isIdentifierStart, if_pos (by omega), hletter, beq_false_of_ne hline] at hstart
    exact absurd hstart nofun
  · exact Bool.eq_false_iff.2 hdigit

/-! ### Insertions -/

/-- The second text is the first with `self.` in front of some of its names. -/
inductive Qualified : List Char → List Char → Prop where
  | nil : Qualified [] []
  | keep (c : Char) {cs cs' : List Char} (rest : Qualified cs cs') :
      Qualified (c :: cs) (c :: cs')
  | insert {c : Char} (hc : isNameStart c = true) {cs cs' : List Char} (rest : Qualified cs cs') :
      Qualified (c :: cs) ('s' :: 'e' :: 'l' :: 'f' :: '.' :: c :: cs')

namespace Qualified

theorem refl (cs : List Char) : Qualified cs cs := by
  induction cs with
  | nil => exact .nil
  | cons c cs ih => exact .keep c ih

/-- Behind a text that is kept there may be insertions. -/
theorem append (cs : List Char) {b b' : List Char} (h : Qualified b b') :
    Qualified (cs ++ b) (cs ++ b') := by
  induction cs with
  | nil => exact h
  | cons c cs ih => exact .keep c ih

/-- What is no part of a word stays where it is. -/
theorem of_cons {c : Char} {cs b' : List Char} (h : Qualified (c :: cs) b')
    (hc : Text.isWord c = false) : ∃ cs', b' = c :: cs' ∧ Qualified cs cs' := by
  cases h with
  | keep _ rest => exact ⟨_, rfl, rest⟩
  | insert hstart _ =>
    rw [isWord_of_isNameStart hstart] at hc
    exact absurd hc nofun

/-- Texts without word characters stay where they are. -/
theorem of_append {front cs b' : List Char} (h : Qualified (front ++ cs) b')
    (hfront : ∀ c ∈ front, Text.isWord c = false) :
    ∃ cs', b' = front ++ cs' ∧ Qualified cs cs' := by
  induction front generalizing b' with
  | nil => exact ⟨b', rfl, h⟩
  | cons c front ih =>
    obtain ⟨b', rfl, hrest⟩ := h.of_cons (hfront c List.mem_cons_self)
    obtain ⟨cs', rfl, hcs⟩ := ih hrest fun d hd => hfront d (List.mem_cons_of_mem _ hd)
    exact ⟨cs', rfl, hcs⟩

theorem head?_eq {cs cs' : List Char} (h : Qualified cs cs')
    (hcs : ∀ c ∈ cs.head?, Text.isWord c = false) : cs'.head? = cs.head? := by
  cases cs with
  | nil =>
    cases h
    rfl
  | cons c cs =>
    obtain ⟨cs', rfl, -⟩ := h.of_cons (hcs c rfl)
    rfl

/-- A text without word characters begins the qualified text exactly if it begins the text. -/
theorem isPrefixOf_eq {cs cs' : List Char} (h : Qualified cs cs') {op : List Char}
    (hop : ∀ c ∈ op, Text.isWord c = false) : op.isPrefixOf cs' = op.isPrefixOf cs := by
  induction h generalizing op with
  | nil => rfl
  | keep c rest ih =>
    cases op with
    | nil => rfl
    | cons o op =>
      rw [List.isPrefixOf_cons_cons, List.isPrefixOf_cons_cons, ih (List.forall_mem_cons.1 hop).2]
  | insert hc rest ih =>
    cases op with
    | nil => rfl
    | cons o op =>
      -- what is looked for begins neither with the `s` nor with the name behind it
      have ho : Text.isWord o = false := (List.forall_mem_cons.1 hop).1
      have hs : o ≠ 's' := by
        rintro rfl
        exact absurd ho (by decide)
      have hne := (ne_of_isNameStart hc ho).symm
      rw [List.isPrefixOf_cons_cons, List.isPrefixOf_cons_cons, beq_false_of_ne hs,
        beq_false_of_ne hne, Bool.false_and, Bool.false_and]

/-- A run of characters to which all that begins a name belongs ends in the qualified text where it
    ends in the text, if nothing is inserted into it. -/
theorem takeWhile_eq {p : Char → Bool} (hp : ∀ c, isNameStart c = true → p c = true)
    {a b b' : List Char} (h : Qualified b b') (ha : (a ++ b).takeWhile p = a) :
    (a ++ b').takeWhile p = a := by
  induction a with
  | nil =>
    -- the run ends here, so no name begins here and nothing is inserted
    cases h with
    | nil => rfl
    | @keep c cs cs' rest =>
      have hc : p c = false := by
        rw [← Bool.not_eq_true]
        intro hc
        rw [List.nil_append, List.takeWhile_cons_of_pos hc] at ha
        exact absurd ha nofun
      rw [List.nil_append, List.takeWhile_cons_of_neg (by simp [hc])]
    | insert hc rest =>
      rw [List.nil_append, List.takeWhile_cons_of_pos (hp _ hc)] at ha
      exact absurd ha nofun
  | cons c a ih =>
    by_cases hc : p c = true
    · rw [List.cons_append, List.takeWhile_cons_of_pos hc] at ha ⊢
      rw [ih (List.cons.inj ha).2]
    · rw [List.cons_append, List.takeWhile_cons_of_neg hc] at ha
      exact absurd ha nofun

theorem eq_nil {cs' : List Char} (h : Qualified [] cs') : cs' = [] := by
  cases h
  rfl

end Qualified

/-! ### Another text behind a place -/

section place
variable {α : Type} {n : Nat} {cs b : List α} (hb : cs.drop n = [] → b = [])
include hb

theorem take_of_replaced : (cs.take n ++ b).take n = cs.take n := by
  by_cases hle : n ≤ cs.length
  · exact List.take_left' (List.length_take_of_le hle)
  · rw [hb (List.drop_eq_nil_of_le (by omega)), List.append_nil, List.take_take, Nat.min_self]

theorem drop_of_replaced : (cs.take n ++ b).drop n = b := by
  by_cases hle : n ≤ cs.length
  · exact List.drop_left' (List.length_take_of_le hle)
  · have hnil : cs.drop n = [] := List.drop_eq_nil_of_le (by omega)
    rw [hb hnil, List.append_nil]
    exact List.drop_eq_nil_of_le (by rw [List.length_take]; omega)

end place

end LayerGraph.Flow
