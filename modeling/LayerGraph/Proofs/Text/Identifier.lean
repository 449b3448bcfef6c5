import LayerGraph.Text.Blank
import LayerGraph.Text.Identifier

/-! # The characters of names

    All characters of a name may stand in an identifier (`isIdentifierPart_of_isName`). So a name
    holds no character of another class, and no blank: the runs of the classes do not meet
    (`isBlank_of_isIdentifierPart`).
-/

namespace LayerGraph.Text

/-! ### Classes of characters -/

/-- Whether no run of one class meets a run of the other. -/
def CodePoints.areApart (first second : CodePoints) : Bool :=
  first.all fun run => second.all fun other =>
    decide (run.2 < other.1) || decide (other.2 < run.1)

/-- No character is in both of two classes that are apart. -/
theorem CodePoints.not_has_of_areApart {first second : CodePoints}
    (h : first.areApart second = true) {c : Char} (hc : first.has c = true) :
    second.has c = false := by
  obtain ⟨run, hrun, hin⟩ := List.any_eq_true.1 hc
  refine List.any_eq_false.2 fun other hother hboth => ?_
  have hgap := List.all_eq_true.1 (List.all_eq_true.1 h run hrun) other hother
  simp only [Bool.and_eq_true, Bool.or_eq_true, decide_eq_true_eq] at hin hboth hgap
  omega

/-! ### Names -/

theorem isIdentifierPart_of_isIdentifierStart {c : Char} (h : isIdentifierStart c = true) :
    isIdentifierPart c = true := by
  grind [isIdentifierStart, isIdentifierPart, Char.isAlphanum]

/-- An identifier has a first character, which may begin it. -/
theorem exists_of_isIdentifier {name : List Char} (h : isIdentifier name = true) :
    ∃ first rest, name = first :: rest ∧ isIdentifierStart first = true ∧
      ∀ c ∈ rest, isIdentifierPart c = true := by
  cases name with
  | nil => exact absurd h nofun
  | cons first rest =>
    rw [isIdentifier, Bool.and_eq_true, List.all_eq_true] at h
    exact ⟨first, rest, rfl, h⟩

theorem isIdentifierPart_of_isIdentifier {name : List Char} (h : isIdentifier name = true) :
    ∀ c ∈ name, isIdentifierPart c = true := by
  obtain ⟨first, rest, rfl, hfirst, hrest⟩ := exists_of_isIdentifier h
  exact List.forall_mem_cons.2 ⟨isIdentifierPart_of_isIdentifierStart hfirst, hrest⟩

/-- A name has a first character, which may begin an identifier. -/
theorem exists_of_isName {name : String} (h : isName name = true) :
    ∃ first rest, name.toList = first :: rest ∧ isIdentifierStart first = true ∧
      ∀ c ∈ rest, isIdentifierPart c = true :=
  exists_of_isIdentifier (Bool.and_eq_true_iff.1 h).1

/-- All characters of a name may stand in an identifier. -/
theorem isIdentifierPart_of_isName {name : String} (h : isName name = true) :
    ∀ c ∈ name.toList, isIdentifierPart c = true :=
  isIdentifierPart_of_isIdentifier (Bool.and_eq_true_iff.1 h).1

/-- A character that stands in no identifier stands in no name. -/
theorem not_mem_of_isName {name : String} (h : isName name = true) {c : Char}
    (hc : isIdentifierPart c = false) : c ∉ name.toList := by
  intro hmem
  rw [isIdentifierPart_of_isName h c hmem] at hc
  exact absurd hc nofun

/-- No blank stands in an identifier. -/
theorem isBlank_of_isIdentifierPart {c : Char} (h : isIdentifierPart c = true) :
    isBlank c = false := by
  have hascii : ∀ n < 128, isBlank (Char.ofNat n) = true →
      isIdentifierPart (Char.ofNat n) = false := by decide +kernel
  have hapart : blanks.areApart identifierStarts = true ∧
      blanks.areApart identifierExtenders = true := by decide +kernel
  refine Bool.eq_false_iff.2 fun hblank => ?_
  by_cases hsmall : c.toNat < 128
  · have hnone := hascii c.toNat hsmall (by rwa [Char.ofNat_toNat])
    rw [Char.ofNat_toNat, h] at hnone
    exact absurd hnone nofun
  · unfold isIdentifierPart at h
    rw [if_neg hsmall, CodePoints.not_has_of_areApart hapart.1 hblank,
      CodePoints.not_has_of_areApart hapart.2 hblank] at h
    exact absurd h nofun

end LayerGraph.Text
