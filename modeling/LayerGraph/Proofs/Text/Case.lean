import LayerGraph.Text.Case
import Mathlib

/-! # Small letters

    A character is *small* if it has no other small form wherever it stands. All characters of a
    text in small letters are small, so putting it into small letters once more changes nothing
    (`lower_lower`). This comes down to the table of shifts, in which no shift sends a character to
    one that is shifted again (`lowerShifts_avoid`). Texts that differ in the case of ASCII letters
    only have one small form (`SameLetters.lower_eq`): such a letter tells what stands around it no
    more in one case than in the other.
-/

namespace LayerGraph.Text

/-- A number stands for the character with this code point, or for none. -/
theorem toNat_ofNat_cases (n : Nat) : (Char.ofNat n).toNat = n ∨ (Char.ofNat n).toNat = 0 := by
  unfold Char.ofNat
  split
  · exact Or.inl rfl
  · exact Or.inr rfl

/-! ### Shifts -/

namespace CaseShift

/-- The first code point that a shift sends a character to. -/
def start (shift : CaseShift) : Nat := (shift.first + shift.distance).toNat

/-- The last code point that a shift sends a character to. -/
def stop (shift : CaseShift) : Nat := shift.start + (shift.last - shift.first)

/-- Whether no character that `shift` sends another to is shifted by `next`: the runs do not meet,
    or the characters of the one take turns with those of the other. -/
def avoids (shift next : CaseShift) : Bool :=
  shift.stop.blt next.first || next.last.blt shift.start ||
    (next.step.beq 2 && (shift.step.beq 2 || shift.first.beq shift.last) &&
      ((shift.start + next.first) % 2).beq 1)

/-- A character that is shifted lies in the run of the shift, and what it is sent to lies as far
    behind the start of the other run. -/
theorem of_shift? {shift : CaseShift} {c d : Char} (h : shift.shift? c = some d)
    (hstart : 0 ≤ shift.first + shift.distance) :
    ∃ k, k ≤ shift.last - shift.first ∧ k % shift.step = 0 ∧
      d = Char.ofNat (shift.start + k) := by
  unfold shift? at h
  split at h
  · next hrun =>
    obtain rfl := Option.some.inj h
    refine ⟨c.toNat - shift.first, by omega, hrun.2.2, ?_⟩
    congr 1
    unfold start
    omega
  · exact absurd h nofun

/-- A character that a shift sends another to is not shifted by one that is avoided. -/
theorem shift?_of_avoids {shift next : CaseShift} {k : Nat} (h : shift.avoids next = true)
    (hnext : 0 < next.first) (hk : k ≤ shift.last - shift.first) (hstep : k % shift.step = 0) :
    next.shift? (Char.ofNat (shift.start + k)) = none := by
  unfold shift?
  refine if_neg ?_
  rintro ⟨hfirst, hlast, hturn⟩
  rcases toNat_ofNat_cases (shift.start + k) with hsame | hzero
  · rw [hsame] at hfirst hlast hturn
    simp only [avoids, stop, Bool.or_eq_true, Bool.and_eq_true, Nat.blt_eq, Nat.beq_eq] at h
    rcases h with (hbehind | hbefore) | ⟨⟨htwo, hturns⟩, hodd⟩
    · omega
    · omega
    · rw [htwo] at hturn
      rcases hturns with hboth | hsingle
      · rw [hboth] at hstep
        omega
      · omega
  · omega

end CaseShift

/-- No shift sends a character to one that is shifted again. -/
theorem lowerShifts_avoid : ∀ shift ∈ lowerShifts, ∀ next ∈ lowerShifts,
    shift.avoids next = true := by
  have htable : (lowerShifts.all fun shift => lowerShifts.all shift.avoids) = true := by
    decide +kernel
  intro shift hshift next hnext
  exact List.all_eq_true.1 (List.all_eq_true.1 htable shift hshift) next hnext

/-- The runs of the table begin behind the first code point, before and after shifting. -/
theorem lowerShifts_start : ∀ shift ∈ lowerShifts,
    0 < shift.first ∧ (0 : Int) ≤ shift.first + shift.distance := by
  decide +kernel

/-- No shift sends a character to a capital I with a dot, whose small form is longer. -/
theorem lowerShifts_dotted : ∀ shift ∈ lowerShifts, shift.stop < 0x130 ∨ 0x130 < shift.start := by
  decide +kernel

/-! ### Small characters -/

/-- A character that no shift applies to, and whose small form is no longer than itself. -/
structure IsSmall (c : Char) : Prop where
  shift? : ∀ shift ∈ lowerShifts, shift.shift? c = none
  not_dotted : c.toNat ≠ 0x130

theorem shiftCase_of_isSmall {c : Char} (h : IsSmall c) : shiftCase lowerShifts c = c := by
  unfold shiftCase
  rw [List.findSome?_eq_none_iff.2 h.shift?]
  rfl

/-- What a character is shifted to is small. -/
theorem isSmall_shiftCase {c : Char} (h : c.toNat ≠ 0x130) : IsSmall (shiftCase lowerShifts c) := by
  unfold shiftCase
  cases hfound : lowerShifts.findSome? (·.shift? c) with
  | none => exact ⟨List.findSome?_eq_none_iff.1 hfound, h⟩
  | some d =>
    obtain ⟨shift, hshift, hd⟩ := List.exists_of_findSome?_eq_some hfound
    obtain ⟨k, hk, hstep, rfl⟩ := CaseShift.of_shift? hd (lowerShifts_start shift hshift).2
    refine ⟨fun next hnext => ?_, ?_⟩
    · exact CaseShift.shift?_of_avoids (lowerShifts_avoid shift hshift next hnext)
        (lowerShifts_start next hnext).1 hk hstep
    · show (Char.ofNat (shift.start + k)).toNat ≠ 0x130
      have hdotted := lowerShifts_dotted shift hshift
      unfold CaseShift.stop at hdotted
      rcases toNat_ofNat_cases (shift.start + k) with hsame | hzero <;> omega

/-- The capital letters of ASCII are shifted like all others. -/
theorem toLower_eq_shiftCase {c : Char} (h : c.toNat < 128) :
    c.toLower = shiftCase lowerShifts c := by
  have hothers : ∀ shift ∈ lowerShifts.tail, 128 ≤ shift.first := by decide +kernel
  have hletters : ∀ n < 128, (Char.ofNat n).toLower =
      ((CaseShift.mk 0x41 0x5A 1 32).shift? (Char.ofNat n)).getD (Char.ofNat n) := by
    decide +kernel
  have hnone : lowerShifts.tail.findSome? (·.shift? c) = none := by
    rw [List.findSome?_eq_none_iff]
    intro shift hshift
    have hfirst := hothers shift hshift
    exact if_neg fun hrun => absurd hrun.1 (by omega)
  have hletter := hletters c.toNat h
  rw [Char.ofNat_toNat] at hletter
  unfold shiftCase
  rw [show lowerShifts = ⟨0x41, 0x5A, 1, 32⟩ :: lowerShifts.tail from rfl, List.findSome?_cons,
    hnone, hletter]
  cases (CaseShift.mk 0x41 0x5A 1 32).shift? c <;> rfl

/-- A small character stays as it is, wherever it stands. -/
theorem lowerChar_of_isSmall {c : Char} (h : IsSmall c) (before after : List Char) :
    lowerChar before c after = [c] := by
  have hsigma : c ≠ 'Σ' := by
    rintro rfl
    have hshifted : (lowerShifts.any fun shift => (shift.shift? 'Σ').isSome) = true := by
      decide +kernel
    obtain ⟨shift, hshift, hsome⟩ := List.any_eq_true.1 hshifted
    rw [h.shift? shift hshift] at hsome
    exact absurd hsome Bool.false_ne_true
  have hdotted : c ≠ 'İ' := by
    rintro rfl
    exact h.not_dotted rfl
  unfold lowerChar
  split
  · next hascii => rw [toLower_eq_shiftCase hascii, shiftCase_of_isSmall h]
  · rw [shiftCase_of_isSmall h]

/-- The small form of a character is small. -/
theorem isSmall_of_mem_lowerChar {before after : List Char} {c d : Char}
    (h : d ∈ lowerChar before c after) : IsSmall d := by
  have hsmall : ∀ c : Char, shiftCase lowerShifts c = c → c.toNat ≠ 0x130 → IsSmall c := by
    intro c hsame hc
    rw [← hsame]
    exact isSmall_shiftCase hc
  unfold lowerChar at h
  split at h
  · next hascii =>
    obtain rfl := List.mem_singleton.1 h
    rw [toLower_eq_shiftCase hascii]
    exact isSmall_shiftCase (by omega)
  split at h
  · -- neither form of the sigma is a capital
    split at h
    · obtain rfl := List.mem_singleton.1 h
      exact hsmall _ (by decide +kernel) (by decide)
    · obtain rfl := List.mem_singleton.1 h
      exact hsmall _ (by decide +kernel) (by decide)
  split at h
  · simp only [List.mem_cons, List.not_mem_nil, or_false] at h
    rcases h with rfl | rfl
    · exact hsmall _ (by decide +kernel) (by decide)
    · exact hsmall _ (by decide +kernel) (by decide)
  · next hdotted =>
    obtain rfl := List.mem_singleton.1 h
    refine isSmall_shiftCase fun hsame => hdotted ?_
    rw [← Char.ofNat_toNat c, hsame]

theorem lowerFrom_of_forall_isSmall {cs : List Char} (h : ∀ c ∈ cs, IsSmall c)
    (before : List Char) : lowerFrom before cs = cs := by
  induction cs generalizing before with
  | nil => rfl
  | cons c cs ih =>
    obtain ⟨hc, hcs⟩ := List.forall_mem_cons.1 h
    rw [lowerFrom, lowerChar_of_isSmall hc, ih hcs, List.singleton_append]

theorem isSmall_of_mem_lowerFrom {before cs : List Char} {d : Char}
    (h : d ∈ lowerFrom before cs) : IsSmall d := by
  induction cs generalizing before with
  | nil => exact absurd h List.not_mem_nil
  | cons c cs ih =>
    rw [lowerFrom, List.mem_append] at h
    rcases h with hfirst | hrest
    · exact isSmall_of_mem_lowerChar hfirst
    · exact ih hrest

/-- A text in small letters is put into small letters as it is. -/
theorem lower_lower (s : String) : lower (lower s) = lower s := by
  unfold lower
  rw [String.toList_ofList, lowerFrom_of_forall_isSmall fun c hc => isSmall_of_mem_lowerFrom hc]

/-! ### Letters of ASCII -/

/-- Texts that differ at most in the case of ASCII letters. -/
def SameLetters (s t : String) : Prop := s.toList.map Char.toLower = t.toList.map Char.toLower

theorem toLower_of_le {c : Char} (h : 128 ≤ c.toNat) : c.toLower = c := by
  unfold Char.toLower
  rw [dif_neg]
  intro hletter
  have hlast : c.toNat ≤ 90 := hletter.2
  omega

/-- Of a table only the runs that begin in ASCII tell of its characters. -/
theorem has_eq_of_filter {table runs : CodePoints} (h : table.filter (·.1.blt 128) = runs)
    {c : Char} (hascii : c.toNat < 128) : table.has c = runs.has c := by
  rw [← h]
  unfold CodePoints.has
  rw [List.any_filter]
  congr 1
  funext run
  by_cases hrun : run.1 < 128
  · simp [hrun]
  · simp [show ¬run.1 ≤ c.toNat by omega]

/-- A table has both forms of an ASCII letter or neither, if its runs in ASCII do. -/
theorem has_toLower {table runs : CodePoints} (h : table.filter (·.1.blt 128) = runs)
    (hruns : ∀ n < 128, (Char.ofNat n).toLower.toNat < 128 ∧
      runs.has (Char.ofNat n).toLower = runs.has (Char.ofNat n)) (c : Char) :
    table.has c.toLower = table.has c := by
  by_cases hascii : c.toNat < 128
  · have hboth := hruns c.toNat hascii
    rw [Char.ofNat_toNat] at hboth
    rw [has_eq_of_filter h hboth.1, has_eq_of_filter h hascii, hboth.2]
  · rw [toLower_of_le (by omega)]

theorem meetsCased_map_toLower (cs : List Char) :
    meetsCased (cs.map Char.toLower) = meetsCased cs := by
  have hletters : cased.filter (·.1.blt 128) = [(0x41, 0x5A), (0x61, 0x7A)] := by decide +kernel
  have hmarks : caseIgnorables.filter (·.1.blt 128) =
      [(0x27, 0x27), (0x2E, 0x2E), (0x3A, 0x3A), (0x5E, 0x5E), (0x60, 0x60)] := by decide +kernel
  have hcased := has_toLower hletters (by decide +kernel)
  have hignored := has_toLower hmarks (by decide +kernel)
  induction cs with
  | nil => rfl
  | cons c cs ih => rw [List.map_cons, meetsCased, meetsCased, hcased, hignored, ih]

theorem lowerChar_map_toLower (before : List Char) (c : Char) (after : List Char) :
    lowerChar (before.map Char.toLower) c.toLower (after.map Char.toLower) =
      lowerChar before c after := by
  unfold lowerChar
  rw [meetsCased_map_toLower, meetsCased_map_toLower]
  by_cases hascii : c.toNat < 128
  · have htwice : ∀ n < 128, (Char.ofNat n).toLower.toLower = (Char.ofNat n).toLower ∧
        (Char.ofNat n).toLower.toNat < 128 := by decide +kernel
    have hc := htwice c.toNat hascii
    rw [Char.ofNat_toNat] at hc
    rw [if_pos hascii, if_pos hc.2, hc.1]
  · rw [toLower_of_le (by omega), if_neg hascii, if_neg hascii]

theorem lowerFrom_map_toLower (before cs : List Char) :
    lowerFrom (before.map Char.toLower) (cs.map Char.toLower) = lowerFrom before cs := by
  induction cs generalizing before with
  | nil => rfl
  | cons c cs ih =>
    rw [List.map_cons, lowerFrom, lowerFrom, lowerChar_map_toLower, ← List.map_cons, ih]

/-- The small form of a text does not depend on the case of ASCII letters. -/
theorem SameLetters.lower_eq {s t : String} (h : SameLetters s t) : lower s = lower t := by
  unfold lower
  rw [← lowerFrom_map_toLower [] s.toList, ← lowerFrom_map_toLower [] t.toList, h]

end LayerGraph.Text
