import LayerGraph.Proofs.Time.Stamp
import LayerGraph.Time.Instant

/-! # Instants and their texts

    Instants are ordered by day and by time of day. Up to the second their texts have the same
    width, and so far they are ordered like the instants. Behind the second stands the fraction, or
    the `Z` if there is none; and since a point comes before a `Z`, the text of a full second comes
    behind those of all other instants of this second (`text_lt_iff`).
-/

namespace LayerGraph.Time

namespace Date

/-- Texts that begin with days are ordered by these first. -/
theorem text_append_lt_iff {a b : Date} {x y : List Char} :
    a.text.toList ++ x < b.text.toList ++ y ↔ a.IsBefore b ∨ a = b ∧ x < y := by
  have hbounds := a.bounds
  have hbounds' := b.bounds
  have hsame : a = b ↔ a.year = b.year ∧ a.month = b.month ∧ a.day = b.day := by
    refine ⟨fun h => by simp [h], fun h => eq_of_parts h.1 h.2.1 h.2.2⟩
  unfold text IsBefore
  simp only [String.toList_ofList, List.append_assoc, List.cons_append]
  rw [padded_append_lt_iff (by decide) (by omega) (by omega), List.cons_lt_cons_self,
    padded_append_lt_iff (by decide) (by omega) (by omega), List.cons_lt_cons_self,
    padded_append_lt_iff (by decide) (by omega) (by omega), hsame]
  grind

end Date

namespace Instant

/-! ### The order of instants -/

/-- An instant that a clock can show. -/
structure IsShown (instant : Instant) : Prop where
  hour : instant.hour < 24
  minute : instant.minute < 60
  second : instant.second < 60
  microsecond : instant.microsecond < 1000000

/-- Two instants lie in the same second. -/
def IsInSecondOf (a b : Instant) : Prop :=
  a.date = b.date ∧ a.hour = b.hour ∧ a.minute = b.minute ∧ a.second = b.second

/-- One instant lies in an earlier second than another. -/
def IsSecondsBefore (a b : Instant) : Prop :=
  a.date.IsBefore b.date ∨ a.date = b.date ∧ (a.hour < b.hour ∨ a.hour = b.hour ∧
    (a.minute < b.minute ∨ a.minute = b.minute ∧ a.second < b.second))

/-- One instant is earlier than another. -/
def IsBefore (a b : Instant) : Prop :=
  a.IsSecondsBefore b ∨ a.IsInSecondOf b ∧ a.microsecond < b.microsecond

/-- An instant is the beginning of the second in which a later one lies. -/
def BeginsSecondOf (a b : Instant) : Prop :=
  a.IsInSecondOf b ∧ a.microsecond = 0 ∧ 0 < b.microsecond

instance (a b : Instant) : Decidable (a.IsInSecondOf b) :=
  inferInstanceAs (Decidable (_ ∧ _))

instance (a b : Instant) : Decidable (a.IsBefore b) :=
  inferInstanceAs (Decidable ((_ ∨ _) ∨ _))

instance (a b : Instant) : Decidable (a.BeginsSecondOf b) :=
  inferInstanceAs (Decidable (_ ∧ _))

/-! ### The order of texts -/

/-- What stands behind the seconds: the fraction unless it is zero, and a `Z`. -/
def ending (microsecond : Nat) : List Char :=
  (if microsecond = 0 then [] else '.' :: Date.padded 6 microsecond) ++ ['Z']

/-- A point comes before the `Z`, so that no fraction comes behind all fractions. -/
theorem ending_lt_iff {m n : Nat} (hm : m < 1000000) (hn : n < 1000000) :
    ending m < ending n ↔ 0 < m ∧ (n = 0 ∨ m < n) := by
  have hfractions : Date.padded 6 m ++ ['Z'] < Date.padded 6 n ++ ['Z'] ↔ m < n := by
    rw [Date.padded_append_lt_iff (by decide) hm hn]
    simp
  have hpoint : '.' < 'Z' := by decide
  unfold ending
  by_cases hzero : m = 0 <;> by_cases hzero' : n = 0
  · simp [hzero, hzero']
  · simp [hzero, hzero', List.cons_lt_cons_iff]
  · simp [hzero, hzero', List.cons_lt_cons_iff, hpoint, Nat.pos_of_ne_zero hzero]
  · simp [hzero, hzero', List.cons_lt_cons_self, hfractions, Nat.pos_of_ne_zero hzero]

/-- Texts are ordered by the seconds first. -/
theorem text_lt_iff_ending {a b : Instant} (ha : a.IsShown) (hb : b.IsShown) :
    a.text < b.text ↔
      a.IsSecondsBefore b ∨ a.IsInSecondOf b ∧ ending a.microsecond < ending b.microsecond := by
  obtain ⟨hhour, hminute, hsecond, _⟩ := ha
  obtain ⟨hhour', hminute', hsecond', _⟩ := hb
  have hform : ∀ instant : Instant, instant.text.toList = instant.date.text.toList ++ 'T' ::
      (Date.padded 2 instant.hour ++ ':' :: (Date.padded 2 instant.minute ++ ':' ::
        (Date.padded 2 instant.second ++ ending instant.microsecond))) := fun instant => by
    unfold text clockText ending
    simp only [String.toList_ofList, List.append_assoc, List.cons_append]
  show a.text.toList < b.text.toList ↔ _
  rw [hform, hform, Date.text_append_lt_iff, List.cons_lt_cons_self,
    Date.padded_append_lt_iff (by decide) (by omega) (by omega), List.cons_lt_cons_self,
    Date.padded_append_lt_iff (by decide) (by omega) (by omega), List.cons_lt_cons_self,
    Date.padded_append_lt_iff (by decide) (by omega) (by omega)]
  unfold IsSecondsBefore IsInSecondOf
  simp only [and_or_left, and_assoc, or_assoc]

theorem IsInSecondOf.symm {a b : Instant} (h : a.IsInSecondOf b) : b.IsInSecondOf a :=
  ⟨h.1.symm, h.2.1.symm, h.2.2.1.symm, h.2.2.2.symm⟩

theorem not_isSecondsBefore {a b : Instant} (h : a.IsInSecondOf b) : ¬a.IsSecondsBefore b := by
  obtain ⟨hdate, hhour, hminute, hsecond⟩ := h
  rintro (hday | ⟨_, hlater⟩)
  · exact Date.not_isBefore_self b.date (hdate ▸ hday)
  · omega

/-- The text of an instant comes before that of another one if it is earlier, except that the text
    of a full second comes behind those of all other instants of this second. -/
theorem text_lt_iff {a b : Instant} (ha : a.IsShown) (hb : b.IsShown) :
    a.text < b.text ↔ a.IsBefore b ∧ ¬a.BeginsSecondOf b ∨ b.BeginsSecondOf a := by
  rw [text_lt_iff_ending ha hb, ending_lt_iff ha.microsecond hb.microsecond]
  unfold IsBefore BeginsSecondOf
  by_cases hsame : a.IsInSecondOf b
  · have hnot := not_isSecondsBefore hsame
    have hsame' := hsame.symm
    simp only [hsame, hsame', hnot, true_and, false_or]
    omega
  · have hsame' : ¬b.IsInSecondOf a := fun h => hsame h.symm
    simp only [hsame, hsame', false_and, or_false, not_false_eq_true, and_true]

end Instant

end LayerGraph.Time
