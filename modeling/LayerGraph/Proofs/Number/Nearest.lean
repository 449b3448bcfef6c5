import LayerGraph.Number.Binary64
import Mathlib

/-! # Rounding to the nearest number

    The rounded quotient is no more than a half away, and no other integer is nearer. So a quotient
    that differs from a size by less than a `2 ^ 54`th part of it is rounded to this size
    (`nearest?_of_close`). The other way round, what is rounded to a finite size is bounded
    (`lt_of_nearest?`), and what is too small is rounded to zero (`nearest?_of_small`).
-/

namespace LayerGraph.Number

/-! ### Integers -/

/-- The rounded quotient is at most a half away from the exact one. -/
theorem roundToEven_close (a : Nat) {b : Nat} (hb : 0 < b) :
    2 * a ≤ 2 * (roundToEven a b * b) + b ∧ 2 * (roundToEven a b * b) ≤ 2 * a + b := by
  have hsplit : a / b * b + a % b = a := Nat.div_add_mod' a b
  have hrest : a % b < b := Nat.mod_lt a hb
  have hnext : (a / b + 1) * b = a / b * b + b := Nat.succ_mul (a / b) b
  unfold roundToEven
  simp only
  split
  · omega
  split
  · omega
  split <;> omega

/-- An integer less than a half away is the rounded quotient. -/
theorem roundToEven_eq {a b r : Nat} (habove : 2 * a < 2 * (r * b) + b)
    (hbelow : 2 * (r * b) < 2 * a + b) : roundToEven a b = r := by
  have hpos : 0 < b := by omega
  obtain ⟨hle, hge⟩ := roundToEven_close a hpos
  have hlow : r * b < (roundToEven a b + 1) * b := by
    rw [Nat.succ_mul]
    omega
  have hhigh : roundToEven a b * b < (r + 1) * b := by
    rw [Nat.succ_mul]
    omega
  have hlt := Nat.lt_of_mul_lt_mul_right hlow
  have hgt := Nat.lt_of_mul_lt_mul_right hhigh
  omega

theorem roundToEven_mul_right (a b : Nat) {k : Nat} (hk : 0 < k) :
    roundToEven (a * k) (b * k) = roundToEven a b := by
  have hbelow : 2 * (a % b * k) < b * k ↔ 2 * (a % b) < b := by
    rw [← Nat.mul_assoc]
    exact Nat.mul_lt_mul_right hk
  have habove : b * k < 2 * (a % b * k) ↔ b < 2 * (a % b) := by
    rw [← Nat.mul_assoc]
    exact Nat.mul_lt_mul_right hk
  unfold roundToEven
  simp only [Nat.mul_div_mul_right a b hk, Nat.mul_mod_mul_right, hbelow, habove]

/-! ### Sizes -/

namespace Magnitude

theorem unitsPerOne_pos : 0 < unitsPerOne := by
  unfold unitsPerOne
  -- the power is not to be computed with
  generalize 1074 = places
  exact Nat.two_pow_pos places

/-- A quotient is rounded as the same quotient with other terms. -/
theorem nearest?_mul_right (numerator denominator : Nat) {k : Nat} (hk : 0 < k) :
    nearest? (numerator * k) (denominator * k) = nearest? numerator denominator := by
  have hscaled : numerator * k * unitsPerOne = numerator * unitsPerOne * k := Nat.mul_right_comm ..
  have hgrid : ∀ e, denominator * k * Nat.pow 2 e = denominator * Nat.pow 2 e * k :=
    fun e => Nat.mul_right_comm ..
  unfold nearest?
  simp only [hscaled, hgrid, Nat.mul_div_mul_right _ _ hk, roundToEven_mul_right _ _ hk]

/-- Equal quotients are rounded alike. -/
theorem nearest?_congr {n d n' d' : Nat} (hd : 0 < d) (hd' : 0 < d') (h : n * d' = n' * d) :
    nearest? n d = nearest? n' d' := by
  rw [← nearest?_mul_right n d hd', ← nearest?_mul_right n' d' hd, h, Nat.mul_comm d d']

theorem ofParts?_self (m : Magnitude) : ofParts? m.significand m.exponent = some m :=
  dif_pos ⟨m.significand_lt, m.exponent_eq_or_le, m.exponent_le⟩

/-- The exponent that a quotient is rounded with is told by the powers of two around it. -/
theorem exponent_eq {x d e : Nat} (hd : 0 < d) (hlow : e = 0 ∨ 2 ^ (52 + e) * d ≤ x)
    (hhigh : x < 2 ^ (53 + e) * d) : (x / d).log2 + 1 - 53 = e := by
  have hlt : x / d < 2 ^ (53 + e) := (Nat.div_lt_iff_lt_mul hd).2 hhigh
  by_cases hzero : x / d = 0
  · rcases hlow with rfl | hle
    · rw [hzero]
      rfl
    · have hpos : 0 < 2 ^ (52 + e) := Nat.two_pow_pos _
      have hdiv := (Nat.le_div_iff_mul_le hd).2 hle
      omega
  · have hlog : (x / d).log2 < 53 + e := (Nat.log2_lt hzero).2 hlt
    rcases hlow with rfl | hle
    · omega
    · have hge : 52 + e ≤ (x / d).log2 :=
        (Nat.le_log2 hzero).2 ((Nat.le_div_iff_mul_le hd).2 hle)
      omega

/-- A quotient whose exponent and significand are those of a size is rounded to it. -/
theorem nearest?_of_parts {n d : Nat} {m : Magnitude}
    (hexponent : (n * unitsPerOne / d).log2 + 1 - 53 = m.exponent)
    (hsignificand : roundToEven (n * unitsPerOne) (d * 2 ^ m.exponent) = m.significand) :
    nearest? n d = some m := by
  have hlt : m.significand ≠ Nat.pow 2 53 := Nat.ne_of_lt m.significand_lt
  unfold nearest?
  simp only [hexponent, Nat.pow_eq, hsignificand]
  rw [Nat.pow_eq] at hlt
  rw [if_neg hlt]
  exact ofParts?_self m

/-- A quotient just below a power of two, which is the next significand, is rounded to it. -/
theorem nearest?_of_carry {n d e : Nat} {m : Magnitude} (hm : m.significand = 2 ^ 52)
    (hme : m.exponent = e + 1) (hexponent : (n * unitsPerOne / d).log2 + 1 - 53 = e)
    (hsignificand : roundToEven (n * unitsPerOne) (d * 2 ^ e) = 2 ^ 53) :
    nearest? n d = some m := by
  unfold nearest?
  simp only [hexponent, Nat.pow_eq, hsignificand, if_true]
  rw [← hm, ← hme]
  exact ofParts?_self m

/-- A quotient that differs from a size by less than its `2 ^ 54`th part is rounded to it. -/
theorem nearest?_of_close {n d : Nat} {m : Magnitude}
    (habove : 2 ^ 54 * (n * unitsPerOne) < (2 ^ 54 + 1) * (m.units * d))
    (hbelow : (2 ^ 54 - 1) * (m.units * d) < 2 ^ 54 * (n * unitsPerOne)) :
    nearest? n d = some m := by
  have hd : 0 < d := Nat.pos_of_ne_zero fun hzero => by simp [hzero] at habove
  have hs : m.significand < 2 ^ 53 := m.significand_lt
  have hnormal : m.exponent = 0 ∨ 2 ^ 52 ≤ m.significand := m.exponent_eq_or_le
  -- all is counted in the last place `A` of the size, seen from the denominator
  have hunits : m.units * d = m.significand * (d * 2 ^ m.exponent) := by
    show m.significand * 2 ^ m.exponent * d = _
    rw [Nat.mul_assoc, Nat.mul_comm d]
  have hpower : ∀ k e, 2 ^ (k + e) * d = 2 ^ k * (d * 2 ^ e) := fun k e => by
    rw [Nat.pow_add, Nat.mul_assoc, Nat.mul_comm d]
  have hplace : 0 < d * 2 ^ m.exponent := Nat.mul_pos hd (Nat.two_pow_pos _)
  have hmost : m.significand * (d * 2 ^ m.exponent) ≤ (2 ^ 53 - 1) * (d * 2 ^ m.exponent) :=
    Nat.mul_le_mul_right _ (by omega)
  rw [hunits] at habove hbelow
  have hhigh : n * unitsPerOne < 2 ^ (53 + m.exponent) * d := by
    rw [hpower]
    omega
  by_cases hlow : m.exponent = 0 ∨ 2 ^ (52 + m.exponent) * d ≤ n * unitsPerOne
  · exact nearest?_of_parts (exponent_eq hd hlow hhigh) (roundToEven_eq (by omega) (by omega))
  · -- below the power of two the places are half as large
    rw [not_or, Nat.not_le, hpower] at hlow
    obtain ⟨hpositive, hless⟩ := hlow
    have hleast : 2 ^ 52 ≤ m.significand := hnormal.resolve_left hpositive
    have heq : m.significand = 2 ^ 52 := by
      have hlt : m.significand < 2 ^ 52 + 1 := by
        refine Nat.lt_of_mul_lt_mul_right (a := d * 2 ^ m.exponent) ?_
        omega
      omega
    obtain ⟨e, he⟩ : ∃ e, m.exponent = e + 1 := ⟨m.exponent - 1, by omega⟩
    have hhalf : d * 2 ^ m.exponent = 2 * (d * 2 ^ e) := by
      rw [he, Nat.pow_succ, ← Nat.mul_assoc, Nat.mul_comm]
    rw [heq, hhalf] at hbelow
    rw [hhalf] at hless
    refine nearest?_of_carry heq he (exponent_eq hd (.inr ?_) ?_) (roundToEven_eq ?_ ?_)
    · rw [hpower]
      omega
    · rw [hpower]
      omega
    · omega
    · omega

/-! ### Bounds -/

theorem exponent_le_of_ofParts? {significand exponent : Nat} {m : Magnitude}
    (h : ofParts? significand exponent = some m) : exponent ≤ 2045 := by
  unfold ofParts? at h
  split at h
  · next hparts => exact hparts.2.2
  · exact absurd h nofun

theorem two_pow_mul_unitsPerOne (k : Nat) : 2 ^ k * unitsPerOne = 2 ^ (k + 1074) := by
  unfold unitsPerOne
  generalize 1074 = places
  exact (Nat.pow_add 2 k places).symm

/-- What is rounded to a size is less than `2 ^ 1024`. -/
theorem lt_of_nearest? {n d bits : Nat} {m : Magnitude} (hd : 0 < d) (h : nearest? n d = some m)
    (hbits : 1024 ≤ bits) : n < 2 ^ bits * d := by
  have hexponent : (n * unitsPerOne / d).log2 + 1 - 53 ≤ 2045 := by
    unfold nearest? at h
    simp only at h
    split at h
    · exact Nat.le_of_succ_le (exponent_le_of_ofParts? h)
    · exact exponent_le_of_ofParts? h
  have hquotient : n * unitsPerOne / d < 2 ^ bits * unitsPerOne := calc
    _ < 2 ^ ((n * unitsPerOne / d).log2 + 1) := Nat.lt_log2_self
    _ ≤ 2 ^ bits * unitsPerOne := by
      rw [two_pow_mul_unitsPerOne]
      exact Nat.pow_le_pow_right (by omega) (by omega)
  have hscaled : n * unitsPerOne < 2 ^ bits * d * unitsPerOne := by
    rw [Nat.mul_right_comm]
    exact (Nat.div_lt_iff_lt_mul hd).1 hquotient
  exact Nat.lt_of_mul_lt_mul_right hscaled

/-- Less than half of the smallest size is rounded to zero. -/
theorem nearest?_of_small {n d : Nat} (h : 2 * (n * unitsPerOne) < d) :
    nearest? n d = some zero := by
  have hless : n * unitsPerOne < d := by omega
  refine nearest?_of_parts (m := zero) ?_ (roundToEven_eq ?_ ?_)
  · rw [Nat.div_eq_of_lt hless]
    rfl
  · show 2 * (n * unitsPerOne) < 2 * (0 * (d * 2 ^ 0)) + d * 2 ^ 0
    omega
  · show 2 * (0 * (d * 2 ^ 0)) < 2 * (n * unitsPerOne) + d * 2 ^ 0
    omega

end Magnitude

end LayerGraph.Number
