import LayerGraph.Number.Shortest
import LayerGraph.Proofs.Number.Nearest

/-! # Decimal numbers read back

    The size that a decimal number is rounded to depends on its value only (`magnitude?_shift`). On
    the grid of seventeen digits a step is less than a `2 ^ 53`rd part of the size, so the nearest
    point of it reads back; hence the shortest decimal number does, too (`magnitude?_shortest`).
    Reading a decimal number rounds it, and the exponents that are decided without rounding are far
    from those of such numbers (`ofDecimal_eq_finite`).
-/

namespace LayerGraph.Number

/-! ### Digits -/

namespace Binary64

theorem lt_pow_digitCount (n : Nat) : n < 10 ^ digitCount n := by
  unfold digitCount
  split
  · next hzero => simp [hzero]
  · exact (Nat.length_toDigits_le_iff (by decide) Nat.length_toDigits_pos).1 (Nat.le_refl _)

theorem digitCount_pos {n : Nat} (h : n ≠ 0) : 0 < digitCount n := by
  unfold digitCount
  rw [if_neg h]
  exact Nat.length_toDigits_pos

theorem pow_digitCount_le {n : Nat} (h : n ≠ 0) : 10 ^ (digitCount n - 1) ≤ n := by
  have hcount := digitCount_pos h
  by_cases hone : digitCount n = 1
  · rw [hone]
    exact Nat.one_le_iff_ne_zero.2 h
  · refine Nat.not_lt.1 fun hlt => ?_
    have hle := (Nat.length_toDigits_le_iff (b := 10) (by decide) (by omega)).2 hlt
    unfold digitCount at hle hcount
    rw [if_neg h] at hle hcount
    omega

end Binary64

/-! ### Decimal numbers -/

namespace Decimal

/-- A decimal number is rounded as the quotient of its digits and a power of ten, of which one is
    filled up with zeros. -/
theorem magnitude?_eq (d : Decimal) : d.magnitude? =
    Magnitude.nearest? (d.digits * 10 ^ d.exponent.toNat) (10 ^ (-d.exponent).toNat) := by
  unfold magnitude?
  split
  · next hnonneg =>
    have hnone : (-d.exponent).toNat = 0 := by omega
    rw [hnone]
    rfl
  · next hneg =>
    have hnone : d.exponent.toNat = 0 := by omega
    rw [hnone, Nat.pow_zero, Nat.mul_one]
    rfl

/-- Zeros at the end of the digits may be counted in the exponent. -/
theorem magnitude?_shift (digits zeros : Nat) (exponent : Int) :
    (mk (digits * 10 ^ zeros) (exponent - zeros)).magnitude? = (mk digits exponent).magnitude? := by
  rw [magnitude?_eq, magnitude?_eq]
  refine Magnitude.nearest?_congr (Nat.pow_pos (by decide)) (Nat.pow_pos (by decide)) ?_
  have hexponents : zeros + (exponent - zeros).toNat + (-exponent).toNat =
      exponent.toNat + (-(exponent - zeros)).toNat := by omega
  simp only [Nat.mul_assoc, ← Nat.pow_add]
  rw [hexponents]

end Decimal

/-! ### The shortest decimal number -/

namespace Magnitude

theorem units_pos {m : Magnitude} (hm : m.significand ≠ 0) : 0 < m.units :=
  Nat.mul_pos (Nat.pos_of_ne_zero hm) (Nat.two_pow_pos _)

theorem onGrid_eq (m : Magnitude) (exponent : Int) : m.onGrid exponent =
    (m.units * 10 ^ (-exponent).toNat, unitsPerOne * 10 ^ exponent.toNat) := by
  unfold onGrid
  split
  · next hnonneg =>
    have hnone : (-exponent).toNat = 0 := by omega
    rw [hnone, Nat.pow_zero, Nat.mul_one]
    rfl
  · next hneg =>
    have hnone : exponent.toNat = 0 := by omega
    rw [hnone, Nat.pow_zero, Nat.mul_one]
    rfl

/-- A size is at least the power of ten of the place in front of its first digit. -/
theorem pow_decimalPoint_le {m : Magnitude} (hm : m.significand ≠ 0) :
    unitsPerOne * 10 ^ (m.decimalPoint - 1).toNat ≤ m.units * 10 ^ (1 - m.decimalPoint).toNat := by
  have hpos := units_pos hm
  have hone := unitsPerOne_pos
  unfold decimalPoint
  split
  · next hle =>
    have hquotient : m.units / unitsPerOne ≠ 0 :=
      Nat.ne_of_gt ((Nat.le_div_iff_mul_le hone).2 (by rwa [Nat.one_mul]))
    have hcount := Binary64.digitCount_pos hquotient
    have hbound := (Nat.le_div_iff_mul_le hone).1 (Binary64.pow_digitCount_le hquotient)
    generalize Binary64.digitCount (m.units / unitsPerOne) = count at hcount hbound ⊢
    have hup : ((count : Int) - 1).toNat = count - 1 := by omega
    have hdown : (1 - (count : Int)).toNat = 0 := by omega
    rw [hup, hdown, Nat.pow_zero, Nat.mul_one, Nat.mul_comm]
    exact hbound
  · next hlt =>
    -- the number of digits is that of the quotient that is one less than the one rounded up
    have hquotient : (unitsPerOne + m.units - 1) / m.units - 1 = (unitsPerOne - 1) / m.units := by
      have hsum : unitsPerOne + m.units - 1 = unitsPerOne - 1 + m.units := by omega
      rw [hsum, Nat.add_div_right _ hpos, Nat.succ_sub_one]
    have hbound := (Nat.div_lt_iff_lt_mul hpos).1
      (Binary64.lt_pow_digitCount ((unitsPerOne - 1) / m.units))
    rw [hquotient]
    generalize Binary64.digitCount ((unitsPerOne - 1) / m.units) = count at hbound ⊢
    have hup : (1 - (count : Int) - 1).toNat = 0 := by omega
    have hdown : (1 - (1 - (count : Int))).toNat = count := by omega
    rw [hup, hdown, Nat.pow_zero, Nat.mul_one, Nat.mul_comm]
    omega

/-- On the grid of seventeen digits a size is at least `10 ^ 16` steps. -/
theorem pow_le_onGrid {m : Magnitude} (hm : m.significand ≠ 0) :
    10 ^ 16 * (m.onGrid (m.decimalPoint - 17)).2 ≤ (m.onGrid (m.decimalPoint - 17)).1 := by
  have hbound := pow_decimalPoint_le hm
  rw [onGrid_eq]
  generalize m.decimalPoint = point at hbound ⊢
  -- both sides of the bound are shifted by the same number of places
  obtain ⟨places, hup, hdown⟩ : ∃ places,
      (point - 1).toNat + places = 16 + (point - 17).toNat ∧
        (1 - point).toNat + places = (-(point - 17)).toNat :=
    ⟨16 + (point - 17).toNat - (point - 1).toNat, by omega, by omega⟩
  show 10 ^ 16 * (unitsPerOne * 10 ^ (point - 17).toNat) ≤ m.units * 10 ^ (-(point - 17)).toNat
  rw [Nat.mul_left_comm, ← Nat.pow_add, ← hup, ← hdown, Nat.pow_add, Nat.pow_add, ← Nat.mul_assoc,
    ← Nat.mul_assoc]
  exact Nat.mul_le_mul_right _ hbound

/-- The nearest point of the grid of seventeen digits reads back. -/
theorem magnitude?_nearest {m : Magnitude} (hm : m.significand ≠ 0) :
    (Decimal.mk (roundToEven (m.onGrid (m.decimalPoint - 17)).1
      (m.onGrid (m.decimalPoint - 17)).2) (m.decimalPoint - 17)).magnitude? = some m := by
  have hsteps := pow_le_onGrid hm
  rw [Decimal.magnitude?_eq]
  rw [onGrid_eq] at hsteps ⊢
  simp only at hsteps ⊢
  generalize m.decimalPoint - 17 = exponent at hsteps ⊢
  have hstep : 0 < unitsPerOne * 10 ^ exponent.toNat :=
    Nat.mul_pos unitsPerOne_pos (Nat.pow_pos (by decide))
  obtain ⟨hle, hge⟩ := roundToEven_close (m.units * 10 ^ (-exponent).toNat) hstep
  refine nearest?_of_close ?_ ?_
  · rw [Nat.mul_assoc (roundToEven _ _), Nat.mul_comm (10 ^ exponent.toNat)]
    omega
  · rw [Nat.mul_assoc (roundToEven _ _), Nat.mul_comm (10 ^ exponent.toNat)]
    omega

theorem magnitude?_of_readBackOn {m : Magnitude} {exponent : Int} {d : Decimal}
    (h : m.readBackOn exponent = some d) : d.magnitude? = some m := by
  unfold readBackOn at h
  simp only at h
  generalize roundToEven (m.onGrid exponent).1 (m.onGrid exponent).2 = nearer at h
  generalize (if nearer = (m.onGrid exponent).1 / (m.onGrid exponent).2 then _ else _) = farther
    at h
  split at h
  · next hnearer => rwa [← Option.some.inj h]
  split at h
  · next hfarther => rwa [← Option.some.inj h]
  · exact absurd h nofun

/-- The shortest decimal number reads back. -/
theorem magnitude?_shortest {m : Magnitude} (hm : m.significand ≠ 0) :
    m.shortest.magnitude? = some m := by
  unfold shortest
  split
  · next d hfound =>
    obtain ⟨_, _, hread⟩ := List.exists_of_findSome?_eq_some hfound
    exact magnitude?_of_readBackOn hread
  · exact magnitude?_nearest hm

end Magnitude

/-! ### Reading -/

namespace Binary64

-- the number of bits is hidden, so that its power is not computed with
theorem exists_two_pow_le : ∃ bits, 1024 ≤ bits ∧ 2 ^ bits ≤ 10 ^ 310 :=
  ⟨1024, Nat.le_refl _, by decide +kernel⟩

theorem two_mul_unitsPerOne_le : 2 * Magnitude.unitsPerOne ≤ 10 ^ 330 := by decide +kernel

/-- A decimal number that is rounded to a size is less than `10 ^ 310`. -/
theorem le_of_magnitude? {d : Decimal} {m : Magnitude} (h : d.magnitude? = some m)
    (hdigits : d.digits ≠ 0) : d.exponent + digitCount d.digits ≤ 310 := by
  rw [Decimal.magnitude?_eq] at h
  have hcount := digitCount_pos hdigits
  obtain ⟨bits, hbits, hpower⟩ := exists_two_pow_le
  have hpowers : 10 ^ (digitCount d.digits - 1 + d.exponent.toNat) <
      10 ^ (310 + (-d.exponent).toNat) :=
    calc 10 ^ (digitCount d.digits - 1 + d.exponent.toNat)
        = 10 ^ (digitCount d.digits - 1) * 10 ^ d.exponent.toNat := Nat.pow_add ..
      _ ≤ d.digits * 10 ^ d.exponent.toNat := Nat.mul_le_mul_right _ (pow_digitCount_le hdigits)
      _ < 2 ^ bits * 10 ^ (-d.exponent).toNat :=
        Magnitude.lt_of_nearest? (Nat.pow_pos (by decide)) h hbits
      _ ≤ 10 ^ 310 * 10 ^ (-d.exponent).toNat := Nat.mul_le_mul_right _ hpower
      _ = 10 ^ (310 + (-d.exponent).toNat) := by rw [Nat.pow_add]
  have hlt := (Nat.pow_lt_pow_iff_right (by decide)).1 hpowers
  omega

/-- A decimal number that is rounded to a size other than zero is at least `10 ^ (-331)`. -/
theorem ge_of_magnitude? {d : Decimal} {m : Magnitude} (h : d.magnitude? = some m)
    (hm : m.significand ≠ 0) : -330 ≤ d.exponent + digitCount d.digits := by
  refine Int.not_lt.1 fun hless => hm ?_
  have hnone : d.exponent.toNat = 0 := by omega
  have hsmall : 2 * (d.digits * Magnitude.unitsPerOne) < 10 ^ (-d.exponent).toNat :=
    calc 2 * (d.digits * Magnitude.unitsPerOne)
        = d.digits * (2 * Magnitude.unitsPerOne) := Nat.mul_left_comm ..
      _ < 10 ^ digitCount d.digits * (2 * Magnitude.unitsPerOne) :=
        Nat.mul_lt_mul_of_pos_right (lt_pow_digitCount d.digits)
          (Nat.mul_pos (by decide) Magnitude.unitsPerOne_pos)
      _ ≤ 10 ^ digitCount d.digits * 10 ^ 330 := Nat.mul_le_mul_left _ two_mul_unitsPerOne_le
      _ = 10 ^ (digitCount d.digits + 330) := by rw [Nat.pow_add]
      _ ≤ 10 ^ (-d.exponent).toNat := Nat.pow_le_pow_right (by decide) (by omega)
  rw [Decimal.magnitude?_eq] at h
  simp only [hnone, Nat.pow_zero, Nat.mul_one] at h
  rw [Magnitude.nearest?_of_small hsmall] at h
  rw [← Option.some.inj h]
  rfl

theorem ofRatio_eq : @ofRatio = fun negative n d =>
    match Magnitude.nearest? n d with
    | some magnitude => .finite negative magnitude
    | none => .infinity negative := by
  delta ofRatio
  rfl

theorem ofRatio_eq_finite (negative : Bool) {n d : Nat} {m : Magnitude}
    (h : Magnitude.nearest? n d = some m) : ofRatio negative n d = .finite negative m := by
  simp only [ofRatio_eq]
  -- what is rounded is not to be computed with
  generalize Magnitude.nearest? n d = found at h
  subst h
  rfl

theorem digits_ne_zero_of_magnitude? {d : Decimal} {m : Magnitude} (h : d.magnitude? = some m)
    (hm : m.significand ≠ 0) : d.digits ≠ 0 := by
  intro hzero
  rw [Decimal.magnitude?_eq, hzero, Magnitude.nearest?_of_small] at h
  · exact hm (by rw [← Option.some.inj h]; rfl)
  · simp only [Nat.zero_mul, Nat.mul_zero]
    exact Nat.pow_pos (by decide)

/-- A decimal number that is rounded to a size other than zero is read as it. -/
theorem ofDecimal_eq_finite (negative : Bool) {d : Decimal} {m : Magnitude}
    (h : d.magnitude? = some m) (hm : m.significand ≠ 0) :
    ofDecimal negative d.digits d.exponent = .finite negative m := by
  have hdigits : d.digits ≠ 0 := digits_ne_zero_of_magnitude? h hm
  have hmost := le_of_magnitude? h hdigits
  have hleast := ge_of_magnitude? h hm
  unfold ofDecimal
  rw [if_neg hdigits, if_neg (by omega), if_neg (by omega)]
  unfold Decimal.magnitude? at h
  split at h
  · next hnonneg =>
    rw [if_pos hnonneg]
    exact ofRatio_eq_finite negative h
  · next hneg =>
    rw [if_neg hneg]
    exact ofRatio_eq_finite negative h

end Binary64

end LayerGraph.Number
