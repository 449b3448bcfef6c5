import LayerGraph.Number.Reading
import LayerGraph.Proofs.Number.Shortest

/-! # Rows of digits

    The value of a row of digits, and the rows that numbers are written with. The digits of a number
    begin with a zero only if the number is zero (`isWhole_toDigits`). The zeros that are left out
    at the end of the digits of a decimal number are made up for by its point
    (`magnitude?_significant`).
-/

namespace LayerGraph.Number

/-! ### Values -/

/-- Digits behind others shift those by as many places. -/
theorem digitsValue_append (front back : List Char) :
    digitsValue (front ++ back) = digitsValue front * 10 ^ back.length + digitsValue back := by
  have hstep : ∀ n : Nat, back.foldl (fun n d => 10 * n + (d.toNat - 48)) n =
      n * 10 ^ back.length + digitsValue back := by
    unfold digitsValue
    induction back with
    | nil => simp
    | cons d back ih =>
      intro n
      rw [List.foldl_cons, ih, List.foldl_cons, ih (10 * 0 + _), List.length_cons, Nat.pow_succ,
        Nat.add_mul, Nat.add_mul]
      have hshift : 10 * n * 10 ^ back.length = n * (10 ^ back.length * 10) := by
        rw [Nat.mul_comm 10, Nat.mul_assoc, Nat.mul_comm 10]
      omega
  unfold digitsValue at hstep ⊢
  rw [List.foldl_append, hstep]

theorem digitsValue_zeros (count : Nat) : digitsValue (List.replicate count '0') = 0 := by
  induction count with
  | zero => rfl
  | succ count ih => exact ih

theorem le_of_isDigit {c : Char} (h : isDigit c = true) : 48 ≤ c.toNat ∧ c.toNat ≤ 57 := by
  unfold isDigit at h
  rw [Bool.and_eq_true, decide_eq_true_eq, decide_eq_true_eq] at h
  exact h

theorem digitsValue_cons (d : Char) (ds : List Char) :
    digitsValue (d :: ds) = (d.toNat - 48) * 10 ^ ds.length + digitsValue ds := by
  rw [← List.singleton_append, digitsValue_append]
  unfold digitsValue
  simp

/-- A row of digits is less than the power of ten with as many zeros. -/
theorem digitsValue_lt {ds : List Char} (h : ∀ d ∈ ds, isDigit d = true) :
    digitsValue ds < 10 ^ ds.length := by
  induction ds with
  | nil => decide
  | cons d ds ih =>
    obtain ⟨hd, hds⟩ := List.forall_mem_cons.1 h
    have hrest := ih hds
    have hle : d.toNat - 48 ≤ 9 := by
      have hbounds := le_of_isDigit hd
      omega
    have hfirst : (d.toNat - 48) * 10 ^ ds.length ≤ 9 * 10 ^ ds.length :=
      Nat.mul_le_mul_right _ hle
    rw [digitsValue_cons, List.length_cons, Nat.pow_succ]
    omega

theorem digitsValue_toDigits (n : Nat) : digitsValue (Nat.toDigits 10 n) = n :=
  Nat.ofDigitChars_toDigits (by decide) (by decide)

/-! ### Rows -/

/-- A row of digits that is not empty. -/
structure IsRow (ds : List Char) : Prop where
  digits : ∀ d ∈ ds, isDigit d = true
  nonempty : ds ≠ []

/-- A row of digits that does not begin with a zero. -/
structure IsLeading (ds : List Char) : Prop extends IsRow ds where
  nonzero : ds.head? ≠ some '0'

/-- The digits of a whole number: a lone zero, or digits that do not begin with one. -/
def IsWhole (ds : List Char) : Prop := ds = ['0'] ∨ IsLeading ds

theorem isRow_toDigits (n : Nat) : IsRow (Nat.toDigits 10 n) where
  digits _ hd := Nat.isDigit_of_mem_toDigits (by decide) (by decide) hd
  nonempty := Nat.toDigits_ne_nil

theorem isRow_zero : IsRow ['0'] := ⟨List.forall_mem_singleton.2 (by decide), nofun⟩

theorem isRow_append {front back : List Char} (hfront : IsRow front)
    (hback : ∀ d ∈ back, isDigit d = true) : IsRow (front ++ back) where
  digits d hd := (List.mem_append.1 hd).elim (hfront.digits d) (hback d)
  nonempty := List.append_ne_nil_of_left_ne_nil hfront.nonempty back

theorem isDigit_of_mem_zeros {count : Nat} : ∀ d ∈ List.replicate count '0', isDigit d = true :=
  fun _ hd => by rw [(List.mem_replicate.1 hd).2]; rfl

theorem head?_append {front : List Char} (h : front ≠ []) (back : List Char) :
    (front ++ back).head? = front.head? := by
  obtain ⟨c, cs, rfl⟩ := List.exists_cons_of_ne_nil h
  rfl

theorem IsLeading.append {front back : List Char} (hfront : IsLeading front)
    (hback : ∀ d ∈ back, isDigit d = true) : IsLeading (front ++ back) where
  toIsRow := isRow_append hfront.toIsRow hback
  nonzero := by
    rw [head?_append hfront.nonempty]
    exact hfront.nonzero

theorem digitChar_ne_zero : ∀ d < 10, d ≠ 0 → Nat.digitChar d ≠ '0' := by decide

theorem isLeading_toDigits {n : Nat} (h : n ≠ 0) : IsLeading (Nat.toDigits 10 n) where
  toIsRow := isRow_toDigits n
  nonzero := by
    induction n using Nat.strongRecOn with
    | ind n ih =>
      by_cases hsmall : n < 10
      · rw [Nat.toDigits_of_lt_base hsmall]
        exact fun hzero => digitChar_ne_zero n hsmall h (Option.some.inj hzero)
      · rw [Nat.toDigits_of_base_le (by decide) (Nat.not_lt.1 hsmall),
          head?_append Nat.toDigits_ne_nil]
        exact ih (n / 10) (by omega) (by omega)

theorem isWhole_toDigits (n : Nat) : IsWhole (Nat.toDigits 10 n) := by
  by_cases h : n = 0
  · exact .inl (by rw [h]; rfl)
  · exact .inr (isLeading_toDigits h)

/-! ### Decimal numbers -/

/-- The decimal number that digits with a point are. -/
def Digits.decimal (d : Digits) : Decimal := ⟨digitsValue d.digits, d.point - d.digits.length⟩

/-- A text is what stands in front of the zeros at its end, and the zeros. -/
theorem exists_zeros (cs : List Char) :
    ∃ count, cs = (cs.reverse.dropWhile (· == '0')).reverse ++ List.replicate count '0' := by
  have hzeros : ∀ c ∈ cs.reverse.takeWhile (· == '0'), c = '0' :=
    fun c hc => eq_of_beq (List.all_eq_true.1 List.all_takeWhile c hc)
  refine ⟨(cs.reverse.takeWhile (· == '0')).length, ?_⟩
  rw [← List.reverse_replicate, ← List.eq_replicate_of_mem hzeros, ← List.reverse_append,
    List.takeWhile_append_dropWhile, List.reverse_reverse]

/-- The significant digits of a decimal number are its digits but for the zeros at the end. -/
theorem exists_significant {d : Decimal} (h : d.digits ≠ 0) : ∃ count,
    Nat.toDigits 10 d.digits = d.significant.digits ++ List.replicate count '0' ∧
      IsLeading d.significant.digits := by
  have hall := isLeading_toDigits h
  obtain ⟨count, hcount⟩ := exists_zeros (Nat.toDigits 10 d.digits)
  have hsplit : Nat.toDigits 10 d.digits = d.significant.digits ++ List.replicate count '0' :=
    hcount
  refine ⟨count, hsplit, ?_⟩
  rw [hsplit] at hall
  have hnonempty : d.significant.digits ≠ [] := by
    intro hnone
    -- only zeros are left, and the first digit is none
    rw [hnone, List.nil_append] at hall
    cases count with
    | zero => exact hall.nonempty rfl
    | succ count => exact hall.nonzero rfl
  refine ⟨⟨fun c hc => hall.digits c (List.mem_append_left _ hc), hnonempty⟩, ?_⟩
  rw [← head?_append hnonempty]
  exact hall.nonzero

/-- The significant digits with their point are rounded like the number. -/
theorem magnitude?_significant {d : Decimal} (h : d.digits ≠ 0) :
    d.significant.decimal.magnitude? = d.magnitude? := by
  obtain ⟨count, hsplit, _⟩ := exists_significant h
  have hdigits : d.digits = digitsValue d.significant.digits * 10 ^ count := by
    have hvalue := digitsValue_toDigits d.digits
    rwa [hsplit, digitsValue_append, digitsValue_zeros, List.length_replicate, Nat.add_zero,
      eq_comm] at hvalue
  have hpoint : d.significant.point = d.exponent + (d.significant.digits.length + count : Nat) := by
    have hlength := congrArg List.length hsplit
    rw [List.length_append, List.length_replicate] at hlength
    rw [← hlength]
    rfl
  have hexponent : d.significant.point - d.significant.digits.length - count = d.exponent := by
    omega
  unfold Digits.decimal
  rw [← Decimal.magnitude?_shift _ count, ← hdigits, hexponent]

end LayerGraph.Number
