import LayerGraph.Proofs.Flow.Qualified

/-! # Numbers in qualified text

    A number ends in a qualified text where it ends in the text, as long as nothing is inserted into
    it (`numberLength_qualified`). A row of digits looks for a digit behind its end, an exponent
    for a sign and a digit, and an imaginary number for its mark; where they do not find it, they do
    not find it behind an insertion either.
-/

namespace LayerGraph.Flow

/-! ### Rows of digits -/

section runs
variable {p : Char → Bool}

theorem tailRun_cons {c : Char} (hc : c ≠ '_') (cs : List Char) :
    tailRun p (c :: cs) = if p c then tailRun p cs + 1 else 0 := by
  rw [tailRun.eq_def]
  split
  · next h => exact absurd (List.cons.inj h).1 hc
  · next h =>
    obtain ⟨rfl, rfl⟩ := List.cons.inj h
    rfl
  · next h => exact absurd h nofun

theorem tailRun_underscore (d : Char) (cs : List Char) :
    tailRun p ('_' :: d :: cs) = if p d then tailRun p cs + 2 else 0 := by
  rw [tailRun]

variable (hself : p 's' = false)
include hself

/-- Where no row of digits goes on, none goes on behind an insertion. -/
theorem tailRun_eq_zero {b b' : List Char} (hb : Qualified b b') (h : tailRun p b = 0) :
    tailRun p b' = 0 := by
  cases hb with
  | nil => exact h
  | insert hc rest => rw [tailRun_cons (by decide), hself, if_neg Bool.false_ne_true]
  | @keep c cs cs' rest =>
    by_cases hc : c = '_'
    · subst hc
      -- an underscore goes on only in front of a digit, and `s` is none
      cases rest with
      | nil => exact h
      | insert hd rest => rw [tailRun_underscore, hself, if_neg Bool.false_ne_true]
      | @keep d ds ds' rest =>
        rw [tailRun_underscore] at h ⊢
        split at h
        · exact absurd h (Nat.succ_ne_zero _)
        · next hd => rw [if_neg hd]
    · rw [tailRun_cons hc] at h ⊢
      split at h
      · exact absurd h (Nat.succ_ne_zero _)
      · next hd => rw [if_neg hd]

/-- A row of digits that ends in front of all insertions keeps its length. -/
theorem tailRun_qualified (hline : p '_' = false) {b b' : List Char} (hb : Qualified b b') :
    ∀ x : List Char, tailRun p (x ++ b) ≤ x.length → tailRun p (x ++ b') = tailRun p (x ++ b)
  | [], h => by
    have hzero : tailRun p b = 0 := Nat.le_zero.1 h
    exact (tailRun_eq_zero hself hb hzero).trans hzero.symm
  | c :: x, h => by
    by_cases hc : c = '_'
    · subst hc
      cases x with
      | nil =>
        -- no digit follows the underscore, since the row ends in front of the insertions
        have hzero : tailRun p ('_' :: b) = 0 := by
          cases b with
          | nil => simp [tailRun, hline]
          | cons d ds =>
            rw [List.singleton_append, tailRun_underscore] at h
            rw [tailRun_underscore]
            split at h
            · exact absurd h (by simp)
            · next hd => rw [if_neg hd]
        exact (tailRun_eq_zero hself (.keep '_' hb) hzero).trans hzero.symm
      | cons d x =>
        simp only [List.cons_append, tailRun_underscore] at h ⊢
        split at h
        · next hd => rw [if_pos hd, if_pos hd, tailRun_qualified hline hb x (by simpa using h)]
        · next hd => rw [if_neg hd, if_neg hd]
    · simp only [List.cons_append, tailRun_cons hc] at h ⊢
      split at h
      · next hd => rw [if_pos hd, if_pos hd, tailRun_qualified hline hb x (by simpa using h)]
      · next hd => rw [if_neg hd, if_neg hd]

theorem digitRun_qualified (hline : p '_' = false) {b b' : List Char} (hb : Qualified b b')
    {x : List Char} (h : digitRun p (x ++ b) ≤ x.length) :
    digitRun p (x ++ b') = digitRun p (x ++ b) := by
  cases x with
  | nil =>
    cases hb with
    | nil => rfl
    | insert hc rest =>
      have hzero := Nat.le_zero.1 h
      rw [List.nil_append] at hzero ⊢
      rw [List.nil_append, hzero, digitRun, hself, if_neg Bool.false_ne_true]
    | @keep c cs cs' rest =>
      simp only [List.nil_append, digitRun] at h ⊢
      split at h
      · exact absurd h (by simp)
      · next hc => rw [if_neg hc, if_neg hc]
  | cons c x =>
    simp only [List.cons_append, digitRun] at h ⊢
    split at h
    · next hc =>
      rw [if_pos hc, if_pos hc, tailRun_qualified hself hline hb x (by simpa using h)]
    · next hc => rw [if_neg hc, if_neg hc]

end runs

/-! ### Decimals and exponents -/

/-- A row of decimal digits that ends in front of all insertions keeps its length. -/
theorem decimals_qualified {x b b' : List Char} (hb : Qualified b b')
    (h : digitRun isDecimal (x ++ b) ≤ x.length) :
    digitRun isDecimal (x ++ b') = digitRun isDecimal (x ++ b) :=
  digitRun_qualified (by decide) (by decide) hb h

theorem decimals_eq_zero {b b' : List Char} (hb : Qualified b b')
    (h : digitRun isDecimal b = 0) : digitRun isDecimal b' = 0 :=
  (decimals_qualified (x := []) hb (Nat.le_of_eq h)).trans h

/-- The length of an exponent behind its mark. -/
def signedLength : List Char → Nat
  | sign :: digits =>
    if sign = '+' ∨ sign = '-' then
      if digitRun isDecimal digits = 0 then 0 else digitRun isDecimal digits + 2
    else if digitRun isDecimal (sign :: digits) = 0 then 0
    else digitRun isDecimal (sign :: digits) + 1
  | [] => 0

theorem exponentLength_cons (mark : Char) (rest : List Char) :
    exponentLength (mark :: rest) =
      if mark = 'e' ∨ mark = 'E' then signedLength rest else 0 := by
  cases rest <;> rfl

theorem signedLength_eq_zero {b b' : List Char} (hb : Qualified b b') (h : signedLength b = 0) :
    signedLength b' = 0 := by
  cases hb with
  | nil => exact h
  | insert hc rest => rfl
  | @keep sign ds ds' rest =>
    by_cases hsign : sign = '+' ∨ sign = '-'
    · simp only [signedLength, if_pos hsign] at h ⊢
      split at h
      · next hzero => rw [decimals_eq_zero rest hzero, if_pos rfl]
      · exact absurd h (Nat.succ_ne_zero _)
    · simp only [signedLength, if_neg hsign] at h ⊢
      split at h
      · next hzero => rw [decimals_eq_zero (.keep sign rest) hzero, if_pos rfl]
      · exact absurd h (Nat.succ_ne_zero _)

theorem signedLength_qualified {x b b' : List Char} (hb : Qualified b b')
    (h : signedLength (x ++ b) ≤ x.length + 1) :
    signedLength (x ++ b') = signedLength (x ++ b) := by
  cases x with
  | nil =>
    -- a mark and a digit at least would be two characters
    have hzero : signedLength b = 0 := by
      rw [List.nil_append] at h
      unfold signedLength at h ⊢
      split
      · next sign digits =>
        simp only [List.length_nil] at h
        split at h
        · next hsign =>
          rw [if_pos hsign]
          split at h
          · next hnone => rw [if_pos hnone]
          · omega
        · next hsign =>
          rw [if_neg hsign]
          split at h
          · next hnone => rw [if_pos hnone]
          · omega
      · rfl
    exact (signedLength_eq_zero hb hzero).trans hzero.symm
  | cons sign x =>
    simp only [List.cons_append, signedLength, List.length_cons] at h ⊢
    by_cases hsign : sign = '+' ∨ sign = '-'
    · rw [if_pos hsign] at h
      rw [if_pos hsign, if_pos hsign]
      have hle : digitRun isDecimal (x ++ b) ≤ x.length := by
        split at h <;> omega
      rw [decimals_qualified hb hle]
    · rw [if_neg hsign] at h
      rw [if_neg hsign, if_neg hsign]
      have hle : digitRun isDecimal ((sign :: x) ++ b) ≤ (sign :: x).length := by
        rw [List.cons_append, List.length_cons]
        split at h <;> omega
      have hsame := decimals_qualified hb hle
      rw [List.cons_append, List.cons_append] at hsame
      rw [hsame]

theorem exponentLength_eq_zero {b b' : List Char} (hb : Qualified b b')
    (h : exponentLength b = 0) : exponentLength b' = 0 := by
  cases hb with
  | nil => exact h
  | insert hc rest => rfl
  | @keep mark cs cs' rest =>
    rw [exponentLength_cons] at h ⊢
    split at h
    · next hmark => rw [if_pos hmark, signedLength_eq_zero rest h]
    · next hmark => rw [if_neg hmark]

/-- An exponent that ends in front of all insertions keeps its length. -/
theorem exponentLength_qualified {x b b' : List Char} (hb : Qualified b b')
    (h : exponentLength (x ++ b) ≤ x.length) :
    exponentLength (x ++ b') = exponentLength (x ++ b) := by
  cases x with
  | nil =>
    have hzero : exponentLength b = 0 := Nat.le_zero.1 h
    exact (exponentLength_eq_zero hb hzero).trans hzero.symm
  | cons mark x =>
    simp only [List.cons_append, exponentLength_cons, List.length_cons] at h ⊢
    by_cases hmark : mark = 'e' ∨ mark = 'E'
    · rw [if_pos hmark] at h
      rw [if_pos hmark, if_pos hmark, signedLength_qualified hb h]
    · rw [if_neg hmark, if_neg hmark]

/-! ### The end of a row of decimals -/

/-- Where a row of decimals ends in a qualified text: where it ends in the text, or in front of an
    insertion. -/
theorem tailRun_drop {cs cs' : List Char} (h : Qualified cs cs') :
    (tailRun isDecimal cs' = tailRun isDecimal cs ∧
      Qualified (cs.drop (tailRun isDecimal cs)) (cs'.drop (tailRun isDecimal cs'))) ∨
    ∃ rest, cs'.drop (tailRun isDecimal cs') = 's' :: rest := by
  have hself : isDecimal 's' = false := by decide
  by_cases hzero : tailRun isDecimal cs = 0
  · have hzero' := tailRun_eq_zero hself h hzero
    exact Or.inl ⟨hzero'.trans hzero.symm, by rw [hzero, hzero']; exact h⟩
  -- a digit at least is kept; where the row goes on behind it, the end is found there
  cases h with
  | nil => exact absurd rfl hzero
  | insert hc rest => exact Or.inr ⟨_, rfl⟩
  | @keep c cs cs' rest =>
    by_cases hc : c = '_'
    · subst hc
      cases rest with
      | nil => exact absurd rfl hzero
      | @insert d hd ds ds' rest =>
        rw [tailRun_underscore, isDecimal_of_isNameStart hd] at hzero
        exact absurd rfl hzero
      | @keep d ds ds' rest =>
        rw [tailRun_underscore] at hzero
        split at hzero
        · next hd =>
          simp only [tailRun_underscore, if_pos hd, List.drop_succ_cons]
          rcases tailRun_drop rest with ⟨hsame, hrest⟩ | hinserted
          · exact Or.inl ⟨by rw [hsame], hrest⟩
          · exact Or.inr hinserted
        · exact absurd rfl hzero
    · rw [tailRun_cons hc] at hzero
      split at hzero
      · next hd =>
        simp only [tailRun_cons hc, if_pos hd, List.drop_succ_cons]
        rcases tailRun_drop rest with ⟨hsame, hrest⟩ | hinserted
        · exact Or.inl ⟨by rw [hsame], hrest⟩
        · exact Or.inr hinserted
      · exact absurd rfl hzero
termination_by cs.length

/-- As `tailRun_drop`, for a row of decimals whose first character is kept. -/
theorem decimals_drop {c : Char} {cs cs' : List Char} (h : Qualified cs cs') :
    (digitRun isDecimal (c :: cs') = digitRun isDecimal (c :: cs) ∧
      Qualified ((c :: cs).drop (digitRun isDecimal (c :: cs)))
        ((c :: cs').drop (digitRun isDecimal (c :: cs')))) ∨
    ∃ rest, (c :: cs').drop (digitRun isDecimal (c :: cs')) = 's' :: rest := by
  by_cases hc : isDecimal c = true
  · simp only [digitRun, if_pos hc, List.drop_succ_cons]
    rcases tailRun_drop h with ⟨hsame, hrest⟩ | hinserted
    · exact Or.inl ⟨by rw [hsame], hrest⟩
    · exact Or.inr hinserted
  · simp only [digitRun, if_neg hc]
    exact Or.inl ⟨trivial, .keep c h⟩

/-! ### Numbers with a point or an exponent -/

/-- What stands behind the digits that begin a number with a point or an exponent. -/
def pointLength (whole : Nat) (rest : List Char) : Nat :=
  match rest with
  | '.' :: rest =>
    if whole = 0 ∧ digitRun isDecimal rest = 0 then 0
    else whole + 1 + digitRun isDecimal rest +
      exponentLength (rest.drop (digitRun isDecimal rest))
  | rest => if whole = 0 ∨ exponentLength rest = 0 then 0 else whole + exponentLength rest

theorem floatLength_eq (cs : List Char) :
    floatLength cs = pointLength (digitRun isDecimal cs) (cs.drop (digitRun isDecimal cs)) := rfl

theorem pointLength_of_ne {c : Char} (hc : c ≠ '.') (whole : Nat) (cs : List Char) :
    pointLength whole (c :: cs) =
      if whole = 0 ∨ exponentLength (c :: cs) = 0 then 0
      else whole + exponentLength (c :: cs) := by
  rw [pointLength.eq_def]
  split
  · next h => exact absurd (List.cons.inj h).1 hc
  · rfl

theorem pointLength_point (whole : Nat) (cs : List Char) :
    pointLength whole ('.' :: cs) =
      if whole = 0 ∧ digitRun isDecimal cs = 0 then 0
      else whole + 1 + digitRun isDecimal cs +
        exponentLength (cs.drop (digitRun isDecimal cs)) := rfl

/-- A number without a point or an exponent gets none. -/
theorem pointLength_eq_zero {whole : Nat} {b b' : List Char} (hb : Qualified b b')
    (h : pointLength whole b = 0) : pointLength whole b' = 0 := by
  cases hb with
  | nil => exact h
  | insert hc rest =>
    rw [pointLength_of_ne (by decide)]
    exact if_pos (Or.inr rfl)
  | @keep c cs cs' rest =>
    by_cases hc : c = '.'
    · subst hc
      rw [pointLength_point] at h ⊢
      split at h
      · next hnone => exact if_pos ⟨hnone.1, decimals_eq_zero rest hnone.2⟩
      · omega
    · rw [pointLength_of_ne hc] at h ⊢
      split at h
      · next hnone => exact if_pos (hnone.imp_right (exponentLength_eq_zero (.keep c rest)))
      · omega

theorem pointLength_qualified {whole : Nat} {x b b' : List Char} (hb : Qualified b b')
    (h : pointLength whole (x ++ b) ≤ whole + x.length) :
    pointLength whole (x ++ b') = pointLength whole (x ++ b) := by
  cases x with
  | nil =>
    -- a point or an exponent would be one character at least
    have hzero : pointLength whole b = 0 := by
      rw [List.nil_append, List.length_nil] at h
      cases b with
      | nil => exact if_pos (Or.inr rfl)
      | cons c cs =>
        by_cases hc : c = '.'
        · subst hc
          rw [pointLength_point] at h ⊢
          split at h
          · next hnone => exact if_pos hnone
          · omega
        · rw [pointLength_of_ne hc] at h ⊢
          split at h
          · next hnone => exact if_pos hnone
          · omega
    exact (pointLength_eq_zero hb hzero).trans hzero.symm
  | cons c x =>
    rw [List.length_cons] at h
    by_cases hc : c = '.'
    · subst hc
      simp only [List.cons_append, pointLength_point] at h ⊢
      have hdigits : digitRun isDecimal (x ++ b) ≤ x.length := by
        split at h <;> omega
      rw [decimals_qualified hb hdigits, List.drop_append_of_le_length hdigits,
        List.drop_append_of_le_length hdigits]
      rw [List.drop_append_of_le_length hdigits] at h
      split at h
      · next hnone => rw [if_pos hnone, if_pos hnone]
      · next hsome =>
        have hexponent : exponentLength (x.drop (digitRun isDecimal (x ++ b)) ++ b) ≤
            (x.drop (digitRun isDecimal (x ++ b))).length := by
          rw [List.length_drop]
          omega
        rw [exponentLength_qualified hb hexponent]
    · rw [List.cons_append, pointLength_of_ne hc] at h
      rw [List.cons_append, List.cons_append, pointLength_of_ne hc, pointLength_of_ne hc]
      have hle : whole = 0 ∨ exponentLength ((c :: x) ++ b) ≤ (c :: x).length := by
        rw [List.cons_append, List.length_cons]
        split at h <;> omega
      rcases hle with hzero | hle
      · rw [if_pos (Or.inl hzero), if_pos (Or.inl hzero)]
      · have hsame := exponentLength_qualified hb hle
        rw [List.cons_append, List.cons_append] at hsame
        rw [hsame]

theorem le_pointLength {whole : Nat} {cs : List Char} (h : pointLength whole cs ≠ 0) :
    whole ≤ pointLength whole cs := by
  rw [pointLength.eq_def] at h ⊢
  split
  · split
    · next hnone => simp [hnone] at h
    · omega
  · split
    · next hnone => simp [hnone] at h
    · omega

/-! ### Integers -/

section based
variable {letter capital : Char} {p : Char → Bool}

theorem basedLength_of_ne {c : Char} (hc : c ≠ '0') (cs : List Char) :
    basedLength letter capital p (c :: cs) = 0 := by
  rw [basedLength.eq_def]
  split
  · next h => exact absurd (List.cons.inj h).1 hc
  · rfl

theorem basedLength_zero (c : Char) (cs : List Char) :
    basedLength letter capital p ('0' :: c :: cs) =
      if (c = letter ∨ c = capital) ∧ tailRun p cs ≠ 0 then tailRun p cs + 2 else 0 := rfl

theorem basedLength_qualified (hletter : ¬('s' = letter ∨ 's' = capital)) (hself : p 's' = false)
    (hline : p '_' = false) {c : Char} {x b b' : List Char} (hb : Qualified b b')
    (h : basedLength letter capital p (c :: x ++ b) ≤ x.length + 1) :
    basedLength letter capital p (c :: x ++ b') = basedLength letter capital p (c :: x ++ b) := by
  by_cases hc : c = '0'
  · subst hc
    cases x with
    | nil =>
      -- the base and a digit would be two characters behind the zero
      cases hb with
      | nil => rfl
      | @insert d hd cs cs' rest =>
        simp only [List.cons_append, List.nil_append, basedLength_zero, List.length_nil] at h ⊢
        rw [if_neg (fun hs => hletter hs.1)]
        split at h
        · omega
        · next hno => rw [if_neg hno]
      | @keep d cs cs' rest =>
        simp only [List.cons_append, List.nil_append, basedLength_zero, List.length_nil] at h ⊢
        split at h
        · omega
        · next hno =>
          rw [if_neg hno, if_neg]
          exact fun hbase =>
            hno ⟨hbase.1, fun hnone => hbase.2 (tailRun_eq_zero hself rest hnone)⟩
    | cons d x =>
      simp only [List.cons_append, basedLength_zero, List.length_cons] at h ⊢
      by_cases hd : d = letter ∨ d = capital
      · have hle : tailRun p (x ++ b) ≤ x.length := by
          split at h
          · omega
          · next hno =>
            have hnone : tailRun p (x ++ b) = 0 := Decidable.of_not_not fun hsome => hno ⟨hd, hsome⟩
            omega
        rw [tailRun_qualified hself hline hb x hle]
      · rw [if_neg (fun hbase => hd hbase.1), if_neg (fun hbase => hd hbase.1)]
  · rw [List.cons_append, List.cons_append, basedLength_of_ne hc, basedLength_of_ne hc]

end based

theorem decimalLength_of_ne {c : Char} (hc : c ≠ '0') (cs : List Char) :
    decimalLength (c :: cs) = digitRun isDecimal (c :: cs) := by
  rw [decimalLength.eq_def]
  split
  · next h => exact absurd (List.cons.inj h).1 hc
  · rfl

theorem decimalLength_zero (cs : List Char) :
    decimalLength ('0' :: cs) = tailRun (· == '0') cs + 1 := rfl

theorem decimalLength_qualified {c : Char} {x b b' : List Char} (hb : Qualified b b')
    (h : decimalLength (c :: x ++ b) ≤ x.length + 1) :
    decimalLength (c :: x ++ b') = decimalLength (c :: x ++ b) := by
  by_cases hc : c = '0'
  · subst hc
    simp only [List.cons_append, decimalLength_zero] at h ⊢
    rw [tailRun_qualified (by decide) (by decide) hb x (by omega)]
  · simp only [List.cons_append, decimalLength_of_ne hc] at h ⊢
    exact decimals_qualified (x := c :: x) hb h

/-- The bases in the order in which they are tried. -/
theorem integerLength_eq (cs : List Char) :
    integerLength cs =
      if basedLength 'x' 'X' isHexadecimal cs ≠ 0 then basedLength 'x' 'X' isHexadecimal cs
      else if basedLength 'b' 'B' (fun c => c == '0' || c == '1') cs ≠ 0 then
        basedLength 'b' 'B' (fun c => c == '0' || c == '1') cs
      else if basedLength 'o' 'O' (fun c => decide ('0' ≤ c) && decide (c ≤ '7')) cs ≠ 0 then
        basedLength 'o' 'O' (fun c => decide ('0' ≤ c) && decide (c ≤ '7')) cs
      else decimalLength cs := by
  unfold integerLength
  simp only [List.find?_cons, List.find?_nil, ne_eq]
  repeat' split
  all_goals simp_all

/-- Of two lengths that are tried in turn, the one that counts stays the same if each does as far
    as it is in bounds. -/
theorem firstLength_congr {n n' m m' bound : Nat} (hn : n ≤ bound → n' = n)
    (hm : m ≤ bound → m' = m) (h : (if n ≠ 0 then n else m) ≤ bound) :
    (if n' ≠ 0 then n' else m') = if n ≠ 0 then n else m := by
  by_cases hzero : n = 0
  · subst hzero
    have hzero' : n' = 0 := hn (Nat.zero_le bound)
    subst hzero'
    simpa using hm (by simpa using h)
  · rw [if_pos hzero] at h ⊢
    rw [hn h, if_pos hzero]

theorem integerLength_qualified {c : Char} {x b b' : List Char} (hb : Qualified b b')
    (h : integerLength (c :: x ++ b) ≤ x.length + 1) :
    integerLength (c :: x ++ b') = integerLength (c :: x ++ b) := by
  rw [integerLength_eq] at h
  rw [integerLength_eq, integerLength_eq]
  -- neither `s` nor the underscore is the letter of a base or a digit of one
  refine firstLength_congr ?_ (firstLength_congr ?_ (firstLength_congr ?_ ?_)) h
  · exact basedLength_qualified (by decide) (by decide) (by decide) hb
  · exact basedLength_qualified (by decide) (by decide) (by decide) hb
  · exact basedLength_qualified (by decide) (by decide) (by decide) hb
  · exact decimalLength_qualified hb

/-! ### Numbers -/

theorem isImaginaryAt_of_lt {x b : List Char} {n : Nat} (h : n < x.length) :
    isImaginaryAt (x ++ b) n = isImaginaryAt x n := by
  unfold isImaginaryAt
  rw [List.drop_append_of_le_length (Nat.le_of_lt h), List.drop_eq_getElem_cons h]
  rfl

/-- No insertion begins with the mark of an imaginary number. -/
theorem isImaginaryAt_drop {cs cs' : List Char} {n n' : Nat}
    (h : Qualified (cs.drop n) (cs'.drop n') ∨ ∃ rest, cs'.drop n' = 's' :: rest)
    (hno : isImaginaryAt cs n = false) : isImaginaryAt cs' n' = false := by
  unfold isImaginaryAt at hno ⊢
  rcases h with hdrop | ⟨rest, hdrop⟩
  · revert hno
    generalize cs.drop n = b at hdrop ⊢
    generalize cs'.drop n' = b' at hdrop ⊢
    cases hdrop with
    | nil => exact id
    | keep c rest => exact id
    | insert hc rest => exact fun _ => rfl
  · rw [hdrop]
    rfl

theorem isImaginaryAt_qualified {x b b' : List Char} (hb : Qualified b b') {n : Nat}
    (h : n ≤ x.length) (hno : isImaginaryAt (x ++ b) n = false) :
    isImaginaryAt (x ++ b') n = false := by
  refine isImaginaryAt_drop (Or.inl ?_) hno
  rw [List.drop_append_of_le_length h, List.drop_append_of_le_length h]
  exact hb.append _

theorem integerLength_of_not_decimal {c : Char} (hc : isDecimal c = false) (cs : List Char) :
    integerLength (c :: cs) = 0 := by
  have hzero : c ≠ '0' := by
    rintro rfl
    exact absurd hc (by decide)
  rw [integerLength_eq, basedLength_of_ne hzero, basedLength_of_ne hzero, basedLength_of_ne hzero,
    decimalLength_of_ne hzero, digitRun, hc]
  rfl

theorem integerLength_ne_zero {c : Char} (hc : isDecimal c = true) (cs : List Char) :
    integerLength (c :: cs) ≠ 0 := by
  have hdecimal : decimalLength (c :: cs) ≠ 0 := by
    by_cases hzero : c = '0'
    · subst hzero
      exact Nat.succ_ne_zero _
    · rw [decimalLength_of_ne hzero, digitRun, if_pos hc]
      exact Nat.succ_ne_zero _
  rw [integerLength_eq]
  repeat' split
  all_goals assumption

theorem numberLength_eq (cs : List Char) :
    numberLength cs =
      if digitRun isDecimal cs ≠ 0 ∧ isImaginaryAt cs (digitRun isDecimal cs) = true then
        digitRun isDecimal cs + 1
      else if floatLength cs ≠ 0 then
        if isImaginaryAt cs (floatLength cs) = true then floatLength cs + 1 else floatLength cs
      else integerLength cs := rfl

/-- A number begins with a digit, or with a point and a digit. -/
theorem numberLength_eq_zero_iff (c : Char) (cs : List Char) :
    numberLength (c :: cs) = 0 ↔
      isDecimal c = false ∧ (c ≠ '.' ∨ digitRun isDecimal cs = 0) := by
  rw [numberLength_eq]
  by_cases hc : isDecimal c = true
  · have hinteger := integerLength_ne_zero hc cs
    have hne : ¬(isDecimal c = false ∧ (c ≠ '.' ∨ digitRun isDecimal cs = 0)) := by
      rw [hc]
      exact fun h => absurd h.1 nofun
    refine iff_of_false ?_ hne
    repeat' split
    all_goals omega
  · have hno : isDecimal c = false := Bool.eq_false_iff.2 hc
    have hwhole : digitRun isDecimal (c :: cs) = 0 := by
      rw [digitRun, if_neg hc]
    have hfloat : floatLength (c :: cs) = 0 ↔ c ≠ '.' ∨ digitRun isDecimal cs = 0 := by
      rw [floatLength_eq, hwhole, List.drop_zero]
      by_cases hpoint : c = '.'
      · subst hpoint
        rw [pointLength_point]
        by_cases hnone : digitRun isDecimal cs = 0
        · simp [hnone]
        · simp [hnone]
      · simp [pointLength_of_ne hpoint, hpoint]
    rw [hwhole, if_neg (fun h => h.1 rfl), integerLength_of_not_decimal hno, ← hfloat]
    -- without a digit in front of it, the number is neither imaginary nor an integer
    by_cases hzero : floatLength (c :: cs) = 0
    · simp [hzero, hno]
    · rw [if_pos hzero]
      refine iff_of_false ?_ fun h => hzero h.2
      split <;> omega

/-- What begins no number begins none in a qualified text. -/
theorem numberLength_eq_zero {c : Char} {b b' : List Char} (hb : Qualified b b')
    (h : numberLength (c :: b) = 0) : numberLength (c :: b') = 0 := by
  rw [numberLength_eq_zero_iff] at h ⊢
  exact ⟨h.1, h.2.imp_right (decimals_eq_zero hb)⟩

theorem floatLength_qualified {x b b' : List Char} (hb : Qualified b b')
    (h : floatLength (x ++ b) ≤ x.length) (hsome : floatLength (x ++ b) ≠ 0) :
    digitRun isDecimal (x ++ b) ≤ x.length ∧ floatLength (x ++ b') = floatLength (x ++ b) := by
  rw [floatLength_eq] at h hsome
  have hwhole : digitRun isDecimal (x ++ b) ≤ x.length := Nat.le_trans (le_pointLength hsome) h
  refine ⟨hwhole, ?_⟩
  rw [floatLength_eq, floatLength_eq, decimals_qualified hb hwhole,
    List.drop_append_of_le_length hwhole, List.drop_append_of_le_length hwhole]
  rw [List.drop_append_of_le_length hwhole] at h
  exact pointLength_qualified hb (by rw [List.length_drop]; omega)

section number
variable {c : Char} {x b b' : List Char} (hb : Qualified b b')
include hb

/-- An imaginary number without a point keeps its length: its mark is its last character. -/
theorem numberLength_qualified_of_imaginary
    (himaginary : digitRun isDecimal (c :: x ++ b) ≠ 0 ∧
      isImaginaryAt (c :: x ++ b) (digitRun isDecimal (c :: x ++ b)) = true)
    (hwhole : digitRun isDecimal (c :: x ++ b) = x.length) :
    numberLength (c :: x ++ b') = x.length + 1 := by
  have hle : digitRun isDecimal (c :: x ++ b) ≤ (c :: x).length := by
    rw [hwhole]
    exact Nat.le_succ _
  have hsame : digitRun isDecimal (c :: x ++ b') = x.length := by
    rw [decimals_qualified hb hle, hwhole]
  rw [hwhole, isImaginaryAt_of_lt (Nat.lt_succ_self _)] at himaginary
  rw [numberLength_eq, hsame, if_pos]
  rw [isImaginaryAt_of_lt (Nat.lt_succ_self _)]
  exact himaginary

/-- A number with a point or an exponent keeps its length. -/
theorem numberLength_qualified_of_float
    (himaginary : ¬(digitRun isDecimal (c :: x ++ b) ≠ 0 ∧
      isImaginaryAt (c :: x ++ b) (digitRun isDecimal (c :: x ++ b)) = true))
    (hfloat : floatLength (c :: x ++ b) ≠ 0)
    (h : (if isImaginaryAt (c :: x ++ b) (floatLength (c :: x ++ b)) = true then
      floatLength (c :: x ++ b) + 1 else floatLength (c :: x ++ b)) = x.length + 1) :
    numberLength (c :: x ++ b') = x.length + 1 := by
  have hle : floatLength (c :: x ++ b) ≤ (c :: x).length := by
    rw [List.length_cons]
    split at h <;> omega
  obtain ⟨hwhole, hsame⟩ := floatLength_qualified hb hle hfloat
  -- no mark comes to stand behind the digits in front of the point
  have hnot : ¬(digitRun isDecimal (c :: x ++ b') ≠ 0 ∧
      isImaginaryAt (c :: x ++ b') (digitRun isDecimal (c :: x ++ b')) = true) := by
    rw [decimals_qualified hb hwhole]
    rintro ⟨hsome, hmark⟩
    have hno : isImaginaryAt (c :: x ++ b) (digitRun isDecimal (c :: x ++ b)) = false := by
      rw [← Bool.not_eq_true]
      exact fun hmark => himaginary ⟨hsome, hmark⟩
    rw [isImaginaryAt_qualified hb hwhole hno] at hmark
    exact absurd hmark nofun
  rw [numberLength_eq, if_neg hnot, hsame, if_pos hfloat]
  split at h
  · next hmark =>
    have hlast : floatLength (c :: x ++ b) = x.length := by omega
    rw [hlast, isImaginaryAt_of_lt (Nat.lt_succ_self _)] at hmark
    rw [hlast, isImaginaryAt_of_lt (Nat.lt_succ_self _), if_pos hmark]
  · next hmark =>
    rw [isImaginaryAt_qualified hb hle (Bool.eq_false_iff.2 hmark), h]
    rfl

/-- An integer keeps its length. Digits may go on behind a row of zeros; wherever they end, neither
    a point nor an exponent nor a mark follows in the qualified text. -/
theorem numberLength_qualified_of_integer
    (himaginary : ¬(digitRun isDecimal (c :: x ++ b) ≠ 0 ∧
      isImaginaryAt (c :: x ++ b) (digitRun isDecimal (c :: x ++ b)) = true))
    (hfloat : floatLength (c :: x ++ b) = 0)
    (h : integerLength (c :: x ++ b) = x.length + 1) :
    numberLength (c :: x ++ b') = x.length + 1 := by
  have hall : Qualified (x ++ b) (x ++ b') := hb.append x
  -- an integer begins with a digit, so there is a row of digits in both texts
  have hc : isDecimal c = true := by
    rw [← Bool.not_eq_false]
    intro hdigit
    rw [List.cons_append, integerLength_of_not_decimal hdigit] at h
    omega
  have hwhole : ∀ cs, digitRun isDecimal (c :: cs) ≠ 0 := by
    intro cs
    rw [digitRun, if_pos hc]
    exact Nat.succ_ne_zero _
  have hnot : isImaginaryAt (c :: (x ++ b)) (digitRun isDecimal (c :: (x ++ b))) = false := by
    rw [← Bool.not_eq_true]
    exact fun hmark => himaginary ⟨hwhole _, hmark⟩
  -- behind the end of that row the qualified text goes on as the text does, or with an insertion
  have hnot' : isImaginaryAt (c :: (x ++ b')) (digitRun isDecimal (c :: (x ++ b'))) = false := by
    refine isImaginaryAt_drop ?_ hnot
    exact (decimals_drop hall).imp_left And.right
  have hfloat' : floatLength (c :: (x ++ b')) = 0 := by
    rw [List.cons_append, floatLength_eq] at hfloat
    rw [floatLength_eq]
    rcases decimals_drop (c := c) hall with ⟨hsame, hrest⟩ | ⟨rest, hdrop⟩
    · rw [hsame] at hrest ⊢
      exact pointLength_eq_zero hrest hfloat
    · rw [hdrop, pointLength_of_ne (by decide)]
      exact if_pos (Or.inr rfl)
  have hinteger := integerLength_qualified hb (Nat.le_of_eq h)
  rw [List.cons_append] at hinteger
  rw [numberLength_eq, List.cons_append, hnot', if_neg (fun hmark => absurd hmark.2 nofun), hfloat',
    if_neg (fun hsome => hsome rfl), hinteger, h]

/-- A number that ends in front of all insertions keeps its length. -/
theorem numberLength_qualified (h : numberLength (c :: x ++ b) = x.length + 1) :
    numberLength (c :: x ++ b') = x.length + 1 := by
  rw [numberLength_eq] at h
  by_cases himaginary : digitRun isDecimal (c :: x ++ b) ≠ 0 ∧
      isImaginaryAt (c :: x ++ b) (digitRun isDecimal (c :: x ++ b)) = true
  · rw [if_pos himaginary] at h
    exact numberLength_qualified_of_imaginary hb himaginary (Nat.add_right_cancel h)
  · rw [if_neg himaginary] at h
    by_cases hfloat : floatLength (c :: x ++ b) = 0
    · rw [if_neg (fun hsome => hsome hfloat)] at h
      exact numberLength_qualified_of_integer hb himaginary hfloat h
    · rw [if_pos hfloat] at h
      exact numberLength_qualified_of_float hb himaginary hfloat h

end number

end LayerGraph.Flow
