import LayerGraph.Json.Writer
import LayerGraph.Proofs.Json.Reads
import LayerGraph.Proofs.Number.Digits

/-! # Numbers in JSON

    A number has a whole part and may have a fraction and an exponent. It is read from the text of
    these parts, if no character that a number could go on with stands behind it
    (`readNumber_text`). All ways in which floating point numbers are laid out have such parts, and
    their decimal value is the shortest one that reads back; so every number, the special values
    included, is read back from its text (`readScalar_float`), and so is every integer within the
    digit limit (`readScalar_int`).
-/

namespace LayerGraph.Json

open Number (Binary64 Decimal Digits Magnitude IsLeading IsRow IsWhole digitsValue exponentText
  isDigit splitSign)

/-! ### Parts of a number -/

/-- No number goes on with such a text. -/
def EndsNumber (rest : List Char) : Prop :=
  ∀ c ∈ rest.head?, isDigit c = false ∧ c ≠ '.' ∧ c ≠ 'e' ∧ c ≠ 'E'

theorem EndsNumber.mark {c : Char} {rest : List Char}
    (h : isDigit c = false ∧ c ≠ '.' ∧ c ≠ 'e' ∧ c ≠ 'E') : EndsNumber (c :: rest) :=
  fun _ hc => Option.some.inj hc ▸ h

/-- The parts of a number: its whole part, the digits behind its point and its exponent. -/
structure NumberParts where
  whole : List Char
  fraction : Option (List Char)
  exponent : Option Int

namespace NumberParts

/-- The point and the digits behind it, if there is a fraction. -/
def fractionText : Option (List Char) → List Char
  | none => []
  | some digits => '.' :: digits

/-- The mark and the exponent, if there is one. -/
def exponentMark : Option Int → List Char
  | none => []
  | some exponent => 'e' :: exponentText exponent

/-- The text of a number without its sign. -/
def text (parts : NumberParts) : List Char :=
  parts.whole ++ (fractionText parts.fraction ++ exponentMark parts.exponent)

/-- The decimal number that the parts stand for. -/
def decimal (parts : NumberParts) : Decimal where
  digits := digitsValue (parts.whole ++ parts.fraction.getD [])
  exponent := parts.exponent.getD 0 - (parts.fraction.getD []).length

/-- The whole part does not begin with a zero unless this is all of it, and a fraction has
    digits. -/
structure IsProper (parts : NumberParts) : Prop where
  whole : IsWhole parts.whole
  fraction : ∀ digits ∈ parts.fraction, IsRow digits

end NumberParts

/-! ### Reading the parts -/

section parts
open NumberParts
variable {ds rest : List Char}

/-- Digits are taken up to what is none. -/
theorem span_digits (hds : ∀ d ∈ ds, isDigit d = true)
    (hrest : ∀ c ∈ rest.head?, isDigit c = false) :
    (ds ++ rest).takeWhile isDigit = ds ∧ (ds ++ rest).dropWhile isDigit = rest := by
  rw [List.takeWhile_append_of_pos hds, List.dropWhile_append_of_pos hds]
  cases rest with
  | nil => exact ⟨List.append_nil ds, rfl⟩
  | cons c rest =>
    have hc : ¬isDigit c = true := by simp [hrest c rfl]
    rw [List.takeWhile_cons_of_neg hc, List.dropWhile_cons_of_neg hc, List.append_nil]
    exact ⟨rfl, rfl⟩

theorem wholePart_append (hds : IsWhole ds) (hrest : ∀ c ∈ rest.head?, isDigit c = false) :
    wholePart (ds ++ rest) = some (ds, rest) := by
  rcases hds with rfl | hds
  · rfl
  · obtain ⟨htake, hdrop⟩ := span_digits hds.digits hrest
    unfold wholePart
    split
    · next hzero =>
      refine absurd ?_ hds.nonzero
      rw [← Number.head?_append hds.nonempty rest, hzero]
      rfl
    · simp only [htake, hdrop]
      rw [if_neg (by simp [hds.nonempty])]

theorem fractionPart_append {fraction : Option (List Char)} (h : ∀ ds ∈ fraction, IsRow ds)
    (hrest : ∀ c ∈ rest.head?, isDigit c = false ∧ c ≠ '.') :
    fractionPart (fractionText fraction ++ rest) = fraction.map (·, rest) := by
  cases fraction with
  | none =>
    cases rest with
    | nil => rfl
    | cons c rest =>
      show fractionPart (c :: rest) = none
      unfold fractionPart
      split
      · next hpoint => exact absurd (List.cons.inj hpoint).1 (hrest c rfl).2
      · rfl
  | some ds =>
    have hds := h ds rfl
    obtain ⟨htake, hdrop⟩ := span_digits hds.digits fun c hc => (hrest c hc).1
    show fractionPart ('.' :: (ds ++ rest)) = some (ds, rest)
    unfold fractionPart
    simp only [htake, hdrop]
    rw [if_neg (by simp [hds.nonempty])]

/-- The digits of an exponent. -/
theorem exists_exponentText (e : Int) : ∃ ds, IsRow ds ∧ digitsValue ds = e.natAbs ∧
    exponentText e = (if e < 0 then '-' else '+') :: ds := by
  have hdigits := Number.isRow_toDigits e.natAbs
  have hvalue := Number.digitsValue_toDigits e.natAbs
  unfold exponentText
  simp only
  by_cases hsingle : (Nat.toDigits 10 e.natAbs).length < 2
  · rw [if_pos hsingle]
    exact ⟨_, Number.isRow_append Number.isRow_zero hdigits.digits, hvalue, rfl⟩
  · rw [if_neg hsingle]
    exact ⟨_, hdigits, hvalue, rfl⟩

theorem exponentPart_append (exponent : Option Int) (hrest : EndsNumber rest) :
    exponentPart (exponentMark exponent ++ rest) = exponent.map (·, rest) := by
  cases exponent with
  | none =>
    cases rest with
    | nil => rfl
    | cons c rest =>
      obtain ⟨_, _, hsmall, hlarge⟩ := hrest c rfl
      show exponentPart (c :: rest) = none
      rw [exponentPart, if_neg (by simp [hsmall, hlarge])]
  | some e =>
    obtain ⟨ds, hds, hvalue, htext⟩ := exists_exponentText e
    obtain ⟨htake, hdrop⟩ := span_digits hds.digits fun c hc => (hrest c hc).1
    show exponentPart ('e' :: (exponentText e ++ rest)) = some (e, rest)
    have hsign : splitSign (exponentText e ++ rest) = (decide (e < 0), ds ++ rest) := by
      rw [htext]
      by_cases hneg : e < 0
      · rw [if_pos hneg, decide_eq_true hneg]
        rfl
      · rw [if_neg hneg, decide_eq_false hneg]
        rfl
    rw [exponentPart, if_pos (.inl rfl)]
    simp only [hsign, htake, hdrop, hvalue]
    rw [if_neg (by simp [hds.nonempty])]
    by_cases hneg : e < 0
    · simp only [hneg, decide_true, if_true]
      exact congrArg (fun n => some (n, rest)) (by omega)
    · simp only [hneg, decide_false, Bool.false_eq_true, if_false]
      exact congrArg (fun n => some (n, rest)) (by omega)

end parts

/-- A number is read from the text of its parts. -/
theorem readNumber_text {parts : NumberParts} (h : parts.IsProper) (negative : Bool)
    (start : List Char) {rest : List Char} (hrest : EndsNumber rest) :
    readNumber negative start (parts.text ++ rest) =
      (numberOf negative parts.whole parts.fraction parts.exponent).map (·, rest) := by
  obtain ⟨whole, fraction, exponent⟩ := parts
  obtain ⟨hwhole, hfraction⟩ := h
  -- neither of the later parts begins with what an earlier one could go on with
  have hexponent : ∀ c ∈ (NumberParts.exponentMark exponent ++ rest).head?,
      isDigit c = false ∧ c ≠ '.' := by
    cases exponent with
    | none => exact fun c hc => ⟨(hrest c hc).1, (hrest c hc).2.1⟩
    | some e =>
      intro c hc
      obtain rfl := Option.some.inj hc
      exact ⟨rfl, by decide⟩
  have hpoint : ∀ c ∈ (NumberParts.fractionText fraction ++
      (NumberParts.exponentMark exponent ++ rest)).head?, isDigit c = false := by
    cases fraction with
    | none => exact fun c hc => (hexponent c hc).1
    | some ds =>
      intro c hc
      obtain rfl := Option.some.inj hc
      rfl
  simp only [NumberParts.text, List.append_assoc]
  unfold readNumber
  rw [wholePart_append hwhole hpoint]
  simp only [fractionPart_append hfraction hexponent]
  have hafter : ((fraction.map (·, NumberParts.exponentMark exponent ++ rest)).map (·.2)).getD
      (NumberParts.fractionText fraction ++ (NumberParts.exponentMark exponent ++ rest)) =
      NumberParts.exponentMark exponent ++ rest := by
    cases fraction <;> rfl
  simp only [hafter, exponentPart_append exponent hrest]
  have hend : ((exponent.map (·, rest)).map (·.2)).getD
      (NumberParts.exponentMark exponent ++ rest) = rest := by
    cases exponent <;> rfl
  rw [hend]
  cases fraction <;> cases exponent <;> rfl

/-! ### Layouts of a floating point number -/

/-- A layout of digits with a point has proper parts, not those of an integer, and their decimal
    value is rounded like that of the digits. -/
structure IsLaidOut (d : Digits) (parts : NumberParts) : Prop where
  proper : parts.IsProper
  broken : parts.fraction ≠ none ∨ parts.exponent ≠ none
  text : d.text = parts.text
  magnitude? : parts.decimal.magnitude? = d.decimal.magnitude?

section layouts
variable {digits : List Char} {point : Int}

/-- A number below one, with its point in place. -/
theorem isLaidOut_small (h : IsLeading digits) (hlow : -4 < point) (hpoint : point ≤ 0) :
    IsLaidOut ⟨digits, point⟩
      ⟨['0'], some (List.replicate (-point).toNat '0' ++ digits), none⟩ where
  proper := by
    refine ⟨.inl rfl, fun ds hds => ?_⟩
    obtain rfl := Option.some.inj hds
    exact ⟨fun c hc => (List.mem_append.1 hc).elim (Number.isDigit_of_mem_zeros c) (h.digits c),
      List.append_ne_nil_of_right_ne_nil _ h.nonempty⟩
  broken := .inl nofun
  text := by
    unfold Digits.text
    simp only
    rw [if_pos ⟨hlow, by omega⟩, if_pos hpoint]
    simp [NumberParts.text, NumberParts.fractionText, NumberParts.exponentMark]
  magnitude? := by
    have hvalue : digitsValue (['0'] ++ (List.replicate (-point).toNat '0' ++ digits)) =
        digitsValue digits := by
      rw [Number.digitsValue_append, Number.digitsValue_append, Number.digitsValue_zeros]
      simp [digitsValue]
    have hexponent : (0 : Int) - (List.replicate (-point).toNat '0' ++ digits).length =
        point - digits.length := by
      rw [List.length_append, List.length_replicate]
      omega
    show (Decimal.mk (digitsValue _) _).magnitude? = _
    simp only [Option.getD_some, Option.getD_none, hvalue, hexponent]
    rfl

/-- A whole number, filled up with zeros. -/
theorem isLaidOut_whole (h : IsLeading digits) (hpoint : 0 < point) (hhigh : point ≤ 16)
    (hlength : (digits.length : Int) ≤ point) :
    IsLaidOut ⟨digits, point⟩
      ⟨digits ++ List.replicate (point - digits.length).toNat '0', some ['0'], none⟩ where
  proper := by
    refine ⟨.inr (h.append Number.isDigit_of_mem_zeros), fun ds hds => ?_⟩
    obtain rfl := Option.some.inj hds
    exact Number.isRow_zero
  broken := .inl nofun
  text := by
    unfold Digits.text
    simp only
    rw [if_pos ⟨by omega, hhigh⟩, if_neg (by omega), if_pos hlength]
    simp [NumberParts.text, NumberParts.fractionText, NumberParts.exponentMark]
  magnitude? := by
    generalize hzeros : (point - digits.length).toNat = zeros
    have hvalue : digitsValue (digits ++ List.replicate zeros '0' ++ ['0']) =
        digitsValue digits * 10 ^ (zeros + 1) := by
      rw [List.append_assoc, ← List.replicate_succ', Number.digitsValue_append,
        Number.digitsValue_zeros, List.length_replicate, Nat.add_zero]
    have hexponent : (0 : Int) - ([('0' : Char)].length : Nat) =
        point - digits.length - (zeros + 1 : Nat) := by
      rw [List.length_singleton]
      omega
    show (Decimal.mk (digitsValue _) _).magnitude? = _
    simp only [Option.getD_some, Option.getD_none, hvalue, hexponent]
    exact Decimal.magnitude?_shift ..

/-- A number with its point between its digits. -/
theorem isLaidOut_mixed (h : IsLeading digits) (hpoint : 0 < point) (hhigh : point ≤ 16)
    (hlength : point < digits.length) :
    IsLaidOut ⟨digits, point⟩
      ⟨digits.take point.toNat, some (digits.drop point.toNat), none⟩ where
  proper := by
    have hfront : digits.take point.toNat ≠ [] := by
      intro hnil
      rcases List.take_eq_nil_iff.1 hnil with hzero | hnone
      · omega
      · exact h.nonempty hnone
    have hback : digits.drop point.toNat ≠ [] := by
      intro hnil
      have hle := List.drop_eq_nil_iff.1 hnil
      omega
    refine ⟨.inr ⟨⟨fun c hc => h.digits c (List.mem_of_mem_take hc), hfront⟩, ?_⟩, fun ds hds => ?_⟩
    · rw [← Number.head?_append hfront (digits.drop point.toNat), List.take_append_drop]
      exact h.nonzero
    · obtain rfl := Option.some.inj hds
      exact ⟨fun c hc => h.digits c (List.mem_of_mem_drop hc), hback⟩
  broken := .inl nofun
  text := by
    unfold Digits.text
    simp only
    rw [if_pos ⟨by omega, hhigh⟩, if_neg (by omega), if_neg (by omega)]
    simp [NumberParts.text, NumberParts.fractionText, NumberParts.exponentMark]
  magnitude? := by
    have hexponent : (0 : Int) - (digits.drop point.toNat).length = point - digits.length := by
      rw [List.length_drop]
      omega
    show (Decimal.mk (digitsValue _) _).magnitude? = _
    simp only [Option.getD_some, Option.getD_none, List.take_append_drop, hexponent]
    rfl

/-- A number with an exponent. -/
theorem isLaidOut_scientific {first : Char} {rest : List Char} (h : IsLeading (first :: rest))
    (hpoint : ¬(-4 < point ∧ point ≤ 16)) :
    IsLaidOut ⟨first :: rest, point⟩
      ⟨[first], if rest = [] then none else some rest, some (point - 1)⟩ where
  proper := by
    refine ⟨.inr ⟨⟨fun c hc => h.digits c ?_, nofun⟩, h.nonzero⟩, fun ds hds => ?_⟩
    · rw [List.mem_singleton.1 hc]
      exact List.mem_cons_self
    · split at hds
      · exact absurd hds nofun
      · next hrest =>
        obtain rfl := Option.some.inj hds
        exact ⟨fun c hc => h.digits c (List.mem_cons_of_mem _ hc), hrest⟩
  broken := .inr nofun
  text := by
    unfold Digits.text
    simp only
    rw [if_neg hpoint]
    cases rest with
    | nil => rfl
    | cons second rest => rfl
  magnitude? := by
    have hfraction : (if rest = [] then none else some rest).getD [] = rest := by
      by_cases hrest : rest = []
      · rw [if_pos hrest, hrest]
        rfl
      · rw [if_neg hrest]
        rfl
    have hexponent : point - 1 - rest.length = point - (first :: rest).length := by
      rw [List.length_cons]
      omega
    show (Decimal.mk (digitsValue _) _).magnitude? = _
    simp only [hfraction, Option.getD_some, hexponent]
    rfl

/-- Digits are laid out in one of four ways, depending on where their point is. -/
theorem exists_isLaidOut (point : Int) (h : IsLeading digits) :
    ∃ parts, IsLaidOut ⟨digits, point⟩ parts := by
  by_cases hplain : -4 < point ∧ point ≤ 16
  · by_cases hsmall : point ≤ 0
    · exact ⟨_, isLaidOut_small h hplain.1 hsmall⟩
    by_cases hwhole : (digits.length : Int) ≤ point
    · exact ⟨_, isLaidOut_whole h (by omega) hplain.2 hwhole⟩
    · exact ⟨_, isLaidOut_mixed h (by omega) hplain.2 (by omega)⟩
  · obtain ⟨first, rest, rfl⟩ := List.exists_cons_of_ne_nil h.nonempty
    exact ⟨_, isLaidOut_scientific h hplain⟩

end layouts

/-! ### Floating point numbers -/

/-- A number that is no integer is a floating point number. -/
theorem numberOf_of_broken {parts : NumberParts}
    (h : parts.fraction ≠ none ∨ parts.exponent ≠ none) (negative : Bool) :
    numberOf negative parts.whole parts.fraction parts.exponent =
      .ok (.float (Binary64.ofDecimal negative parts.decimal.digits parts.decimal.exponent)) := by
  obtain ⟨whole, fraction, exponent⟩ := parts
  cases fraction with
  | none =>
    cases exponent with
    | none => exact absurd h (by simp)
    | some e => rfl
  | some ds => cases exponent <;> rfl

theorem eq_zero_of_significand {m : Magnitude} (h : m.significand = 0) : m = .zero := by
  obtain ⟨significand, exponent, hlt, hnormal, hle⟩ := m
  have hzero : significand = 0 := h
  subst hzero
  have hexponent : exponent = 0 := hnormal.resolve_right (by decide)
  subst hexponent
  rfl

/-- A size has a text of proper parts, and the number with these parts is the size. -/
theorem exists_magnitudeParts (m : Magnitude) (negative : Bool) : ∃ parts : NumberParts,
    parts.IsProper ∧ m.text = parts.text ∧
      numberOf negative parts.whole parts.fraction parts.exponent =
        .ok (.float (.finite negative m)) := by
  by_cases hm : m.significand = 0
  · obtain rfl := eq_zero_of_significand hm
    refine ⟨⟨['0'], some ['0'], none⟩, ⟨.inl rfl, fun ds hds => ?_⟩, rfl, rfl⟩
    obtain rfl := Option.some.inj hds
    exact Number.isRow_zero
  · have hshortest := Magnitude.magnitude?_shortest hm
    have hdigits := Binary64.digits_ne_zero_of_magnitude? hshortest hm
    obtain ⟨_, _, hleading⟩ := Number.exists_significant hdigits
    obtain ⟨parts, hparts⟩ := exists_isLaidOut m.shortest.significant.point hleading
    refine ⟨parts, hparts.proper, ?_, ?_⟩
    · unfold Magnitude.text
      rw [if_neg hm]
      exact hparts.text
    · rw [numberOf_of_broken hparts.broken]
      have hmagnitude := hparts.magnitude?.trans (Number.magnitude?_significant hdigits)
      rw [Binary64.ofDecimal_eq_finite negative (hmagnitude.trans hshortest) hm]

/-! ### Words and signs -/

/-- No word begins with a digit, and none with a minus before a digit. -/
theorem readWord_eq_none {c : Char} {cs : List Char} (hc : isDigit c = true)
    (h : c ∈ cs.take 2) : readWord cs = none := by
  have hwords : ∀ word ∈ words,
      2 ≤ word.1.toList.length ∧ word.1.toList.any isDigit = false := by decide
  unfold readWord
  rw [List.findSome?_eq_none_iff]
  intro word hword
  obtain ⟨hlength, hdigits⟩ := hwords word hword
  split
  · next hbegins =>
    obtain ⟨rest, rfl⟩ := List.isPrefixOf_iff_prefix.1 hbegins
    rw [List.take_append_of_le_length hlength] at h
    exact absurd hc (List.any_eq_false.1 hdigits c (List.mem_of_mem_take h))
  · rfl

/-- The text of proper parts begins with a digit. -/
theorem exists_text_eq_cons {parts : NumberParts} (h : parts.IsProper) :
    ∃ c cs, parts.text = c :: cs ∧ isDigit c = true := by
  obtain ⟨whole, fraction, exponent⟩ := parts
  rcases h.whole with rfl | hwhole
  · exact ⟨'0', _, rfl, rfl⟩
  · have hnonempty : whole ≠ [] := hwhole.nonempty
    obtain ⟨c, cs, rfl⟩ := List.exists_cons_of_ne_nil hnonempty
    exact ⟨c, _, rfl, hwhole.digits c List.mem_cons_self⟩

/-- A text with a minus in front of it, if there is one. -/
def signed (negative : Bool) (cs : List Char) : List Char := if negative then '-' :: cs else cs

/-- A number is read from its sign and the text of its parts. -/
theorem readScalar_text {parts : NumberParts} (h : parts.IsProper) (negative : Bool)
    {rest : List Char} (hrest : EndsNumber rest) :
    readScalar (signed negative parts.text ++ rest) =
      (numberOf negative parts.whole parts.fraction parts.exponent).map (·, rest) := by
  obtain ⟨c, cs, htext, hc⟩ := exists_text_eq_cons h
  have hread := readNumber_text h negative
  cases negative with
  | true =>
    have hnumber := hread ('-' :: (parts.text ++ rest)) hrest
    show readScalar ('-' :: (parts.text ++ rest)) = _
    rw [htext, List.cons_append] at hnumber ⊢
    unfold readScalar
    rw [readWord_eq_none hc (by simp)]
    exact hnumber
  | false =>
    have hnumber := hread (parts.text ++ rest) hrest
    show readScalar (parts.text ++ rest) = _
    rw [htext, List.cons_append] at hnumber ⊢
    unfold readScalar
    rw [readWord_eq_none hc (by simp)]
    simp only
    split
    · next hsign =>
      obtain ⟨rfl, _⟩ := List.cons.inj hsign
      exact absurd hc (by decide)
    · exact hnumber

/-! ### Numbers read back -/

/-- A floating point number is read back from its text. -/
theorem readScalar_float (x : Binary64) {rest : List Char} (hrest : EndsNumber rest) :
    readScalar ((floatText x).toList ++ rest) = .ok (.float x, rest) := by
  cases x with
  | nan => rfl
  | infinity negative => cases negative <;> rfl
  | finite negative m =>
    obtain ⟨parts, hproper, htext, hnumber⟩ := exists_magnitudeParts m negative
    have hread := readScalar_text hproper negative hrest
    rw [hnumber, ← htext] at hread
    show readScalar ((Binary64.finite negative m).text.toList ++ rest) = _
    rw [Binary64.text, String.toList_ofList]
    exact hread

/-- The text of an integer is its sign and its digits, of which there are not too many. -/
theorem integerText_eq_ok {n : Int} {text : List Char} (h : integerText n = .ok text) :
    text = signed (decide (n < 0)) (Nat.toDigits 10 n.natAbs) ∧
      (Nat.toDigits 10 n.natAbs).length ≤ integerDigitLimit := by
  unfold integerText LayerGraph.integerText at h
  rw [Result.mapError_eq_ok] at h
  have hpos : 0 < integerDigitLimit := by decide
  -- the limit is not to be computed with
  generalize integerDigitLimit = limit at h hpos ⊢
  split at h
  · exact absurd h nofun
  · next hshort =>
    refine ⟨?_, (Nat.length_toDigits_le_iff (by decide) hpos).2 (Nat.not_le.1 hshort)⟩
    rw [← Except.ok.inj h, signed]
    by_cases hneg : n < 0
    · rw [if_pos hneg, if_pos (decide_eq_true hneg)]
    · rw [if_neg hneg, if_neg (by simp [hneg])]

/-- An integer within the digit limit is read back from its text. -/
theorem readScalar_int {n : Int} {text : List Char} (h : integerText n = .ok text)
    {rest : List Char} (hrest : EndsNumber rest) :
    readScalar (text ++ rest) = .ok (.int n, rest) := by
  obtain ⟨rfl, hlength⟩ := integerText_eq_ok h
  have hproper : NumberParts.IsProper ⟨Nat.toDigits 10 n.natAbs, none, none⟩ :=
    ⟨Number.isWhole_toDigits _, nofun⟩
  have hread := readScalar_text hproper (decide (n < 0)) hrest
  have htext : NumberParts.text ⟨Nat.toDigits 10 n.natAbs, none, none⟩ =
      Nat.toDigits 10 n.natAbs := List.append_nil _
  rw [htext] at hread
  rw [hread]
  unfold numberOf
  simp only
  rw [if_neg (Nat.not_lt.2 hlength), Number.digitsValue_toDigits]
  have hvalue : (if decide (n < 0) = true then -(n.natAbs : Int) else (n.natAbs : Int)) = n := by
    simp only [decide_eq_true_eq]
    omega
  rw [hvalue]
  rfl

end LayerGraph.Json
