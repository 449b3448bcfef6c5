import LayerGraph.Proofs.Number.Digits
import LayerGraph.Text.Lines
import LayerGraph.Time.Date

/-! # Days and their stamps

    Days are ordered by year, month and day, and counting back leads to earlier days. So the last
    days are told by how far back they are, and no two of them are the same (`mem_lastDays?`,
    `nodup_lastDays?`). The stamp of a day tells it (`stamp_injective`). From the year 1000 on all
    stamps have the same width, so that they are ordered as texts like the days themselves
    (`stamp_lt_iff`). Before that year they are shorter than a date of four, two and two digits, and
    such a date is compared with them by the first digits of its year
    (`text_lt_stamp_iff_of_early`).
-/

namespace LayerGraph.Time

namespace Date

/-! ### The order of days -/

theorem eq_of_parts {a b : Date} (hyear : a.year = b.year) (hmonth : a.month = b.month)
    (hday : a.day = b.day) : a = b := by
  cases a
  cases b
  simp_all

/-- One day is earlier than another. -/
def IsBefore (a b : Date) : Prop :=
  a.year < b.year ∨ a.year = b.year ∧ (a.month < b.month ∨ a.month = b.month ∧ a.day < b.day)

instance (a b : Date) : Decidable (a.IsBefore b) :=
  inferInstanceAs (Decidable (_ ∨ _))

theorem IsBefore.trans {a b c : Date} (h : a.IsBefore b) (h' : b.IsBefore c) : a.IsBefore c := by
  unfold IsBefore at *
  omega

theorem not_isBefore_self (a : Date) : ¬a.IsBefore a := by
  unfold IsBefore
  omega

theorem bounds (a : Date) : 1 ≤ a.year ∧ a.year ≤ 9999 ∧ 1 ≤ a.month ∧ a.month ≤ 12 ∧
    1 ≤ a.day ∧ a.day ≤ 31 := by
  have hvalid := a.valid
  simp only [isDate, Bool.and_eq_true, decide_eq_true_eq] at hvalid
  have hmost : daysInMonth a.year a.month ≤ 31 := by
    unfold daysInMonth
    split
    · split <;> omega
    all_goals omega
  omega

theorem of?_eq_some {year month day : Nat} {a : Date} (h : of? year month day = some a) :
    a.year = year ∧ a.month = month ∧ a.day = day := by
  unfold of? at h
  split at h
  · obtain rfl := Option.some.inj h
    exact ⟨rfl, rfl, rfl⟩
  · exact absurd h nofun

/-! ### Counting back -/

theorem isBefore_of_previous? {a b : Date} (h : a.previous? = some b) : b.IsBefore a := by
  have hbounds := a.bounds
  unfold previous? at h
  unfold IsBefore
  split at h
  · obtain ⟨hyear, hmonth, hday⟩ := of?_eq_some h
    omega
  split at h
  · obtain ⟨hyear, hmonth, hday⟩ := of?_eq_some h
    omega
  · obtain ⟨hyear, hmonth, hday⟩ := of?_eq_some h
    omega

/-- Counting back may be done in two parts. -/
theorem daysBefore?_add {first : Nat} {a b : Date} (h : daysBefore? first a = some b)
    (count : Nat) : daysBefore? (first + count) a = daysBefore? count b := by
  induction first generalizing a with
  | zero =>
    obtain rfl := Option.some.inj h
    rw [Nat.zero_add]
  | succ first ih =>
    rw [Nat.succ_add, daysBefore?]
    rw [daysBefore?] at h
    cases hprevious : a.previous? with
    | none => simp [hprevious] at h
    | some earlier =>
      rw [hprevious] at h
      exact ih h

theorem daysBefore?_succ {a b : Date} (h : a.previous? = some b) (count : Nat) :
    daysBefore? (count + 1) a = daysBefore? count b := by
  rw [daysBefore?, h]

theorem isBefore_of_daysBefore? {count : Nat} {a b : Date}
    (h : daysBefore? (count + 1) a = some b) : b.IsBefore a := by
  induction count generalizing a with
  | zero =>
    cases hprevious : a.previous? with
    | none =>
      rw [daysBefore?, hprevious] at h
      exact absurd h nofun
    | some earlier =>
      rw [daysBefore?_succ hprevious] at h
      obtain rfl := Option.some.inj h
      exact isBefore_of_previous? hprevious
  | succ count ih =>
    cases hprevious : a.previous? with
    | none =>
      rw [daysBefore?, hprevious] at h
      exact absurd h nofun
    | some earlier =>
      rw [daysBefore?_succ hprevious] at h
      exact (ih h).trans (isBefore_of_previous? hprevious)

/-- The days up to a day stand behind the later ones. Each of them is so many days back, and they
    are told apart by that. -/
theorem daysUpTo?_eq_some {later dates : List Date} {count : Nat} {today : Date}
    (h : daysUpTo? later count today = some dates) : ∃ days, dates = later.reverse ++ days ∧
      days.Nodup ∧ ∀ date, date ∈ days ↔ ∃ k ≤ count, daysBefore? k today = some date := by
  induction count generalizing later today with
  | zero =>
    obtain rfl := Option.some.inj h
    refine ⟨[today], List.reverse_cons, by simp, fun date => ?_⟩
    rw [List.mem_singleton]
    constructor
    · rintro rfl
      exact ⟨0, Nat.le_refl 0, rfl⟩
    · rintro ⟨k, hk, hdate⟩
      obtain rfl := Nat.le_zero.1 hk
      exact (Option.some.inj hdate).symm
  | succ count ih =>
    cases hprevious : today.previous? with
    | none =>
      rw [daysUpTo?, hprevious] at h
      exact absurd h nofun
    | some earlier =>
      rw [daysUpTo?, hprevious] at h
      obtain ⟨days, rfl, hdistinct, hdays⟩ := ih h
      refine ⟨today :: days, by simp, List.nodup_cons.2 ⟨fun hmem => ?_, hdistinct⟩, fun date => ?_⟩
      · -- a day further back is earlier
        obtain ⟨k, _, htoday⟩ := (hdays today).1 hmem
        rw [← daysBefore?_succ hprevious] at htoday
        exact not_isBefore_self today (isBefore_of_daysBefore? htoday)
      · -- today is no day back, and any other day one more than from the day before
        rw [List.mem_cons, hdays]
        constructor
        · rintro (rfl | ⟨k, hk, hdate⟩)
          · exact ⟨0, Nat.zero_le _, rfl⟩
          · exact ⟨k + 1, Nat.succ_le_succ hk, (daysBefore?_succ hprevious k).trans hdate⟩
        · rintro ⟨k, hk, hdate⟩
          cases k with
          | zero => exact .inl (Option.some.inj hdate).symm
          | succ k =>
            rw [daysBefore?_succ hprevious] at hdate
            exact .inr ⟨k, Nat.le_of_succ_le_succ hk, hdate⟩

/-- A day is one of the last ones if it is less than so many days back. -/
def IsWithin (date : Date) (count : Nat) (today : Date) : Prop :=
  ∃ k < count, daysBefore? k today = some date

instance (date : Date) (count : Nat) (today : Date) : Decidable (date.IsWithin count today) :=
  inferInstanceAs (Decidable (∃ k < count, daysBefore? k today = some date))

theorem mem_lastDays? {count : Nat} {today : Date} {dates : List Date}
    (h : lastDays? count today = some dates) (date : Date) :
    date ∈ dates ↔ date.IsWithin count today := by
  unfold IsWithin
  unfold lastDays? at h
  split at h
  · obtain rfl := Option.some.inj h
    simp
  · obtain ⟨days, rfl, _, hdays⟩ := daysUpTo?_eq_some h
    simp only [Nat.lt_succ_iff]
    exact hdays date

theorem nodup_lastDays? {count : Nat} {today : Date} {dates : List Date}
    (h : lastDays? count today = some dates) : dates.Nodup := by
  unfold lastDays? at h
  split at h
  · obtain rfl := Option.some.inj h
    exact List.nodup_nil
  · obtain ⟨days, rfl, hdistinct, _⟩ := daysUpTo?_eq_some h
    exact hdistinct

end Date

/-! ### Rows of digits as texts -/

section rows
open Number (digitsValue IsRow isDigit)

/-- Of two texts with beginnings of the same length, the beginnings are compared first. -/
theorem append_lt_append_iff {a b x y : List Char} (h : a.length = b.length) :
    a ++ x < b ++ y ↔ a < b ∨ a = b ∧ x < y := by
  induction a generalizing b with
  | nil =>
    obtain rfl := List.length_eq_zero_iff.1 h.symm
    simp only [List.nil_append, List.not_lt_nil, false_or, true_and]
  | cons c a ih =>
    cases b with
    | nil => exact absurd h nofun
    | cons d b =>
      rw [List.cons_append, List.cons_append, List.cons_lt_cons_iff, List.cons_lt_cons_iff,
        ih (Nat.succ.inj h), List.cons.injEq]
      grind

/-- Rows of digits of the same length are ordered like their values. -/
theorem row_lt_iff {a b : List Char} (ha : ∀ d ∈ a, isDigit d = true)
    (hb : ∀ d ∈ b, isDigit d = true) (h : a.length = b.length) :
    a < b ↔ digitsValue a < digitsValue b := by
  induction a generalizing b with
  | nil =>
    obtain rfl := List.length_eq_zero_iff.1 h.symm
    exact iff_of_false (List.not_lt_nil _) (Nat.lt_irrefl _)
  | cons c a ih =>
    cases b with
    | nil => exact absurd h nofun
    | cons d b =>
      obtain ⟨hc, ha⟩ := List.forall_mem_cons.1 ha
      obtain ⟨hd, hb⟩ := List.forall_mem_cons.1 hb
      have hlength : a.length = b.length := Nat.succ.inj h
      have hcode : c < d ↔ c.toNat < d.toNat := Iff.rfl
      have hsame : c = d ↔ c.toNat = d.toNat := Char.toNat_inj.symm
      have hc := Number.le_of_isDigit hc
      have hd := Number.le_of_isDigit hd
      have hvalue := Number.digitsValue_lt ha
      have hvalue' := Number.digitsValue_lt hb
      rw [List.cons_lt_cons_iff, ih ha hb hlength, Number.digitsValue_cons, Number.digitsValue_cons,
        hcode, hsame]
      rw [hlength] at hvalue ⊢
      generalize 10 ^ b.length = power at hvalue hvalue' ⊢
      -- the first digits decide, unless they are the same
      rcases Nat.lt_trichotomy c.toNat d.toNat with hlt | heq | hgt
      · have hstep : (c.toNat - 48 + 1) * power ≤ (d.toNat - 48) * power :=
          Nat.mul_le_mul_right _ (by omega)
        rw [Nat.succ_mul] at hstep
        omega
      · rw [heq]
        omega
      · have hstep : (d.toNat - 48 + 1) * power ≤ (c.toNat - 48) * power :=
          Nat.mul_le_mul_right _ (by omega)
        rw [Nat.succ_mul] at hstep
        omega

end rows

/-! ### Stamps -/

namespace Date
open Number (digitsValue isDigit)

theorem isDigit_of_mem_padded (width n : Nat) : ∀ d ∈ padded width n, isDigit d = true := by
  unfold padded
  simp only
  rw [List.forall_mem_append]
  exact ⟨Number.isDigit_of_mem_zeros, (Number.isRow_toDigits n).digits⟩

theorem digitsValue_padded (width n : Nat) : digitsValue (padded width n) = n := by
  unfold padded
  simp only
  rw [Number.digitsValue_append, Number.digitsValue_zeros, Number.digitsValue_toDigits,
    Nat.zero_mul, Nat.zero_add]

theorem length_padded {width n : Nat} (hwidth : 0 < width) (h : n < 10 ^ width) :
    (padded width n).length = width := by
  have hle := (Nat.length_toDigits_le_iff (by decide) hwidth).2 h
  unfold padded
  simp only
  rw [List.length_append, List.length_replicate]
  omega

theorem length_toDigits_of_year {year : Nat} (hlow : 1000 ≤ year) (hhigh : year ≤ 9999) :
    (Nat.toDigits 10 year).length = 4 := by
  have hmost := (Nat.length_toDigits_le_iff (b := 10) (k := 4) (by decide) (by decide)).2
    (by omega : year < 10 ^ 4)
  have hleast := (Nat.length_toDigits_le_iff (b := 10) (n := year) (k := 3) (by decide)
    (by decide)).1
  omega

theorem toDigits_inj {m n : Nat} : Nat.toDigits 10 m = Nat.toDigits 10 n ↔ m = n := by
  refine ⟨fun h => ?_, fun h => by rw [h]⟩
  rw [← Number.digitsValue_toDigits m, h, Number.digitsValue_toDigits]

theorem padded_inj {width m n : Nat} : padded width m = padded width n ↔ m = n := by
  refine ⟨fun h => ?_, fun h => by rw [h]⟩
  rw [← digitsValue_padded width m, h, digitsValue_padded]

theorem stamp_toList (a : Date) : a.stamp.toList =
    Text.join ['-'] [Nat.toDigits 10 a.year, padded 2 a.month, padded 2 a.day] := by
  simp [stamp, Text.join]

theorem text_toList (a : Date) :
    a.text.toList = padded 4 a.year ++ '-' :: padded 2 a.month ++ '-' :: padded 2 a.day :=
  String.toList_ofList

theorem not_mem_of_digits {ds : List Char} (h : ∀ d ∈ ds, isDigit d = true) : '-' ∉ ds :=
  fun hmem => absurd (h _ hmem) (by decide)

/-- The pieces of a stamp are its three numbers. -/
theorem pieces_stamp (a : Date) : Text.pieces '-' a.stamp.toList =
    [Nat.toDigits 10 a.year, padded 2 a.month, padded 2 a.day] := by
  rw [stamp_toList]
  refine Text.pieces_join nofun ?_
  simp only [List.forall_mem_cons]
  exact ⟨not_mem_of_digits (Number.isRow_toDigits _).digits,
    not_mem_of_digits (isDigit_of_mem_padded _ _), not_mem_of_digits (isDigit_of_mem_padded _ _),
    nofun⟩

/-- A stamp tells the day. -/
theorem stamp_injective {a b : Date} (h : a.stamp = b.stamp) : a = b := by
  have hpieces := pieces_stamp a
  rw [h, pieces_stamp b] at hpieces
  injection hpieces with hyear hpieces
  injection hpieces with hmonth hpieces
  injection hpieces with hday _
  exact eq_of_parts (toDigits_inj.1 hyear).symm (padded_inj.1 hmonth).symm (padded_inj.1 hday).symm

theorem padded_lt_iff {width m n : Nat} (h : (padded width m).length = (padded width n).length) :
    padded width m < padded width n ↔ m < n := by
  rw [row_lt_iff (isDigit_of_mem_padded width m) (isDigit_of_mem_padded width n) h,
    digitsValue_padded, digitsValue_padded]

/-- Texts that begin with numbers of the same width are ordered by these first. -/
theorem padded_append_lt_iff {width m n : Nat} (hwidth : 0 < width) (hm : m < 10 ^ width)
    (hn : n < 10 ^ width) {x y : List Char} :
    padded width m ++ x < padded width n ++ y ↔ m < n ∨ m = n ∧ x < y := by
  have hlength : (padded width m).length = (padded width n).length := by
    rw [length_padded hwidth hm, length_padded hwidth hn]
  rw [append_lt_append_iff hlength, padded_lt_iff hlength, padded_inj]

/-- Dates of four, two and two digits are ordered like the days. -/
theorem text_lt_iff {a b : Date} : a.text < b.text ↔ a.IsBefore b := by
  have hbounds := a.bounds
  have hbounds' := b.bounds
  have hday : padded 2 a.day < padded 2 b.day ↔ a.day < b.day := by
    refine padded_lt_iff ?_
    rw [length_padded (by decide) (by omega), length_padded (by decide) (by omega)]
  show a.text.toList < b.text.toList ↔ _
  rw [text_toList, text_toList]
  simp only [List.append_assoc, List.cons_append]
  rw [padded_append_lt_iff (by decide) (by omega) (by omega), List.cons_lt_cons_self,
    padded_append_lt_iff (by decide) (by omega) (by omega), List.cons_lt_cons_self, hday]
  exact Iff.rfl

/-- From the year 1000 on a stamp is a date of four digits. -/
theorem text_eq_stamp {a : Date} (h : 1000 ≤ a.year) : a.text = a.stamp := by
  unfold text stamp padded
  simp only
  rw [length_toDigits_of_year h a.bounds.2.1]
  rfl

/-- From the year 1000 on the stamps of days are ordered like the days. -/
theorem stamp_lt_iff {a b : Date} (ha : 1000 ≤ a.year) (hb : 1000 ≤ b.year) :
    a.stamp < b.stamp ↔ a.IsBefore b := by
  rw [← text_eq_stamp ha, ← text_eq_stamp hb]
  exact text_lt_iff

/-! ### Early years -/

theorem length_toDigits_of_early {year : Nat} (h : year < 1000) :
    (Nat.toDigits 10 year).length < 4 :=
  Nat.lt_succ_of_le ((Nat.length_toDigits_le_iff (by decide) (by decide)).2 h)

/-- A date of four digits comes before the stamp of a day before the year 1000 exactly if the first
    digits of its year are a number before the year of the stamp. -/
theorem text_lt_stamp_iff_of_early (a : Date) {b : Date} (hb : b.year < 1000) :
    a.text < b.stamp ↔ a.year < b.year * 10 ^ (4 - (Nat.toDigits 10 b.year).length) := by
  have hbounds := a.bounds
  have hyear : (padded 4 a.year).length = 4 := length_padded (by decide) (by omega)
  have hdigits := isDigit_of_mem_padded 4 a.year
  have hvalue := digitsValue_padded 4 a.year
  have hshort := length_toDigits_of_early hb
  -- the year is cut behind as many digits as the stamp's year has
  have hcut := (List.take_append_drop (Nat.toDigits 10 b.year).length (padded 4 a.year)).symm
  generalize hfront : (padded 4 a.year).take (Nat.toDigits 10 b.year).length = front at hcut
  generalize hback : (padded 4 a.year).drop (Nat.toDigits 10 b.year).length = back at hcut
  have hfrontLength : front.length = (Nat.toDigits 10 b.year).length := by
    rw [← hfront, List.length_take]
    omega
  have hbackLength : back.length = 4 - (Nat.toDigits 10 b.year).length := by
    rw [← hback, List.length_drop, hyear]
  rw [hcut] at hdigits hvalue
  obtain ⟨hfrontDigits, hbackDigits⟩ := List.forall_mem_append.1 hdigits
  show a.text.toList < b.stamp.toList ↔ _
  rw [text_toList, stamp_toList, hcut]
  simp only [Text.join_cons_cons, List.append_assoc]
  rw [append_lt_append_iff hfrontLength,
    row_lt_iff hfrontDigits (Number.isRow_toDigits _).digits hfrontLength,
    Number.digitsValue_toDigits, ← hbackLength]
  rw [Number.digitsValue_append] at hvalue
  have hrest := Number.digitsValue_lt hbackDigits
  -- behind that a digit is compared with the dash
  have hdash : ∀ {x y : List Char}, ¬back ++ x < '-' :: y := by
    intro x y
    cases back with
    | nil => rw [List.length_nil] at hbackLength; omega
    | cons d back =>
      have hd := Number.le_of_isDigit (List.forall_mem_cons.1 hbackDigits).1
      rw [List.cons_append, List.cons_lt_cons_iff, not_or]
      refine ⟨fun hlt => ?_, fun hsame => ?_⟩
      · have hcode : d.toNat < ('-' : Char).toNat := hlt
        have hdashCode : ('-' : Char).toNat = 45 := rfl
        omega
      · have hdashCode : ('-' : Char).toNat = 45 := rfl
        rw [hsame.1] at hd
        omega
  rw [← hvalue]
  constructor
  · rintro (hlt | ⟨-, hlt⟩)
    · have hstep := Nat.mul_le_mul_right (10 ^ back.length) (Nat.succ_le_of_lt hlt)
      rw [Nat.succ_mul] at hstep
      omega
    · exact absurd hlt hdash
  · intro hlt
    refine .inl (Nat.lt_of_mul_lt_mul_right (a := 10 ^ back.length) ?_)
    omega

end Date

end LayerGraph.Time
