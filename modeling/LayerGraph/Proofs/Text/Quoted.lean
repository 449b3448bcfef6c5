import LayerGraph.Text.Digit
import LayerGraph.Text.Quoted
import Mathlib

/-! # Quoted text can be read back

    A literal ends with its quote, which does not stand inside it unless a backslash is in front of
    it, and every escape stands for one character. So of a text that begins with a literal it is
    clear where the literal ends and which text it stands for (`quote_append_inj`).
-/

namespace LayerGraph.Text

/-! ### Hexadecimal digits -/

theorem hexValue?_digitChar : ∀ d < 16, hexValue? (Nat.digitChar d) = some d := by decide

/-- The number that hexadecimal digits stand for. -/
def hexNumber (ds : List Char) : Nat := ds.foldl (fun n d => 16 * n + (hexValue? d).getD 0) 0

theorem hexNumber_concat (ds : List Char) (d : Char) :
    hexNumber (ds ++ [d]) = 16 * hexNumber ds + (hexValue? d).getD 0 := by
  rw [hexNumber, List.foldl_append]
  rfl

theorem hexNumber_toDigits (n : Nat) : hexNumber (Nat.toDigits 16 n) = n := by
  induction n using Nat.strongRecOn with
  | ind n ih =>
    by_cases hsmall : n < 16
    · rw [Nat.toDigits_of_lt_base hsmall, ← List.nil_append [n.digitChar], hexNumber_concat,
        hexValue?_digitChar n hsmall]
      exact Nat.zero_add n
    · rw [Nat.toDigits_of_base_le (by omega) (by omega), hexNumber_concat, ih _ (by omega),
        hexValue?_digitChar _ (Nat.mod_lt _ (by omega))]
      exact Nat.div_add_mod n 16

/-- Zeros in front of digits do not count. -/
theorem hexNumber_hexadecimal (width n : Nat) : hexNumber (hexadecimal width n) = n := by
  have hzeros (count : Nat) (ds : List Char) :
      hexNumber (List.replicate count '0' ++ ds) = hexNumber ds := by
    induction count with
    | zero => rfl
    | succ count ih =>
      rw [List.replicate_succ, List.cons_append]
      exact ih
  rw [hexadecimal, hzeros, hexNumber_toDigits]

theorem length_hexadecimal {width n : Nat} (hwidth : 0 < width) (h : n < 16 ^ width) :
    (hexadecimal width n).length = width := by
  have hle : (Nat.toDigits 16 n).length ≤ width :=
    (Nat.length_toDigits_le_iff (by decide) hwidth).2 h
  rw [hexadecimal, List.length_append, List.length_replicate]
  omega

/-! ### Escapes -/

/-- The character whose escape has this many hexadecimal digits, and what follows. -/
def unescapeCode (width : Nat) (cs : List Char) : Char × List Char :=
  (Char.ofNat (hexNumber (cs.take width)), cs.drop width)

/-- The first character inside a literal, and what follows. -/
def unescape : List Char → Option (Char × List Char)
  | [] => none
  | '\\' :: 't' :: cs => some ('\t', cs)
  | '\\' :: 'n' :: cs => some ('\n', cs)
  | '\\' :: 'r' :: cs => some ('\r', cs)
  | '\\' :: 'x' :: cs => some (unescapeCode 2 cs)
  | '\\' :: 'u' :: cs => some (unescapeCode 4 cs)
  | '\\' :: 'U' :: cs => some (unescapeCode 8 cs)
  | '\\' :: c :: cs => some (c, cs)
  | c :: cs => some (c, cs)

theorem unescapeCode_hexadecimal {width : Nat} {c : Char} (hwidth : 0 < width)
    (h : c.toNat < 16 ^ width) (rest : List Char) :
    unescapeCode width (hexadecimal width c.toNat ++ rest) = (c, rest) := by
  have hlength := length_hexadecimal hwidth h
  rw [unescapeCode, List.take_left' hlength, List.drop_left' hlength, hexNumber_hexadecimal,
    Char.ofNat_toNat]

/-- A character is read back from its escape. -/
theorem unescape_escapeChar {mark : Char} (hmark : mark = '\'' ∨ mark = '"') (c : Char)
    (rest : List Char) : unescape (escapeChar mark c ++ rest) = some (c, rest) := by
  unfold escapeChar
  split
  · next hescaped =>
    rcases hescaped with rfl | rfl
    · rcases hmark with rfl | rfl <;> rfl
    · rfl
  next hescaped =>
  rw [not_or] at hescaped
  split
  · next htab => rw [htab]; rfl
  split
  · next hbreak => rw [hbreak]; rfl
  split
  · next hreturn => rw [hreturn]; rfl
  split
  · -- a character that stands for itself is no backslash
    rw [List.singleton_append, unescape]
    all_goals
      intros
      exact absurd ‹c = '\\'› hescaped.2
  split
  · next hcode => exact congrArg some (unescapeCode_hexadecimal (by decide) hcode rest)
  split
  · next hcode => exact congrArg some (unescapeCode_hexadecimal (by decide) hcode rest)
  · have hcode : c.toNat < 16 ^ 8 := by
      rcases c.valid with hlow | ⟨_, hhigh⟩
      · exact Nat.lt_trans hlow (by decide)
      · exact Nat.lt_trans hhigh (by decide)
    exact congrArg some (unescapeCode_hexadecimal (by decide) hcode rest)

/-- No escape begins with the quote. -/
theorem exists_escapeChar_eq_cons (mark c : Char) (hmark : mark ≠ '\\') :
    ∃ first more, escapeChar mark c = first :: more ∧ first ≠ mark := by
  unfold escapeChar
  split
  · exact ⟨_, _, rfl, hmark.symm⟩
  next hescaped =>
  rw [not_or] at hescaped
  repeat' split
  all_goals first
    | exact ⟨_, _, rfl, hmark.symm⟩
    | exact ⟨_, _, rfl, hescaped.1⟩

/-! ### Literals -/

/-- The inside of a literal is read to its quote in one way only. -/
theorem escaped_append_inj {mark : Char} (hmark : mark = '\'' ∨ mark = '"')
    {cs ds r s : List Char}
    (h : cs.flatMap (escapeChar mark) ++ mark :: r = ds.flatMap (escapeChar mark) ++ mark :: s) :
    cs = ds ∧ r = s := by
  have hslash : mark ≠ '\\' := by
    rcases hmark with rfl | rfl <;> decide
  induction cs generalizing ds with
  | nil =>
    cases ds with
    | nil => exact ⟨rfl, (List.cons.inj h).2⟩
    | cons d ds =>
      obtain ⟨first, more, hfirst, hne⟩ := exists_escapeChar_eq_cons mark d hslash
      rw [List.flatMap_cons, hfirst] at h
      exact absurd (List.cons.inj h).1.symm hne
  | cons c cs ih =>
    cases ds with
    | nil =>
      obtain ⟨first, more, hfirst, hne⟩ := exists_escapeChar_eq_cons mark c hslash
      rw [List.flatMap_cons, hfirst] at h
      exact absurd (List.cons.inj h).1 hne
    | cons d ds =>
      -- both texts begin with the same character, and go on alike behind its escape
      have hread := congrArg unescape h
      rw [List.flatMap_cons, List.flatMap_cons, List.append_assoc, List.append_assoc,
        unescape_escapeChar hmark, unescape_escapeChar hmark] at hread
      obtain ⟨rfl, hrest⟩ := Prod.mk.inj (Option.some.inj hread)
      obtain ⟨rfl, hend⟩ := ih hrest
      exact ⟨rfl, hend⟩

theorem quoteFor_eq (cs : List Char) : quoteFor cs = '\'' ∨ quoteFor cs = '"' := by
  unfold quoteFor
  split
  · exact Or.inr rfl
  · exact Or.inl rfl

/-- A literal at the beginning of a text stands for one text and ends at one place. -/
theorem quote_append_inj {cs ds r s : List Char} (h : quote cs ++ r = quote ds ++ s) :
    cs = ds ∧ r = s := by
  rw [quote, quote, List.append_assoc, List.append_assoc] at h
  obtain ⟨hmark, hinside⟩ := List.cons.inj h
  rw [hmark] at hinside
  exact escaped_append_inj (quoteFor_eq ds) hinside

end LayerGraph.Text
