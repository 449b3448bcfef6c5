import LayerGraph.Json.Reader
import LayerGraph.Proofs.Result

/-! # Steps of the reader of JSON

    The reader counts its steps, and strings remember where they began. What is read depends on
    neither, as long as there are steps enough. So `Reads cs v rest` says that the value `v` is read
    in front of `rest`, whatever number of steps above twice the length of the text is allowed, and
    each form of a value has its rule. All that is read from the text of a value is shown by these
    rules.
-/

namespace LayerGraph.Json

open Number (isDigit splitSign)

/-! ### Blanks -/

theorem skipBlanks_cons {c : Char} {cs : List Char} (h : isBlank c = false) :
    skipBlanks (c :: cs) = c :: cs := by
  unfold skipBlanks
  rw [List.dropWhile_cons_of_neg (by simp [h])]

theorem length_skipBlanks_le (cs : List Char) : (skipBlanks cs).length ≤ cs.length :=
  (List.dropWhile_suffix isBlank).length_le

/-- What comes behind a mark that stands behind blanks is shorter by more than the mark. -/
theorem length_lt_of_skipBlanks {cs rest : List Char} {c : Char}
    (h : skipBlanks cs = c :: rest) : rest.length < cs.length := by
  have hle := length_skipBlanks_le cs
  rw [h, List.length_cons] at hle
  omega

/-- The same with the blanks behind the mark left out as well. -/
theorem length_skipBlanks_lt {cs rest : List Char} {c : Char} (h : skipBlanks cs = c :: rest) :
    (skipBlanks rest).length < cs.length :=
  Nat.lt_of_le_of_lt (length_skipBlanks_le rest) (length_lt_of_skipBlanks h)

/-! ### Steps -/

/-- Every reader takes a step before anything else, so what is read with a step and enough others
    is read with more than enough. -/
theorem of_step {α : Type} {reader : Nat → Except Error α} {found : α} {enough : Nat}
    (h : ∀ fuel, enough ≤ fuel → reader (fuel + 1) = .ok found) :
    ∀ fuel, enough < fuel → reader fuel = .ok found := by
  intro fuel hfuel
  cases fuel with
  | zero => exact absurd hfuel (Nat.not_lt_zero _)
  | succ fuel => exact h fuel (Nat.le_of_lt_succ hfuel)

/-! ### Escapes -/

theorem exists_of_readUnit {cs rest : List Char} {u : Nat} (hread : readUnit cs = some (u, rest)) :
    ∃ a b c d next more, cs = a :: b :: c :: d :: next :: more ∧ rest = next :: more ∧
      ∃ w x y z, Text.hexValue? a = some w ∧ Text.hexValue? b = some x ∧
        Text.hexValue? c = some y ∧ Text.hexValue? d = some z ∧
        u = ((w * 16 + x) * 16 + y) * 16 + z := by
  unfold readUnit at hread
  split at hread
  · next a b c d next more =>
    split at hread
    · next w x y z hw hx hy hz =>
      obtain ⟨rfl, rfl⟩ := Prod.mk.inj (Option.some.inj hread)
      exact ⟨a, b, c, d, next, more, rfl, rfl, w, x, y, z, hw, hx, hy, hz, rfl⟩
    · exact absurd hread nofun
  · exact absurd hread nofun

theorem length_of_readUnit {cs rest : List Char} {u : Nat} (hread : readUnit cs = some (u, rest)) :
    cs.length = rest.length + 4 ∧ 5 ≤ cs.length := by
  obtain ⟨a, b, c, d, next, more, rfl, rfl, _⟩ := exists_of_readUnit hread
  constructor
  · rfl
  · simp only [List.length_cons]
    omega

/-- A high surrogate is completed by a low one in an escape of its own. -/
theorem readPartner_eq_ok {high : Nat} {cs after : List Char} {c : Char} :
    readPartner high cs = .ok (c, after) ↔
      ∃ digits low, cs = '\\' :: 'u' :: digits ∧ readUnit digits = some (low, after) ∧
        isLowSurrogate low = true ∧ c = pairChar high low := by
  constructor
  · intro h
    unfold readPartner at h
    split at h
    · next digits =>
      split at h
      · next low more hunit =>
        split at h
        · next hlow =>
          obtain ⟨rfl, rfl⟩ := Prod.mk.inj (Except.ok.inj h)
          exact ⟨digits, low, rfl, hunit, hlow, rfl⟩
        · cases h
      · cases h
    · cases h
  · rintro ⟨digits, low, rfl, hunit, hlow, hc⟩
    rw [readPartner, hunit, hc]
    exact if_pos hlow

theorem unitChar_eq_ok {u : Nat} {c : Char} :
    unitChar u = .ok c ↔ isLowSurrogate u = false ∧ c = Char.ofNat u := by
  unfold unitChar
  split
  · next hlow => simp [hlow]
  · next hlow => simp [hlow, eq_comm]

/-- An escape is a code unit behind a `u`, or a letter that stands for a character. Where the string
    began does not matter. -/
theorem readEscape_eq_ok {start cs after : List Char} {c : Char} :
    readEscape start cs = .ok (c, after) ↔
      (∃ digits u behind, cs = 'u' :: digits ∧ readUnit digits = some (u, behind) ∧
        (if isHighSurrogate u then readPartner u behind
          else (unitChar u).map fun c => (c, behind)) = .ok (c, after)) ∨
      ∃ letter, cs = letter :: after ∧ simpleEscape? letter = some c := by
  constructor
  · intro h
    unfold readEscape at h
    split at h
    · cases h
    · next digits =>
      split at h
      · cases h
      · next u behind hunit => exact Or.inl ⟨digits, u, behind, rfl, hunit, h⟩
    · next letter more _ =>
      split at h
      · next plain hplain =>
        obtain ⟨rfl, rfl⟩ := Prod.mk.inj (Except.ok.inj h)
        exact Or.inr ⟨letter, rfl, hplain⟩
      · cases h
  · rintro (⟨digits, u, behind, rfl, hunit, hu⟩ | ⟨letter, rfl, hplain⟩)
    · rw [readEscape, hunit]
      exact hu
    · have hletter : letter ≠ 'u' := by
        rintro rfl
        cases hplain
      rw [readEscape]
      · rw [hplain]
      · exact hletter

/-- What is left behind an escape is shorter. -/
theorem length_of_readEscape {start cs after : List Char} {c : Char}
    (h : readEscape start cs = .ok (c, after)) : after.length < cs.length := by
  rcases readEscape_eq_ok.1 h with ⟨digits, u, behind, rfl, hunit, hu⟩ | ⟨letter, rfl, _⟩
  · have hbehind := (length_of_readUnit hunit).1
    have hle : after.length ≤ behind.length := by
      split at hu
      · obtain ⟨more, low, rfl, hlow, _⟩ := readPartner_eq_ok.1 hu
        have hpartner := (length_of_readUnit hlow).1
        simp only [List.length_cons]
        omega
      · obtain ⟨_, _, hu⟩ := Result.map_eq_ok.1 hu
        obtain ⟨_, rfl⟩ := Prod.mk.inj hu
        exact Nat.le_refl _
    rw [List.length_cons]
    omega
  · exact Nat.lt_succ_self _

/-! ### Strings -/

/-- The characters of a string are read, up to its closing quote and in front of `rest`. -/
structure ReadsChars (cs chars rest : List Char) : Prop where
  shorter : rest.length < cs.length
  read : ∀ start fuel, cs.length < fuel → readChars start fuel cs = .ok (chars, rest)

namespace ReadsChars

theorem close (rest : List Char) : ReadsChars ('"' :: rest) [] rest where
  shorter := Nat.lt_succ_self _
  read _ := of_step fun _ _ => rfl

/-- A character that is no control character stands for itself. -/
theorem plain {c : Char} {cs chars rest : List Char} (hquote : c ≠ '"') (hslash : c ≠ '\\')
    (hplain : 32 ≤ c.toNat) (h : ReadsChars cs chars rest) :
    ReadsChars (c :: cs) (c :: chars) rest where
  shorter := Nat.lt_succ_of_lt h.shorter
  read start := of_step fun fuel hfuel => by
    have hcontrol : ¬c.toNat < 32 := Nat.not_lt.2 hplain
    have hrest := h.read start fuel hfuel
    rw [readChars]
    · rw [if_neg hcontrol, hrest]
      rfl
    · exact fun hsame => hquote hsame
    · exact fun hsame => hslash hsame

theorem escape {c : Char} {cs after chars rest : List Char}
    (hescape : ∀ start, readEscape start cs = .ok (c, after)) (h : ReadsChars after chars rest) :
    ReadsChars ('\\' :: cs) (c :: chars) rest where
  shorter := Nat.lt_trans h.shorter (Nat.lt_succ_of_lt (length_of_readEscape (hescape [])))
  read start := of_step fun fuel hfuel => by
    have hshorter := length_of_readEscape (hescape start)
    rw [List.length_cons] at hfuel
    have hrest := h.read start fuel (by omega)
    rw [readChars, hescape]
    simp only [bind, Except.bind]
    rw [hrest]
    rfl

theorem readString {cs chars rest : List Char} (h : ReadsChars cs chars rest) :
    readString cs = .ok (String.ofList chars, rest) := by
  unfold Json.readString
  rw [h.read _ _ (Nat.lt_succ_self _)]
  rfl

end ReadsChars

/-! ### Values -/

/-- A value is read in front of `rest`. -/
structure Reads (cs : List Char) (v : Value) (rest : List Char) : Prop where
  shorter : rest.length < cs.length
  read : ∀ fuel, 2 * cs.length < fuel → readValue fuel cs = .ok (v, rest)

/-- The items of a list are read, up to its closing bracket and in front of `rest`. -/
structure ReadsItems (cs : List Char) (vs : List Value) (rest : List Char) : Prop where
  shorter : rest.length < cs.length
  read : ∀ fuel, 2 * cs.length + 1 < fuel → readItems fuel cs = .ok (vs, rest)

/-- The members of an object are read behind those that are known, up to its closing brace and in
    front of `rest`. -/
structure ReadsMembers (cs : List Char) (known members : Entries) (rest : List Char) : Prop where
  shorter : rest.length < cs.length
  read : ∀ fuel, 2 * cs.length + 1 < fuel → readMembers fuel cs known = .ok (members, rest)

/-- Whether a character begins a string, a list or an object. -/
def isOpening (c : Char) : Bool := c == '"' || c == '[' || c == '\x7b'

/-- A word or a number. -/
def readScalar (cs : List Char) : Except Error (Value × List Char) :=
  match readWord cs with
  | some found => .ok found
  | none =>
    match cs with
    | '-' :: after => readNumber true cs after
    | _ => readNumber false cs cs

/-- What begins with no quote, bracket or brace is a word or a number. -/
theorem readValue_scalar {c : Char} {cs : List Char} (fuel : Nat) (h : isOpening c = false) :
    readValue (fuel + 1) (c :: cs) = readScalar (c :: cs) := by
  unfold isOpening at h
  simp only [Bool.or_eq_false_iff, beq_eq_false_iff_ne, ne_eq] at h
  obtain ⟨⟨hquote, hbracket⟩, hbrace⟩ := h
  rw [readValue.eq_def]
  split
  · next hzero => exact absurd hzero (Nat.succ_ne_zero fuel)
  · next hsame => exact absurd (List.cons.inj hsame).1 hquote
  · next hsame => exact absurd (List.cons.inj hsame).1 hbracket
  · next hsame => exact absurd (List.cons.inj hsame).1 hbrace
  · rfl

/-- No value begins with a closing bracket. -/
theorem readValue_closing (fuel : Nat) (cs : List Char) :
    readValue fuel (']' :: cs) = failAt .expectedValue (']' :: cs) := by
  cases fuel with
  | zero => rfl
  | succ fuel =>
    rw [readValue_scalar fuel (by decide)]
    rfl

/-! ### Words and numbers -/

theorem length_of_readWord {cs rest : List Char} {v : Value} (h : readWord cs = some (v, rest)) :
    rest.length < cs.length := by
  obtain ⟨word, hword, hfound⟩ := List.exists_of_findSome?_eq_some h
  have hfilled : 0 < word.1.length := by
    have hall : ∀ word ∈ words, 0 < word.1.length := by decide
    exact hall word hword
  split at hfound
  · next hbegins =>
    obtain ⟨_, rfl⟩ := Prod.mk.inj (Option.some.inj hfound)
    have hle := (List.isPrefixOf_iff_prefix.1 hbegins).length_le
    rw [String.length_toList] at hle
    rw [List.length_drop]
    omega
  · exact absurd hfound nofun

/-- Digits that are taken from a text leave the rest of it. -/
theorem length_dropWhile_isDigit (cs : List Char) :
    (cs.takeWhile isDigit).length + (cs.dropWhile isDigit).length = cs.length := by
  rw [← List.length_append, List.takeWhile_append_dropWhile]

theorem length_of_wholePart {cs whole rest : List Char} (h : wholePart cs = some (whole, rest)) :
    rest.length < cs.length := by
  unfold wholePart at h
  split at h
  · obtain ⟨_, rfl⟩ := Prod.mk.inj (Option.some.inj h)
    exact Nat.lt_succ_self _
  · dsimp only at h
    split at h
    · exact absurd h nofun
    · next hdigits =>
      obtain ⟨_, rfl⟩ := Prod.mk.inj (Option.some.inj h)
      have hpos : 0 < (cs.takeWhile isDigit).length :=
        List.length_pos_iff.2 fun hnil => hdigits (by rw [hnil]; rfl)
      have hsum := length_dropWhile_isDigit cs
      omega

theorem length_of_fractionPart {cs digits rest : List Char}
    (h : fractionPart cs = some (digits, rest)) : rest.length ≤ cs.length := by
  unfold fractionPart at h
  split at h
  · next cs =>
    dsimp only at h
    split at h
    · exact absurd h nofun
    · obtain ⟨_, rfl⟩ := Prod.mk.inj (Option.some.inj h)
      have hsum := length_dropWhile_isDigit cs
      rw [List.length_cons]
      omega
  · exact absurd h nofun

theorem length_splitSign_le (cs : List Char) : (splitSign cs).2.length ≤ cs.length := by
  unfold splitSign
  split
  · exact Nat.le_succ _
  · exact Nat.le_succ _
  · exact Nat.le_refl _

theorem length_of_exponentPart {cs rest : List Char} {n : Int}
    (h : exponentPart cs = some (n, rest)) : rest.length ≤ cs.length := by
  unfold exponentPart at h
  split at h
  · next c cs =>
    split at h
    · dsimp only at h
      split at h
      · exact absurd h nofun
      · obtain ⟨_, rfl⟩ := Prod.mk.inj (Option.some.inj h)
        have hsum := length_dropWhile_isDigit (splitSign cs).2
        have hle := length_splitSign_le cs
        rw [List.length_cons]
        omega
    · exact absurd h nofun
  · exact absurd h nofun

/-- What stands behind a part that may be left out is no longer. -/
theorem length_getD_le {α : Type} {part : Option (α × List Char)} {cs : List Char}
    (h : ∀ a rest, part = some (a, rest) → rest.length ≤ cs.length) :
    ((part.map (·.2)).getD cs).length ≤ cs.length := by
  cases part with
  | none => exact Nat.le_refl _
  | some found => exact h found.1 found.2 rfl

theorem length_of_readNumber {negative : Bool} {start cs rest : List Char} {v : Value}
    (h : readNumber negative start cs = .ok (v, rest)) : rest.length < cs.length := by
  unfold readNumber at h
  split at h
  · exact absurd h nofun
  · next whole afterWhole hwhole =>
    obtain ⟨_, _, hpair⟩ := Result.map_eq_ok.1 h
    obtain ⟨_, rfl⟩ := Prod.mk.inj hpair
    have hfraction : (((fractionPart afterWhole).map (·.2)).getD afterWhole).length ≤
        afterWhole.length := length_getD_le fun _ _ => length_of_fractionPart
    calc _ ≤ _ := length_getD_le fun _ _ => length_of_exponentPart
      _ ≤ afterWhole.length := hfraction
      _ < cs.length := length_of_wholePart hwhole

theorem length_of_readScalar {cs rest : List Char} {v : Value}
    (h : readScalar cs = .ok (v, rest)) : rest.length < cs.length := by
  unfold readScalar at h
  split at h
  · next hword => exact length_of_readWord (hword.trans (congrArg some (Except.ok.inj h)))
  · split at h
    · exact Nat.lt_succ_of_lt (length_of_readNumber h)
    · exact length_of_readNumber h

namespace Reads

theorem string {cs chars rest : List Char} (h : ReadsChars cs chars rest) :
    Reads ('"' :: cs) (.str (String.ofList chars)) rest where
  shorter := Nat.lt_succ_of_lt h.shorter
  read := of_step fun fuel _ => by
    rw [readValue_quote, h.readString]
    rfl

theorem scalar {c : Char} {cs rest : List Char} {v : Value} (hopening : isOpening c = false)
    (h : readScalar (c :: cs) = .ok (v, rest)) : Reads (c :: cs) v rest where
  shorter := length_of_readScalar h
  read := of_step fun fuel _ => by
    rw [readValue_scalar fuel hopening, h]

theorem emptyList {cs rest : List Char} (h : skipBlanks cs = ']' :: rest) :
    Reads ('[' :: cs) (.list []) rest where
  shorter := Nat.lt_succ_of_lt (length_lt_of_skipBlanks h)
  read := of_step fun fuel _ => by
    rw [readValue_bracket, h]
    rfl

theorem emptyMap {cs rest : List Char} (h : skipBlanks cs = '\x7d' :: rest) :
    Reads ('\x7b' :: cs) (.map []) rest where
  shorter := Nat.lt_succ_of_lt (length_lt_of_skipBlanks h)
  read := of_step fun fuel _ => by
    rw [readValue_brace, h]
    rfl

theorem list {cs rest : List Char} {vs : List Value} (h : ReadsItems (skipBlanks cs) vs rest) :
    Reads ('[' :: cs) (.list vs) rest where
  shorter := calc
    rest.length < (skipBlanks cs).length := h.shorter
    _ ≤ cs.length := length_skipBlanks_le cs
    _ < cs.length + 1 := Nat.lt_succ_self _
  read := of_step fun fuel hfuel => by
    have hle := length_skipBlanks_le cs
    rw [List.length_cons] at hfuel
    have hitems := h.read fuel (by omega)
    -- the items do not begin with the closing bracket
    have hopen : ∀ after, skipBlanks cs ≠ ']' :: after := by
      intro after hclosing
      have hlong := h.read (2 * (skipBlanks cs).length + 2) (by omega)
      rw [hclosing, readItems_succ, readValue_closing] at hlong
      exact absurd hlong nofun
    rw [readValue_bracket]
    split
    · next after hclosing => exact absurd hclosing (hopen after)
    · rw [hitems]
      rfl

theorem map {cs rest : List Char} {members : Entries}
    (h : ReadsMembers (skipBlanks cs) [] members rest) :
    Reads ('\x7b' :: cs) (.ofEntries members) rest where
  shorter := calc
    rest.length < (skipBlanks cs).length := h.shorter
    _ ≤ cs.length := length_skipBlanks_le cs
    _ < cs.length + 1 := Nat.lt_succ_self _
  read := of_step fun fuel hfuel => by
    have hle := length_skipBlanks_le cs
    rw [List.length_cons] at hfuel
    have hmembers := h.read fuel (by omega)
    -- the members do not begin with the closing brace
    have hopen : ∀ after, skipBlanks cs ≠ '\x7d' :: after := by
      intro after hclosing
      have hlong := h.read (2 * (skipBlanks cs).length + 2) (by omega)
      rw [hclosing] at hlong
      exact absurd hlong nofun
    rw [readValue_brace]
    split
    · next after hclosing => exact absurd hclosing (hopen after)
    · rw [hmembers]
      rfl

end Reads

/-! ### Items and members -/

namespace ReadsItems

theorem last {cs rest after : List Char} {v : Value} (h : Reads cs v rest)
    (hclose : skipBlanks rest = ']' :: after) : ReadsItems cs [v] after where
  shorter := Nat.lt_trans (length_lt_of_skipBlanks hclose) h.shorter
  read := of_step fun fuel hfuel => by
    rw [readItems_succ, h.read fuel (by omega)]
    simp only [bind, Except.bind, hclose]
    rfl

theorem cons {cs rest more after : List Char} {v : Value} {vs : List Value} (h : Reads cs v rest)
    (hcomma : skipBlanks rest = ',' :: more) (hmore : ReadsItems (skipBlanks more) vs after) :
    ReadsItems cs (v :: vs) after where
  shorter := calc
    after.length < (skipBlanks more).length := hmore.shorter
    _ < rest.length := length_skipBlanks_lt hcomma
    _ < cs.length := h.shorter
  read := of_step fun fuel hfuel => by
    have hlt := length_skipBlanks_lt hcomma
    have hvalue := h.shorter
    rw [readItems_succ, h.read fuel (by omega)]
    simp only [bind, Except.bind, hcomma]
    rw [hmore.read fuel (by omega)]
    rfl

end ReadsItems

namespace ReadsMembers
variable {cs chars afterKey afterColon afterValue rest more : List Char} {v : Value}
  {known members : Entries}

/-- What comes behind a member is shorter than what comes behind the first quote of its key. -/
theorem length_lt_of_member (hkey : ReadsChars cs chars afterKey)
    (hcolon : skipBlanks afterKey = ':' :: afterColon)
    (hvalue : Reads (skipBlanks afterColon) v afterValue) : afterValue.length < cs.length := calc
  afterValue.length < (skipBlanks afterColon).length := hvalue.shorter
  _ < afterKey.length := length_skipBlanks_lt hcolon
  _ < cs.length := hkey.shorter

theorem last (hkey : ReadsChars cs chars afterKey)
    (hcolon : skipBlanks afterKey = ':' :: afterColon)
    (hvalue : Reads (skipBlanks afterColon) v afterValue)
    (hclose : skipBlanks afterValue = '\x7d' :: rest) :
    ReadsMembers ('"' :: cs) known (setMember known (String.ofList chars) v) rest where
  shorter := calc
    rest.length < afterValue.length := length_lt_of_skipBlanks hclose
    _ < cs.length := length_lt_of_member hkey hcolon hvalue
    _ < cs.length + 1 := Nat.lt_succ_self _
  read := of_step fun fuel hfuel => by
    have hlt := length_skipBlanks_lt hcolon
    have hshorter := hkey.shorter
    rw [List.length_cons] at hfuel
    rw [readMembers_quote, hkey.readString]
    simp only [bind, Except.bind, hcolon]
    rw [hvalue.read fuel (by omega)]
    simp only [hclose]
    rfl

theorem cons (hkey : ReadsChars cs chars afterKey)
    (hcolon : skipBlanks afterKey = ':' :: afterColon)
    (hvalue : Reads (skipBlanks afterColon) v afterValue)
    (hcomma : skipBlanks afterValue = ',' :: more)
    (hmore : ReadsMembers (skipBlanks more) (setMember known (String.ofList chars) v) members
      rest) :
    ReadsMembers ('"' :: cs) known members rest where
  shorter := calc
    rest.length < (skipBlanks more).length := hmore.shorter
    _ < afterValue.length := length_skipBlanks_lt hcomma
    _ < cs.length := length_lt_of_member hkey hcolon hvalue
    _ < cs.length + 1 := Nat.lt_succ_self _
  read := of_step fun fuel hfuel => by
    have hlt := length_skipBlanks_lt hcolon
    have hlt' := length_skipBlanks_lt hcomma
    have hshorter := hkey.shorter
    have hmember := length_lt_of_member hkey hcolon hvalue
    rw [List.length_cons] at hfuel
    rw [readMembers_quote, hkey.readString]
    simp only [bind, Except.bind, hcolon]
    rw [hvalue.read fuel (by omega)]
    simp only [hcomma]
    exact hmore.read fuel (by omega)

end ReadsMembers

/-! ### Beginnings -/

/-- A character that begins no string, list or object, and no word or number either. -/
theorem readValue_ne_ok {fuel : Nat} {c : Char} {cs rest : List Char} {v : Value}
    (hopening : isOpening c = false)
    (hscalar : readScalar (c :: cs) = failAt .expectedValue (c :: cs)) :
    readValue fuel (c :: cs) ≠ .ok (v, rest) := by
  cases fuel with
  | zero => exact nofun
  | succ fuel =>
    rw [readValue_scalar fuel hopening, hscalar]
    exact nofun

/-- A value begins with neither a blank nor a byte order mark. -/
theorem exists_head_of_readValue {fuel : Nat} {cs rest : List Char} {v : Value}
    (h : readValue fuel cs = .ok (v, rest)) :
    ∃ c more, cs = c :: more ∧ isBlank c = false ∧ c ≠ '\uFEFF' := by
  cases cs with
  | nil =>
    cases fuel with
    | zero => exact absurd h nofun
    | succ fuel => exact absurd h nofun
  | cons c more =>
    refine ⟨c, more, rfl, ?_, ?_⟩
    · rw [← Bool.not_eq_true]
      intro hblank
      unfold isBlank at hblank
      simp only [Bool.or_eq_true, beq_iff_eq] at hblank
      rcases hblank with ((rfl | rfl) | rfl) | rfl <;>
        exact readValue_ne_ok (by decide) rfl h
    · rintro rfl
      exact readValue_ne_ok (by decide) rfl h

/-- No blanks are skipped in front of a value. -/
theorem skipBlanks_of_readValue {fuel : Nat} {cs rest : List Char} {v : Value}
    (h : readValue fuel cs = .ok (v, rest)) : skipBlanks cs = cs := by
  obtain ⟨c, more, rfl, hblank, _⟩ := exists_head_of_readValue h
  exact skipBlanks_cons hblank

theorem Reads.skipBlanks_eq {cs rest : List Char} {v : Value} (h : Reads cs v rest) :
    skipBlanks cs = cs :=
  skipBlanks_of_readValue (h.read _ (Nat.lt_succ_self _))

theorem ReadsItems.skipBlanks_eq {cs rest : List Char} {vs : List Value}
    (h : ReadsItems cs vs rest) : skipBlanks cs = cs := by
  have hitems := h.read _ (Nat.lt_succ_self _)
  rw [readItems_succ] at hitems
  obtain ⟨_, hvalue, _⟩ := Result.bind_eq_ok.1 hitems
  exact skipBlanks_of_readValue hvalue

theorem ReadsMembers.skipBlanks_eq {cs rest : List Char} {known members : Entries}
    (h : ReadsMembers cs known members rest) : skipBlanks cs = cs := by
  have hmembers := h.read _ (Nat.lt_succ_self _)
  rw [readMembers.eq_def] at hmembers
  split at hmembers
  · exact absurd hmembers nofun
  · exact skipBlanks_cons (by decide)
  · exact absurd hmembers nofun

/-! ### Documents -/

/-- A document is a value with nothing but blanks around it. -/
theorem read_of_reads {text rest : List Char} {v : Value} (h : Reads (skipBlanks text) v rest)
    (hrest : skipBlanks rest = []) : read text = .ok v := by
  have hle := length_skipBlanks_le text
  unfold read
  split
  · next more =>
    -- the mark is no blank, so it would be the first character of the value
    rw [skipBlanks_cons (by decide)] at h
    exact absurd (h.read _ (Nat.lt_succ_self _)) (readValue_ne_ok (by decide) rfl)
  · rw [h.read _ (by omega)]
    simp only [bind, Except.bind, hrest]
    rfl

end LayerGraph.Json
