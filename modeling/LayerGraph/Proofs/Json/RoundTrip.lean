import LayerGraph.Proofs.Json.Numbers
import LayerGraph.Proofs.Text.Quoted
import LayerGraph.Proofs.Value.Showable
import LayerGraph.Value.Lemmas
import Mathlib.Data.List.Forall2

/-! # What is written is read back

    A string is written with escapes, which stand for its characters again when they are read, and
    so are numbers read from their text. So a value of a document is read back from its JSON text as
    it is (`exists_isReadBack`), provided that no object has two members under one key. Only an
    integer beyond the digit limit keeps it from being written (`valueText_eq_error`). The objects
    that errors are shown as hold no numbers, and are always read back (`exists_read_write`).
-/

namespace LayerGraph.Json

/-! ### Escapes -/

/-- The last hexadecimal digit of a number stands behind those of its sixteenth part. -/
theorem hexadecimal_succ (width n : Nat) :
    Text.hexadecimal (width + 2) n =
      Text.hexadecimal (width + 1) (n / 16) ++ [(n % 16).digitChar] := by
  unfold Text.hexadecimal
  by_cases hsmall : n < 16
  · have hzero : n / 16 = 0 := Nat.div_eq_of_lt hsmall
    rw [hzero, Nat.mod_eq_of_lt hsmall, Nat.toDigits_of_lt_base hsmall,
      Nat.toDigits_of_lt_base (by omega : 0 < 16)]
    -- one zero less is put in front of the digit zero
    simp [List.replicate_succ']
  · have hdigits := Nat.toDigits_of_base_le (by omega) (by omega : 16 ≤ n)
    have hzeros : width + 2 - ((Nat.toDigits 16 (n / 16)).length + 1) =
        width + 1 - (Nat.toDigits 16 (n / 16)).length := by omega
    simp only [hdigits, List.length_append, List.length_singleton, hzeros, List.append_assoc]

/-- A code unit in hexadecimal digits. -/
theorem hexadecimal_four {n : Nat} (h : n < 0x10000) :
    Text.hexadecimal 4 n =
      [(n / 4096).digitChar, (n / 256 % 16).digitChar, (n / 16 % 16).digitChar,
        (n % 16).digitChar] := by
  have hfirst : Text.hexadecimal 1 (n / 16 / 16 / 16) = [(n / 4096).digitChar] := by
    have hlt : n / 16 / 16 / 16 < 16 := by omega
    unfold Text.hexadecimal
    rw [Nat.toDigits_of_lt_base hlt]
    simp [Nat.div_div_eq_div_mul]
  rw [hexadecimal_succ 2, hexadecimal_succ 1, hexadecimal_succ 0, hfirst,
    Nat.div_div_eq_div_mul n 16 16]
  rfl

/-- A code unit is read from its digits, if a character follows. -/
theorem readUnit_hexadecimal {n : Nat} (h : n < 0x10000) {tail : List Char} (htail : tail ≠ []) :
    readUnit (Text.hexadecimal 4 n ++ tail) = some (n, tail) := by
  obtain ⟨next, rest, rfl⟩ := List.exists_cons_of_ne_nil htail
  rw [hexadecimal_four h]
  simp only [List.cons_append, List.nil_append, readUnit]
  rw [Text.hexValue?_digitChar _ (by omega), Text.hexValue?_digitChar _ (by omega),
    Text.hexValue?_digitChar _ (by omega), Text.hexValue?_digitChar _ (by omega)]
  have hsum : ((n / 4096 * 16 + n / 256 % 16) * 16 + n / 16 % 16) * 16 + n % 16 = n := by omega
  simp only [hsum]

theorem isHighSurrogate_iff {u : Nat} : isHighSurrogate u = true ↔ 0xD800 ≤ u ∧ u ≤ 0xDBFF := by
  simp [isHighSurrogate]

theorem isLowSurrogate_iff {u : Nat} : isLowSurrogate u = true ↔ 0xDC00 ≤ u ∧ u ≤ 0xDFFF := by
  simp [isLowSurrogate]

/-- The number of a character is that of no surrogate. -/
theorem not_surrogate (c : Char) :
    c.toNat < 0xD800 ∨ 0xDFFF < c.toNat ∧ c.toNat < 0x110000 := c.valid

theorem isHighSurrogate_toNat (c : Char) : isHighSurrogate c.toNat = false := by
  have hvalid := not_surrogate c
  rw [← Bool.not_eq_true, isHighSurrogate_iff]
  omega

theorem isLowSurrogate_toNat (c : Char) : isLowSurrogate c.toNat = false := by
  have hvalid := not_surrogate c
  rw [← Bool.not_eq_true, isLowSurrogate_iff]
  omega

theorem unitChar_toNat (c : Char) : unitChar c.toNat = .ok c :=
  unitChar_eq_ok.2 ⟨isLowSurrogate_toNat c, (Char.ofNat_toNat c).symm⟩

/-- A character within the sixteen-bit code points is read from its code unit. -/
theorem readEscape_unit {c : Char} (h : c.toNat < 0x10000) {tail : List Char} (htail : tail ≠ [])
    (start : List Char) :
    readEscape start ('u' :: Text.hexadecimal 4 c.toNat ++ tail) = .ok (c, tail) := by
  rw [List.cons_append, readEscape, readUnit_hexadecimal h htail]
  simp only [isHighSurrogate_toNat, unitChar_toNat]
  rfl

/-- A low surrogate completes the high one in front of it. -/
theorem readPartner_unit {high low : Nat} (hlow : isLowSurrogate low = true) {tail : List Char}
    (htail : tail ≠ []) :
    readPartner high (unitEscape low ++ tail) = .ok (pairChar high low, tail) := by
  have hsmall : low < 0x10000 := by
    have hrange := isLowSurrogate_iff.1 hlow
    omega
  exact readPartner_eq_ok.2 ⟨_, low, rfl, readUnit_hexadecimal hsmall htail, hlow, rfl⟩

/-- A number beyond the sixteen-bit code points is made of two surrogates. -/
theorem isSurrogates_of_large {n : Nat} (hlarge : 0x10000 ≤ n) (hsmall : n < 0x110000) :
    isHighSurrogate (0xD800 + (n - 0x10000) / 0x400) = true ∧
      isLowSurrogate (0xDC00 + (n - 0x10000) % 0x400) = true ∧
      pairChar (0xD800 + (n - 0x10000) / 0x400) (0xDC00 + (n - 0x10000) % 0x400) =
        Char.ofNat n := by
  refine ⟨isHighSurrogate_iff.2 ?_, isLowSurrogate_iff.2 ?_, ?_⟩
  · omega
  · omega
  · exact congrArg Char.ofNat (by omega)

/-- A character is read from its pair of surrogates. -/
theorem readsChars_pair {high low : Nat} (hhigh : isHighSurrogate high = true)
    (hlow : isLowSurrogate low = true) {tail chars rest : List Char}
    (h : ReadsChars tail chars rest) :
    ReadsChars (unitEscape high ++ unitEscape low ++ tail) (pairChar high low :: chars) rest := by
  have htail : tail ≠ [] := List.ne_nil_of_length_pos (Nat.zero_lt_of_lt h.shorter)
  have hsmall : high < 0x10000 := by
    have hrange := isHighSurrogate_iff.1 hhigh
    omega
  rw [List.append_assoc, unitEscape, List.cons_append, List.cons_append]
  refine ReadsChars.escape (fun start => ?_) h
  have hmore : unitEscape low ++ tail ≠ [] := by simp [unitEscape]
  exact readEscape_eq_ok.2 (Or.inl ⟨_, high, _, rfl, readUnit_hexadecimal hsmall hmore,
    (if_pos hhigh).trans (readPartner_unit hlow htail)⟩)

/-- A character is read from what it is written as. -/
theorem readsChars_escapeChar (c : Char) {tail chars rest : List Char}
    (h : ReadsChars tail chars rest) : ReadsChars (escapeChar c ++ tail) (c :: chars) rest := by
  have htail : tail ≠ [] := List.ne_nil_of_length_pos (Nat.zero_lt_of_lt h.shorter)
  unfold escapeChar
  -- the short escapes, each a letter behind a backslash
  have hshort : ∀ letter : Char, simpleEscape? letter = some c →
      ReadsChars ('\\' :: letter :: tail) (c :: chars) rest := by
    intro letter hplain
    exact ReadsChars.escape (fun start => readEscape_eq_ok.2 (Or.inr ⟨letter, rfl, hplain⟩)) h
  split
  · next hc => exact hshort '"' (by rw [hc]; rfl)
  split
  · next hc => exact hshort '\\' (by rw [hc]; rfl)
  split
  · next hc => exact hshort 'n' (by rw [hc]; rfl)
  split
  · next hc => exact hshort 'r' (by rw [hc]; rfl)
  split
  · next hc => exact hshort 't' (by rw [hc]; rfl)
  split
  · next hc => exact hshort 'b' (by rw [hc]; rfl)
  split
  · next hc => exact hshort 'f' (by rw [hc]; rfl)
  split
  · next hquote hslash _ _ _ _ _ hprintable =>
    exact ReadsChars.plain hquote hslash hprintable.1 h
  split
  · next hsmall =>
    exact ReadsChars.escape (fun start => readEscape_unit hsmall htail start) h
  · next hlarge =>
    have hvalid := not_surrogate c
    obtain ⟨hhigh, hlow, hpair⟩ := isSurrogates_of_large (Nat.not_lt.1 hlarge) (by omega)
    rw [Char.ofNat_toNat] at hpair
    have hread := readsChars_pair hhigh hlow h
    rwa [hpair] at hread

/-- A string is read from its quoted text. -/
theorem readsChars_flatMap (cs rest : List Char) :
    ReadsChars (cs.flatMap escapeChar ++ '"' :: rest) cs rest := by
  induction cs with
  | nil => exact ReadsChars.close rest
  | cons c cs ih =>
    rw [List.flatMap_cons, List.append_assoc]
    exact readsChars_escapeChar c ih

/-! ### Values -/

/-- A value put together from texts, truth values and null, in which no object has two members
    under one key. -/
inductive IsVerbal : Value → Prop where
  | null : IsVerbal .null
  | bool (b : Bool) : IsVerbal (.bool b)
  | str (s : String) : IsVerbal (.str s)
  | list {items : List Value} (each : ∀ v ∈ items, IsVerbal v) : IsVerbal (.list items)
  | object {entries : Entries} (distinct : (entries.map (·.1)).Nodup)
      (each : ∀ entry ∈ entries, IsVerbal entry.2) : IsVerbal (.ofEntries entries)

/-- A value such as a document holds: the keys of an object are strings, no two of which are the
    same. -/
inductive IsData : Value → Prop where
  | null : IsData .null
  | bool (b : Bool) : IsData (.bool b)
  | int (n : Int) : IsData (.int n)
  | float (x : Number.Binary64) : IsData (.float x)
  | str (s : String) : IsData (.str s)
  | list {items : List Value} (each : ∀ v ∈ items, IsData v) : IsData (.list items)
  | object {entries : Entries} (distinct : (entries.map (·.1)).Nodup)
      (each : ∀ entry ∈ entries, IsData entry.2) : IsData (.ofEntries entries)

theorem IsVerbal.isData {v : Value} (h : IsVerbal v) : IsData v := by
  induction h with
  | null => exact .null
  | bool b => exact .bool b
  | str s => exact .str s
  | list _ ih => exact .list ih
  | object distinct _ ih => exact .object distinct ih

/-- There are no integers in a verbal value. -/
theorem IsVerbal.isShowable {v : Value} (h : IsVerbal v) : v.isShowable = true := by
  induction h with
  | null | bool | str => rfl
  | list _ ih => exact Value.areShowable_iff.2 ih
  | object _ _ ih => exact Value.isShowable_ofEntries.2 ih

/-- A text that is read as a value, whatever stands behind that no number goes on with. -/
def IsReadAs (text : List Char) (v : Value) : Prop :=
  ∀ rest, EndsNumber rest → Reads (text ++ rest) v rest

/-- What is read from a text is read behind a blank, too. -/
theorem IsReadAs.behind_blank {text : List Char} {v : Value} (h : IsReadAs text v)
    {rest : List Char} (hrest : EndsNumber rest) :
    Reads (skipBlanks (' ' :: (text ++ rest))) v rest := by
  have hreads := h rest hrest
  rwa [← hreads.skipBlanks_eq] at hreads

/-- A value that has a text from which it is read. -/
structure IsReadBack (v : Value) (text : List Char) : Prop where
  written : valueText v = .ok text
  reads : IsReadAs text v

/-- A word or a number is read as a value. -/
theorem reads_of_readScalar {cs rest : List Char} {v : Value}
    (h : readScalar cs = .ok (v, rest)) : Reads cs v rest := by
  cases cs with
  | nil => exact absurd h nofun
  | cons c cs =>
    refine Reads.scalar ?_ h
    rw [← Bool.not_eq_true]
    intro hopening
    unfold isOpening at hopening
    simp only [Bool.or_eq_true, beq_iff_eq] at hopening
    rcases hopening with (rfl | rfl) | rfl <;> exact absurd h nofun

theorem stringText_append (s : String) (rest : List Char) :
    stringText s ++ rest = '"' :: (s.toList.flatMap escapeChar ++ '"' :: rest) := by
  simp [stringText]

namespace IsReadBack

theorem scalar {v : Value} {text : List Char} (hwritten : valueText v = .ok text)
    (h : ∀ rest, EndsNumber rest → readScalar (text ++ rest) = .ok (v, rest)) :
    IsReadBack v text where
  written := hwritten
  reads rest hrest := reads_of_readScalar (h rest hrest)

theorem str (s : String) : IsReadBack (.str s) (stringText s) where
  written := rfl
  reads rest _ := by
    have h := Reads.string (readsChars_flatMap s.toList rest)
    rw [String.ofList_toList] at h
    rwa [stringText_append]

theorem bool (b : Bool) : IsReadBack (.bool b) (boolText b).toList := by
  cases b with
  | true => exact scalar rfl fun _ _ => rfl
  | false => exact scalar rfl fun _ _ => rfl

end IsReadBack

/-! ### Lists -/

theorem skipBlanks_blank (cs : List Char) : skipBlanks (' ' :: cs) = skipBlanks cs := rfl

/-- The items of a list are read from their texts. -/
theorem readsItems_join {texts : List (List Char)} {vs : List Value}
    (h : List.Forall₂ IsReadAs texts vs) (hfilled : texts ≠ []) (rest : List Char) :
    ReadsItems (Text.join [',', ' '] texts ++ ']' :: rest) vs rest := by
  induction h with
  | nil => exact absurd rfl hfilled
  | cons htext hothers ih =>
    cases hothers with
    | nil => exact ReadsItems.last (htext _ (.mark (by decide))) (skipBlanks_cons (by decide))
    | cons =>
      -- the items behind the comma begin with no blank, so the one in front of them is skipped
      have hmore := ih nofun
      rw [← hmore.skipBlanks_eq, ← skipBlanks_blank] at hmore
      rw [Text.join_cons_cons, List.append_assoc, List.append_assoc]
      exact ReadsItems.cons (htext _ (.mark (by decide))) (skipBlanks_cons (by decide)) hmore

theorem isReadAs_list {texts : List (List Char)} {vs : List Value}
    (h : List.Forall₂ IsReadAs texts vs) : IsReadAs (Value.listText texts) (.list vs) := by
  intro rest _
  cases h with
  | nil => exact Reads.emptyList (skipBlanks_cons (by decide))
  | cons htext hothers =>
    have hitems := readsItems_join (.cons htext hothers) nofun rest
    rw [← hitems.skipBlanks_eq] at hitems
    simpa [Value.listText] using Reads.list hitems

/-- The items of a list are read back if each of them is. -/
theorem exists_itemTexts {items : List Value} (h : ∀ v ∈ items, ∃ text, IsReadBack v text) :
    ∃ texts, itemTexts items = .ok texts ∧ List.Forall₂ IsReadAs texts items := by
  induction items with
  | nil => exact ⟨[], rfl, .nil⟩
  | cons v items ih =>
    obtain ⟨⟨text, htext⟩, hothers⟩ := List.forall_mem_cons.1 h
    obtain ⟨texts, hwritten, hreads⟩ := ih hothers
    refine ⟨text :: texts, ?_, .cons htext.reads hreads⟩
    rw [itemTexts, htext.written, hwritten]
    rfl

/-! ### Objects -/

section member
variable {v : Value} {cs after : List Char} (hvalue : Reads (skipBlanks cs) v after) (key : String)
include hvalue

/-- The last member of an object, in front of the closing brace. -/
theorem readsMembers_last (known : Entries) {rest : List Char}
    (hclose : skipBlanks after = '\x7d' :: rest) :
    ReadsMembers (stringText key ++ ':' :: cs) known (setMember known key v) rest := by
  have hlast : ReadsMembers _ known _ rest := ReadsMembers.last
    (readsChars_flatMap key.toList (':' :: cs)) (skipBlanks_cons (by decide)) hvalue hclose
  rwa [String.ofList_toList, ← stringText_append] at hlast

/-- A member of an object, in front of the comma and the members behind it. -/
theorem readsMembers_cons {known members : Entries} {more rest : List Char}
    (hcomma : skipBlanks after = ',' :: more)
    (hmore : ReadsMembers (skipBlanks more) (setMember known key v) members rest) :
    ReadsMembers (stringText key ++ ':' :: cs) known members rest := by
  rw [← String.ofList_toList (s := key)] at hmore
  rw [stringText_append]
  exact ReadsMembers.cons (readsChars_flatMap key.toList (':' :: cs)) (skipBlanks_cons (by decide))
    hvalue hcomma hmore

end member

/-- The text of a member of an object. -/
def memberText (key : String) (text : List Char) : List Char := stringText key ++ ':' :: ' ' :: text

theorem memberText_append (key : String) (text rest : List Char) :
    memberText key text ++ rest = stringText key ++ ':' :: ' ' :: (text ++ rest) := by
  simp [memberText]

/-- The text of an object with the given texts of members. -/
def objectText (row : List (String × List Char)) : List Char :=
  Value.mapText (row.map fun member => memberText member.1 member.2)

/-- The text of a member with the key and the value that are read from it. -/
def IsMemberAs (member : String × List Char) (entry : String × Value) : Prop :=
  member.1 = entry.1 ∧ IsReadAs member.2 entry.2

/-- Writes members into an object, one by one. -/
def setMembers (known members : Entries) : Entries :=
  members.foldl (fun known entry => setMember known entry.1 entry.2) known

/-- The members of an object are read from their texts. -/
theorem readsMembers_join {row : List (String × List Char)} {members : Entries}
    (h : List.Forall₂ IsMemberAs row members) (hfilled : row ≠ []) (known : Entries)
    (rest : List Char) :
    ReadsMembers (Text.join [',', ' '] (row.map fun member => memberText member.1 member.2) ++
      '\x7d' :: rest) known (setMembers known members) rest := by
  induction h generalizing known with
  | nil => exact absurd rfl hfilled
  | @cons member entry row members hmember hothers ih =>
    obtain ⟨key, text⟩ := member
    obtain ⟨_, v⟩ := entry
    obtain ⟨rfl, htext⟩ := hmember
    cases hothers with
    | nil =>
      show ReadsMembers (memberText key text ++ '\x7d' :: rest) known _ rest
      rw [memberText_append]
      exact readsMembers_last (htext.behind_blank (.mark (by decide))) key known
        (skipBlanks_cons (by decide))
    | cons =>
      -- the first member is one of the known ones for those behind it
      have hmore := ih nofun (setMember known key v)
      rw [← hmore.skipBlanks_eq, ← skipBlanks_blank] at hmore
      rw [List.map_cons, List.map_cons, Text.join_cons_cons, List.append_assoc,
        List.append_assoc, memberText_append]
      exact readsMembers_cons (htext.behind_blank (.mark (by decide))) key
        (skipBlanks_cons (by decide)) hmore

theorem isReadAs_map {row : List (String × List Char)} {members : Entries}
    (h : List.Forall₂ IsMemberAs row members) :
    IsReadAs (objectText row) (.ofEntries (setMembers [] members)) := by
  intro rest _
  cases h with
  | nil => exact Reads.emptyMap (skipBlanks_cons (by decide))
  | cons hmember hothers =>
    have hmembers := readsMembers_join (.cons hmember hothers) nofun [] rest
    rw [← hmembers.skipBlanks_eq] at hmembers
    simpa [objectText, Value.mapText] using Reads.map hmembers

/-- A key that no entry has is put behind all of them. -/
theorem setMember_of_distinct {known entries : Entries} {key : String} (v : Value)
    (distinct : ((known ++ (key, v) :: entries).map (·.1)).Nodup) :
    setMember known key v = known ++ [(key, v)] := by
  refine Entries.set_of_not_mem v ?_
  rw [List.any_eq_false]
  intro entry hentry hsame
  rw [List.map_append, List.nodup_append] at distinct
  exact distinct.2.2 entry.1 (List.mem_map_of_mem hentry) key (by simp) (eq_of_beq hsame)

/-- Members under different keys stand behind each other. -/
theorem setMembers_of_distinct {known members : Entries}
    (distinct : ((known ++ members).map (·.1)).Nodup) :
    setMembers known members = known ++ members := by
  induction members generalizing known with
  | nil => exact (List.append_nil known).symm
  | cons member members ih =>
    have hassoc : known ++ member :: members = (known ++ [member]) ++ members := by simp
    rw [setMembers, List.foldl_cons, setMember_of_distinct member.2 distinct]
    rw [hassoc] at distinct ⊢
    exact ih distinct

/-- The members of an object are read back if their values are. -/
theorem exists_memberTexts {entries : Entries}
    (h : ∀ entry ∈ entries, ∃ text, IsReadBack entry.2 text) :
    ∃ row, Value.mapText <$> memberTexts (entries.map fun entry => (.str entry.1, entry.2)) =
      .ok (objectText row) ∧ List.Forall₂ IsMemberAs row entries := by
  suffices ∃ row : List (String × List Char),
      memberTexts (entries.map fun entry => (.str entry.1, entry.2)) =
        .ok (row.map fun member => memberText member.1 member.2) ∧
      List.Forall₂ IsMemberAs row entries by
    obtain ⟨row, hwritten, hreads⟩ := this
    exact ⟨row, Result.map_eq_ok.2 ⟨_, hwritten, rfl⟩, hreads⟩
  induction entries with
  | nil => exact ⟨[], rfl, .nil⟩
  | cons entry entries ih =>
    obtain ⟨⟨text, htext⟩, hothers⟩ := List.forall_mem_cons.1 h
    obtain ⟨row, hwritten, hreads⟩ := ih hothers
    refine ⟨(entry.1, text) :: row, ?_, .cons ⟨rfl, htext.reads⟩ hreads⟩
    rw [List.map_cons, memberTexts, keyText, htext.written]
    simp only [bind, Except.bind]
    rw [hwritten]
    rfl

/-! ### Documents -/

/-- A value of a document without long integers is read back from its text. -/
theorem exists_isReadBack {v : Value} (h : IsData v) (hshow : v.isShowable = true) :
    ∃ text, IsReadBack v text := by
  induction h with
  | null => exact ⟨"null".toList, .scalar rfl fun _ _ => rfl⟩
  | bool b => exact ⟨_, .bool b⟩
  | int n =>
    rw [Value.isShowable] at hshow
    obtain ⟨text, htext⟩ := (Value.isShown_integerText n).exists_ok hshow
    have hwritten : integerText n = .ok text := Result.mapError_eq_ok.2 htext
    exact ⟨text, .scalar hwritten fun _ hrest => readScalar_int hwritten hrest⟩
  | float x => exact ⟨_, .scalar rfl fun _ hrest => readScalar_float x hrest⟩
  | str s => exact ⟨_, .str s⟩
  | @list items each ih =>
    have hitems := Value.areShowable_iff.1 hshow
    obtain ⟨texts, hwritten, hreads⟩ := exists_itemTexts fun v hv => ih v hv (hitems v hv)
    refine ⟨Value.listText texts, ?_, isReadAs_list hreads⟩
    rw [valueText, hwritten]
    rfl
  | @object entries distinct each ih =>
    have hentries := Value.isShowable_ofEntries.1 hshow
    obtain ⟨row, hwritten, hreads⟩ := exists_memberTexts fun e he => ih e he (hentries e he)
    have hmembers := isReadAs_map hreads
    rw [setMembers_of_distinct (by simpa using distinct), List.nil_append] at hmembers
    exact ⟨objectText row, hwritten, hmembers⟩

/-- What is written on a line is read back. -/
theorem exists_read_write {v : Value} (h : IsVerbal v) :
    ∃ text, write v = .ok text ∧ read (text ++ "\n").toList = .ok v := by
  obtain ⟨text, htext⟩ := exists_isReadBack h.isData h.isShowable
  refine ⟨String.ofList text, ?_, ?_⟩
  · unfold write
    rw [htext.written]
    rfl
  · have hreads := htext.reads ['\n'] (.mark (by decide))
    rw [← hreads.skipBlanks_eq] at hreads
    rw [String.toList_append, String.toList_ofList]
    exact read_of_reads hreads rfl

/-! ### Long integers -/

/-- The first item that is not written keeps a list from being written. -/
theorem itemTexts_eq_error {items : List Value} {e : WriteError}
    (hok : ∀ v ∈ items, v.isShowable = true → ∃ text, valueText v = .ok text)
    (hlong : ∀ v ∈ items, v.isShowable = false → valueText v = .error e)
    (h : Value.areShowable items = false) : itemTexts items = .error e := by
  induction items with
  | nil => exact absurd h nofun
  | cons v items ih =>
    obtain ⟨hokv, hok⟩ := List.forall_mem_cons.1 hok
    obtain ⟨hlongv, hlong⟩ := List.forall_mem_cons.1 hlong
    rw [itemTexts]
    cases hv : v.isShowable with
    | false =>
      rw [hlongv hv]
      rfl
    | true =>
      obtain ⟨text, htext⟩ := hokv hv
      rw [Value.areShowable, hv, Bool.true_and] at h
      rw [htext, ih hok hlong h]
      rfl

/-- The first member that is not written keeps an object from being written. -/
theorem memberTexts_eq_error {entries : Entries} {e : WriteError}
    (hok : ∀ entry ∈ entries, entry.2.isShowable = true → ∃ text, valueText entry.2 = .ok text)
    (hlong : ∀ entry ∈ entries, entry.2.isShowable = false → valueText entry.2 = .error e)
    (h : (Value.ofEntries entries).isShowable = false) :
    memberTexts (entries.map fun entry => (.str entry.1, entry.2)) = .error e := by
  induction entries with
  | nil => exact absurd h nofun
  | cons entry entries ih =>
    obtain ⟨key, v⟩ := entry
    obtain ⟨hokv, hok⟩ := List.forall_mem_cons.1 hok
    obtain ⟨hlongv, hlong⟩ := List.forall_mem_cons.1 hlong
    rw [List.map_cons, memberTexts, keyText]
    cases hv : v.isShowable with
    | false =>
      simp only [bind, Except.bind]
      rw [hlongv hv]
    | true =>
      obtain ⟨text, htext⟩ := hokv hv
      have hrest : (Value.ofEntries entries).isShowable = false := by
        simpa [Value.ofEntries, Value.isShowable, Value.areShowableEntries, hv] using h
      simp only [bind, Except.bind]
      rw [htext, ih hok hlong hrest]

/-- A value of a document that holds a long integer is not written. -/
theorem valueText_eq_error {v : Value} (h : IsData v) (hlong : v.isShowable = false) :
    valueText v = .error (.noText .integerTooLong) := by
  induction h with
  | null | bool | float | str => exact absurd hlong nofun
  | int n =>
    rw [Value.isShowable] at hlong
    have hfail := (Value.isShown_integerText n).eq_error hlong
    have hwritten : integerText n = .error (.noText .integerTooLong) :=
      Result.mapError_eq_error.2 ⟨_, hfail, rfl⟩
    exact hwritten
  | @list items each ih =>
    rw [valueText, itemTexts_eq_error (fun v hv hshow => ?_) ih hlong]
    · rfl
    · obtain ⟨text, htext⟩ := exists_isReadBack (each v hv) hshow
      exact ⟨text, htext.written⟩
  | @object entries distinct each ih =>
    rw [Value.ofEntries, valueText, memberTexts_eq_error (fun entry he hshow => ?_) ih hlong]
    · rfl
    · obtain ⟨text, htext⟩ := exists_isReadBack (each entry he) hshow
      exact ⟨text, htext.written⟩

end LayerGraph.Json
