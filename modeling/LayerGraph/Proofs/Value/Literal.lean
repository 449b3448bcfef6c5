import LayerGraph.Proofs.Json.Numbers
import LayerGraph.Proofs.Text.Quoted
import LayerGraph.Proofs.Value.Showable

/-! # Literals can be told apart

    Values that are built from scalars by tuples, lists and mappings have literals, and the literals
    of two of them are different. It is clear where a literal ends if a mark stands behind it with
    which items end (`layout_append_inj`). So a row of items, of entries or of arguments can be read
    in one way only.

    A literal is told by how it begins: each kind of value begins in a way of its own, but for
    integers and floating point numbers, which are told apart when they are read.
-/

namespace LayerGraph.Value

open Number (Binary64)

/-- A value that is built from scalars by tuples, lists and mappings. -/
inductive IsLiteral : Value → Prop where
  | null : IsLiteral .null
  | bool (b : Bool) : IsLiteral (.bool b)
  | int (n : Int) : IsLiteral (.int n)
  | float (x : Binary64) : IsLiteral (.float x)
  | str (s : String) : IsLiteral (.str s)
  | tuple {items : List Value} (h : ∀ v ∈ items, IsLiteral v) : IsLiteral (.tuple items)
  | list {items : List Value} (h : ∀ v ∈ items, IsLiteral v) : IsLiteral (.list items)
  | map {entries : List (Value × Value)} (hkeys : ∀ entry ∈ entries, IsLiteral entry.1)
      (hvalues : ∀ entry ∈ entries, IsLiteral entry.2) : IsLiteral (.map entries)

theorem IsConstant.isLiteral {v : Value} (h : v.IsConstant) : v.IsLiteral := by
  induction h with
  | null => exact .null
  | bool b => exact .bool b
  | int n => exact .int n
  | float x => exact .float x
  | str s => exact .str s
  | tuple _ ih => exact .tuple ih

/-- The text of a value in code. -/
abbrev codeText (v : Value) : Except NoText (List Char) := layout ⟨literalLeaf, false⟩ v

/-! ### How literals begin -/

/-- What the beginning of a literal tells about its value. -/
inductive LiteralKind where
  | null
  | bool
  | number
  /-- A number that is not finite. -/
  | special
  | string
  | tuple
  | list
  | map
  | none
deriving DecidableEq

/-- What the beginning of a text tells about the literal there. -/
def kindOfText : List Char → LiteralKind
  | 'N' :: _ => .null
  | 'T' :: _ => .bool
  | 'F' :: _ => .bool
  | 'f' :: _ => .special
  | '-' :: 'f' :: _ => .special
  | '-' :: _ => .number
  | '\'' :: _ => .string
  | '"' :: _ => .string
  | '(' :: _ => .tuple
  | '[' :: _ => .list
  | '\x7b' :: _ => .map
  | c :: _ => if Number.isDigit c then .number else .none
  | [] => .none

/-- The kind of the literal of a value. -/
def literalKind : Value → LiteralKind
  | .null => .null
  | .bool _ => .bool
  | .int _ => .number
  | .float (.finite ..) => .number
  | .float _ => .special
  | .str _ => .string
  | .tuple _ => .tuple
  | .list _ => .list
  | .map _ => .map
  | _ => .none

theorem kindOfText_digit {c : Char} (hc : Number.isDigit c = true) (cs : List Char) :
    kindOfText (c :: cs) = .number := by
  have hne : ∀ d ∈ ['N', 'T', 'F', 'f', '-', '\'', '"', '(', '[', '\x7b'], c ≠ d := by
    intro d hd hsame
    have hnone : (['N', 'T', 'F', 'f', '-', '\'', '"', '(', '[', '\x7b'].all
        (!Number.isDigit ·)) = true := by decide
    have hother := List.all_eq_true.1 hnone d hd
    rw [← hsame, hc] at hother
    exact absurd hother nofun
  simp only [List.forall_mem_cons] at hne
  simp [kindOfText, hne, hc]

/-- A number is told by its first digit, with a minus in front of it or without. -/
theorem kindOfText_signed (negative : Bool) {c : Char} (hc : Number.isDigit c = true)
    (cs : List Char) : kindOfText (Json.signed negative (c :: cs)) = .number := by
  cases negative with
  | false => exact kindOfText_digit hc cs
  | true =>
    have hf : c ≠ 'f' := by
      rintro rfl
      exact absurd hc (by decide)
    simp [Json.signed, kindOfText, hf]

/-- What a number is written as: it begins with a digit, perhaps behind a minus, and is read back if
    nothing that a number could go on with stands behind it. -/
structure IsNumberText (v : Value) (text : List Char) : Prop where
  begins : ∃ negative c cs, text = Json.signed negative (c :: cs) ∧ Number.isDigit c = true
  reads : ∀ rest, Json.EndsNumber rest → Json.readScalar (text ++ rest) = .ok (v, rest)

theorem isNumberText_int {n : Int} {text : List Char} (h : integerText n = .ok text) :
    IsNumberText (.int n) text := by
  have hwritten : Json.integerText n = .ok text := Result.mapError_eq_ok.2 h
  obtain ⟨hdigits, hfull⟩ := Number.isRow_toDigits n.natAbs
  refine ⟨?_, fun rest hrest => Json.readScalar_int hwritten hrest⟩
  obtain ⟨c, cs, hcs⟩ := List.exists_cons_of_ne_nil hfull
  refine ⟨decide (n < 0), c, cs, ?_, hdigits c (hcs ▸ List.mem_cons_self)⟩
  rw [(Json.integerText_eq_ok hwritten).1, hcs]

theorem isNumberText_finite (negative : Bool) (m : Number.Magnitude) :
    IsNumberText (.float (.finite negative m)) (numberLiteral (.finite negative m)).toList := by
  have htext : (numberLiteral (.finite negative m)).toList = Json.signed negative m.text := by
    show (Binary64.finite negative m).text.toList = _
    rw [Binary64.text, String.toList_ofList]
    rfl
  obtain ⟨parts, hproper, hparts, _⟩ := Json.exists_magnitudeParts m negative
  obtain ⟨c, cs, hcs, hc⟩ := Json.exists_text_eq_cons hproper
  refine ⟨⟨negative, c, cs, ?_, hc⟩, fun rest hrest => ?_⟩
  · rw [htext, hparts, hcs]
  · exact Json.readScalar_float (.finite negative m) hrest

/-- A literal begins as its kind of value does, whatever stands behind it. -/
theorem kindOfText_append {v : Value} (hv : v.IsLiteral) {text : List Char}
    (h : v.codeText = .ok text) (rest : List Char) :
    kindOfText (text ++ rest) = v.literalKind := by
  -- integers and finite floating point numbers begin alike, with a sign or a digit
  have hnumber {v : Value} (h : IsNumberText v text) :
      kindOfText (text ++ rest) = .number := by
    obtain ⟨negative, c, cs, rfl, hc⟩ := h.begins
    have hbegins := kindOfText_signed negative hc (cs ++ rest)
    cases negative <;> exact hbegins
  cases hv with
  | null =>
    obtain rfl := Except.ok.inj h
    rfl
  | bool b =>
    obtain rfl := Except.ok.inj h
    cases b <;> rfl
  | int n =>
    have hwritten : integerText n = .ok text := by
      simpa only [codeText, layout, literalLeaf] using h
    exact hnumber (isNumberText_int hwritten)
  | float x =>
    obtain rfl := Except.ok.inj h
    cases x with
    | nan => rfl
    | infinity negative => cases negative <;> rfl
    | finite negative m => exact hnumber (isNumberText_finite negative m)
  | str s =>
    obtain rfl := Except.ok.inj h
    rw [Text.quote, List.cons_append, List.cons_append]
    rcases Text.quoteFor_eq s.toList with hquote | hquote
    · rw [hquote]
      rfl
    · rw [hquote]
      rfl
  | @tuple items hitems =>
    obtain ⟨texts, _, rfl⟩ := Result.map_eq_ok.1 h
    rcases texts with _ | ⟨first, _ | ⟨second, others⟩⟩ <;> rfl
  | list =>
    obtain ⟨texts, _, rfl⟩ := Result.map_eq_ok.1 h
    rfl
  | map =>
    obtain ⟨texts, _, rfl⟩ := Result.map_eq_ok.1 h
    rfl

/-! ### Ends of items -/

/-- The marks with which items, keys and values end. -/
def itemEnds : List Char := [',', ')', ']', '\x7d', ':']

/-- A text with which no literal goes on: it is empty, or begins with a mark with which items
    end. -/
def EndsItem (rest : List Char) : Prop := ∀ c ∈ rest.head?, c ∈ itemEnds

theorem EndsItem.mark {c : Char} (h : c ∈ itemEnds) (rest : List Char) : EndsItem (c :: rest) := by
  simpa [EndsItem] using h

theorem EndsItem.endsNumber {rest : List Char} (h : EndsItem rest) : Json.EndsNumber rest := by
  intro c hc
  have hmark := h c hc
  simp only [itemEnds, List.mem_cons, List.not_mem_nil, or_false] at hmark
  rcases hmark with rfl | rfl | rfl | rfl | rfl <;> decide

/-- The items behind another one, up to the mark that closes the row. -/
def restText (close : Char) : List (List Char) → List Char
  | [] => [close]
  | text :: texts => ',' :: ' ' :: (text ++ restText close texts)

section closed
variable {close : Char} (hclose : close ∈ itemEnds)
include hclose

theorem endsItem_restText_append (texts : List (List Char)) (rest : List Char) :
    EndsItem (restText close texts ++ rest) := by
  cases texts with
  | nil => exact .mark hclose rest
  | cons text texts => exact .mark (by decide) _

theorem endsItem_restText (texts : List (List Char)) : EndsItem (restText close texts) :=
  List.append_nil (restText close texts) ▸ endsItem_restText_append hclose texts []

end closed

theorem join_cons_close (close : Char) (text : List Char) (texts : List (List Char)) :
    Text.join [',', ' '] (text :: texts) ++ [close] = text ++ restText close texts := by
  induction texts generalizing text with
  | nil => rfl
  | cons next texts ih =>
    rw [Text.join_cons_cons, List.append_assoc, ih, List.append_assoc]
    rfl

/-! ### Literals in front of other text -/

/-- Whether two things as they are written, each with text behind it that ends an item, are the same
    only if they and the texts are. -/
def AreApartIn {α : Type} (write : α → Except NoText (List Char)) (x y : α) : Prop :=
  ∀ t u r s, write x = .ok t → write y = .ok u → EndsItem r → EndsItem s → t ++ r = u ++ s →
    x = y ∧ r = s

/-- Whether the literals of two values are told apart. -/
abbrev AreToldApart (v w : Value) : Prop := AreApartIn codeText v w

/-- A value whose literal is told from those of all others. -/
def IsToldApart (v : Value) : Prop := ∀ w : Value, w.IsLiteral → v.AreToldApart w

theorem AreToldApart.self (v : Value) : v.AreToldApart v := by
  intro t u r s ht hu _ _ h
  obtain rfl := Except.ok.inj (ht.symm.trans hu)
  exact ⟨rfl, List.append_cancel_left h⟩

/-- Of code without the marks with which items end it is clear where it ends. -/
theorem AreToldApart.expr {a b : String} (ha : ∀ c ∈ a.toList, c ∉ itemEnds)
    (hb : ∀ c ∈ b.toList, c ∉ itemEnds) : (Value.expr a).AreToldApart (.expr b) := by
  intro t u r s ht hu hr hs h
  obtain rfl := Except.ok.inj ht
  obtain rfl := Except.ok.inj hu
  let inside (c : Char) : Bool := !itemEnds.contains c
  have hinside {name rest : List Char} (hname : ∀ c ∈ name, c ∉ itemEnds)
      (hrest : EndsItem rest) : (name ++ rest).takeWhile inside = name := by
    rw [List.takeWhile_append_of_pos fun c hc => by simpa [inside] using hname c hc]
    cases rest with
    | nil => exact List.append_nil name
    | cons c cs =>
      have hc := hrest c rfl
      rw [List.takeWhile_cons_of_neg (by simpa [inside] using hc), List.append_nil]
  have hsame := congrArg (List.takeWhile inside) h
  rw [hinside ha hr, hinside hb hs] at hsame
  obtain rfl := String.toList_inj.1 hsame
  exact ⟨rfl, List.append_cancel_left h⟩

theorem layoutAll_eq_mapM (style : Style) (items : List Value) :
    layoutAll style items = items.mapM (layout style) := by
  induction items with
  | nil => rfl
  | cons v items ih => rw [layoutAll, List.mapM_cons, ih]

/-- The text of an entry in code. -/
def entryText (entry : Value × Value) : Except NoText (List Char) := do
  let key ← entry.1.codeText
  let value ← entry.2.codeText
  return key ++ ':' :: ' ' :: value

theorem layoutEntries_eq_mapM (entries : List (Value × Value)) :
    layoutEntries ⟨literalLeaf, false⟩ entries = entries.mapM entryText := by
  induction entries with
  | nil => rfl
  | cons entry entries ih =>
    rw [layoutEntries, List.mapM_cons, ih, entryText]
    simp only [bind_assoc, pure_bind]

/-- A key ends with a colon, so entries are told apart by their keys and then by their values. -/
theorem AreApartIn.entry {entry other : Value × Value} (hkey : entry.1.AreToldApart other.1)
    (hvalue : entry.2.AreToldApart other.2) : AreApartIn entryText entry other := by
  intro t u r s ht hu hr hs h
  obtain ⟨key, hkeyText, ht⟩ := Result.bind_eq_ok.1 ht
  obtain ⟨value, hvalueText, ht⟩ := Result.bind_eq_ok.1 ht
  obtain rfl := Except.ok.inj ht
  obtain ⟨key', hkeyText', hu⟩ := Result.bind_eq_ok.1 hu
  obtain ⟨value', hvalueText', hu⟩ := Result.bind_eq_ok.1 hu
  obtain rfl := Except.ok.inj hu
  rw [List.append_assoc, List.append_assoc] at h
  obtain ⟨hsame, hrest⟩ := hkey key key' _ _ hkeyText hkeyText' (.mark (by decide) _)
    (.mark (by decide) _) h
  have hvalues : value ++ r = value' ++ s := (List.cons.inj (List.cons.inj hrest).2).2
  obtain ⟨hsecond, hend⟩ := hvalue value value' r s hvalueText hvalueText' hr hs hvalues
  exact ⟨Prod.ext hsame hsecond, hend⟩

section rows
variable {α : Type} {write : α → Except NoText (List Char)} {close : Char}
  (hclose : close ∈ itemEnds) (hcomma : close ≠ ',')
include hclose hcomma

/-- Rows of what is told apart are told apart item by item. -/
theorem restText_append_inj {xs ys : List α}
    (hapart : ∀ x ∈ xs, ∀ y ∈ ys, AreApartIn write x y) {ts us : List (List Char)}
    (hts : xs.mapM write = .ok ts) (hus : ys.mapM write = .ok us) {r s : List Char}
    (h : restText close ts ++ r = restText close us ++ s) : xs = ys ∧ r = s := by
  induction xs generalizing ys ts us with
  | nil =>
    obtain rfl := Except.ok.inj hts
    cases ys with
    | nil =>
      obtain rfl := Except.ok.inj hus
      exact ⟨rfl, (List.cons.inj h).2⟩
    | cons y ys =>
      obtain ⟨u, others, _, _, rfl⟩ := Result.mapM_cons_eq_ok.1 hus
      exact absurd (List.cons.inj h).1 hcomma
  | cons x xs ih =>
    obtain ⟨hx, hxs⟩ := List.forall_mem_cons.1 hapart
    obtain ⟨t, texts, ht, htexts, rfl⟩ := Result.mapM_cons_eq_ok.1 hts
    cases ys with
    | nil =>
      obtain rfl := Except.ok.inj hus
      exact absurd (List.cons.inj h).1.symm hcomma
    | cons y ys =>
      obtain ⟨u, others, hu, hothers, rfl⟩ := Result.mapM_cons_eq_ok.1 hus
      -- behind comma and blank both go on with an item
      have hfirst : t ++ (restText close texts ++ r) = u ++ (restText close others ++ s) := by
        simpa [restText] using h
      obtain ⟨hsame, hbehind⟩ := hx y List.mem_cons_self t u _ _ ht hu
        (endsItem_restText_append hclose texts r) (endsItem_restText_append hclose others s) hfirst
      obtain ⟨hrest, hend⟩ :=
        ih (fun x hx y hy => hxs x hx y (List.mem_cons_of_mem _ hy)) htexts hothers hbehind
      exact ⟨by rw [hsame, hrest], hend⟩

/-- Rows between brackets are told apart if no item begins with the bracket that closes. -/
theorem join_append_inj {xs ys : List α}
    (hapart : ∀ x ∈ xs, ∀ y ∈ ys, AreApartIn write x y)
    (hbegins : ∀ x ∈ xs ++ ys, ∀ t rest, write x = .ok t → (t ++ rest).head? ≠ some close)
    {ts us : List (List Char)} (hts : xs.mapM write = .ok ts) (hus : ys.mapM write = .ok us)
    {r s : List Char}
    (h : Text.join [',', ' '] ts ++ [close] ++ r = Text.join [',', ' '] us ++ [close] ++ s) :
    xs = ys ∧ r = s := by
  cases xs with
  | nil =>
    obtain rfl := Except.ok.inj hts
    cases ys with
    | nil =>
      obtain rfl := Except.ok.inj hus
      exact ⟨rfl, List.append_cancel_left h⟩
    | cons y ys =>
      obtain ⟨u, others, hu, _, rfl⟩ := Result.mapM_cons_eq_ok.1 hus
      rw [join_cons_close] at h
      have hlist : u ++ (restText close others ++ s) = close :: r :=
        (List.append_assoc ..).symm.trans h.symm
      exact absurd (congrArg List.head? hlist) (hbegins y (by simp) u _ hu)
  | cons x xs =>
    obtain ⟨t, texts, ht, htexts, rfl⟩ := Result.mapM_cons_eq_ok.1 hts
    rw [join_cons_close, List.append_assoc] at h
    cases ys with
    | nil =>
      obtain rfl := Except.ok.inj hus
      exact absurd (congrArg List.head? h) (hbegins x (by simp) t _ ht)
    | cons y ys =>
      obtain ⟨u, others, hu, hothers, rfl⟩ := Result.mapM_cons_eq_ok.1 hus
      rw [join_cons_close, List.append_assoc] at h
      -- the first items are told apart, and then those behind them
      obtain ⟨hfirst, hbehind⟩ := hapart x List.mem_cons_self y List.mem_cons_self t u _ _ ht hu
        (endsItem_restText_append hclose texts r) (endsItem_restText_append hclose others s) h
      obtain ⟨hrest, hend⟩ := restText_append_inj hclose hcomma
        (fun x hx y hy => hapart x (List.mem_cons_of_mem _ hx) y (List.mem_cons_of_mem _ hy))
        htexts hothers hbehind
      exact ⟨by rw [hfirst, hrest], hend⟩

end rows

/-- What stands behind the first item of a tuple. A single item has a comma behind it. -/
def behindFirst : List (List Char) → List Char
  | [] => [',', ')']
  | text :: texts => restText ')' (text :: texts)

theorem tupleText_cons (text : List Char) (texts : List (List Char)) :
    tupleText (text :: texts) = '(' :: (text ++ behindFirst texts) := by
  cases texts with
  | nil => rfl
  | cons next texts =>
    show '(' :: (Text.join [',', ' '] (text :: next :: texts) ++ [')']) = _
    rw [join_cons_close]
    rfl

theorem endsItem_behindFirst (texts : List (List Char)) (rest : List Char) :
    EndsItem (behindFirst texts ++ rest) := by
  cases texts with
  | nil => exact .mark (by decide) _
  | cons text texts => exact endsItem_restText_append (by decide) (text :: texts) rest

theorem literalKind_ne_none {v : Value} (hv : v.IsLiteral) : v.literalKind ≠ .none := by
  cases hv with
  | float x => cases x <;> simp [literalKind]
  | _ => simp [literalKind]

/-- No literal begins with a bracket that closes. -/
theorem head?_codeText {v : Value} (hv : v.IsLiteral) {text : List Char}
    (h : v.codeText = .ok text) (rest : List Char) {close : Char}
    (hclose : ∀ other, kindOfText (close :: other) = .none) :
    (text ++ rest).head? ≠ some close := by
  intro hsame
  obtain ⟨other, hother⟩ := List.head?_eq_some_iff.1 hsame
  have hkind := kindOfText_append hv h rest
  rw [hother, hclose] at hkind
  exact literalKind_ne_none hv hkind.symm

/-- A single item is followed by a comma and the parenthesis, another item by a comma and a
    blank. -/
theorem behindFirst_append_inj {items ws : List Value}
    (hapart : ∀ v ∈ items, ∀ w ∈ ws, v.AreToldApart w) {ts us : List (List Char)}
    (hts : items.mapM codeText = .ok ts) (hus : ws.mapM codeText = .ok us) {r s : List Char}
    (h : behindFirst ts ++ r = behindFirst us ++ s) : items = ws ∧ r = s := by
  cases items with
  | nil =>
    obtain rfl := Except.ok.inj hts
    cases ws with
    | nil =>
      obtain rfl := Except.ok.inj hus
      exact ⟨rfl, List.append_cancel_left h⟩
    | cons w ws =>
      obtain ⟨u, others, _, _, rfl⟩ := Result.mapM_cons_eq_ok.1 hus
      exact absurd (List.cons.inj (List.cons.inj h).2).1 (by decide)
  | cons v items =>
    obtain ⟨t, texts, _, _, rfl⟩ := Result.mapM_cons_eq_ok.1 hts
    cases ws with
    | nil =>
      obtain rfl := Except.ok.inj hus
      exact absurd (List.cons.inj (List.cons.inj h).2).1 (by decide)
    | cons w ws =>
      obtain ⟨u, others, _, _, rfl⟩ := Result.mapM_cons_eq_ok.1 hus
      exact restText_append_inj (by decide) (by decide) hapart hts hus h

/-- The items of a tuple are told apart. -/
theorem tupleText_append_inj {items ws : List Value}
    (hapart : ∀ v ∈ items, ∀ w ∈ ws, v.AreToldApart w)
    (hitems : ∀ v ∈ items, v.IsLiteral) (hws : ∀ w ∈ ws, w.IsLiteral)
    {ts us : List (List Char)} (hts : items.mapM codeText = .ok ts)
    (hus : ws.mapM codeText = .ok us) {r s : List Char}
    (h : tupleText ts ++ r = tupleText us ++ s) : items = ws ∧ r = s := by
  cases items with
  | nil =>
    obtain rfl := Except.ok.inj hts
    cases ws with
    | nil =>
      obtain rfl := Except.ok.inj hus
      exact ⟨rfl, List.append_cancel_left h⟩
    | cons w ws =>
      obtain ⟨u, others, hu, _, rfl⟩ := Result.mapM_cons_eq_ok.1 hus
      rw [tupleText_cons, List.cons_append, List.append_assoc] at h
      exact absurd (congrArg List.head? (List.cons.inj h).2).symm
        (head?_codeText (List.forall_mem_cons.1 hws).1 hu _ fun _ => rfl)
  | cons v items =>
    obtain ⟨t, texts, ht, htexts, rfl⟩ := Result.mapM_cons_eq_ok.1 hts
    rw [tupleText_cons, List.cons_append, List.append_assoc] at h
    cases ws with
    | nil =>
      obtain rfl := Except.ok.inj hus
      exact absurd (congrArg List.head? (List.cons.inj h).2)
        (head?_codeText (List.forall_mem_cons.1 hitems).1 ht _ fun _ => rfl)
    | cons w ws =>
      obtain ⟨u, others, hu, hothers, rfl⟩ := Result.mapM_cons_eq_ok.1 hus
      rw [tupleText_cons, List.cons_append, List.append_assoc] at h
      -- the first items are told apart, and then those behind them
      obtain ⟨hfirst, hbehind⟩ := hapart v List.mem_cons_self w List.mem_cons_self t u _ _ ht hu
        (endsItem_behindFirst texts r) (endsItem_behindFirst others s) (List.cons.inj h).2
      obtain ⟨hrest, hend⟩ := behindFirst_append_inj
        (fun v hv w hw => hapart v (List.mem_cons_of_mem _ hv) w (List.mem_cons_of_mem _ hw))
        htexts hothers hbehind
      exact ⟨by rw [hfirst, hrest], hend⟩

/-- An entry begins with its key. -/
theorem head?_entryText {entry : Value × Value} (hkey : entry.1.IsLiteral) {text : List Char}
    (h : entryText entry = .ok text) (rest : List Char) {close : Char}
    (hclose : ∀ other, kindOfText (close :: other) = .none) :
    (text ++ rest).head? ≠ some close := by
  obtain ⟨key, hkeyText, h⟩ := Result.bind_eq_ok.1 h
  obtain ⟨value, _, h⟩ := Result.bind_eq_ok.1 h
  obtain rfl := Except.ok.inj h
  rw [List.append_assoc]
  exact head?_codeText hkey hkeyText _ hclose

/-! ### Values are told apart -/

theorem literalKind_eq_of_append {v w : Value} (hv : v.IsLiteral) (hw : w.IsLiteral)
    {t u r s : List Char} (ht : v.codeText = .ok t) (hu : w.codeText = .ok u)
    (h : t ++ r = u ++ s) : w.literalKind = v.literalKind := by
  rw [← kindOfText_append hv ht r, h, kindOfText_append hw hu s]

/-- Numbers are told apart by reading them. -/
theorem isToldApart_number {v w : Value} {t u r s : List Char} (hv : IsNumberText v t)
    (hw : IsNumberText w u) (hr : EndsItem r) (hs : EndsItem s) (h : t ++ r = u ++ s) :
    v = w ∧ r = s := by
  have hread := hv.reads r hr.endsNumber
  rw [h, hw.reads s hs.endsNumber] at hread
  obtain ⟨hvalue, hend⟩ := Prod.mk.inj (Except.ok.inj hread)
  exact ⟨hvalue.symm, hend.symm⟩

theorem isNumberText_of_kind {v : Value} (hv : v.IsLiteral) (hkind : v.literalKind = .number)
    {text : List Char} (h : v.codeText = .ok text) : IsNumberText v text := by
  cases hv with
  | int n =>
    have hwritten : integerText n = .ok text := by
      simpa only [codeText, layout, literalLeaf] using h
    exact isNumberText_int hwritten
  | float x =>
    cases x with
    | finite negative m =>
      obtain rfl := Except.ok.inj h
      exact isNumberText_finite negative m
    | _ => cases hkind
  | _ => cases hkind

/-- The numbers that are not finite are three calls. -/
theorem special_append_inj {x y : Binary64} (hx : (Value.float x).literalKind = .special)
    (hy : (Value.float y).literalKind = .special) {r s : List Char}
    (h : (numberLiteral x).toList ++ r = (numberLiteral y).toList ++ s) : x = y ∧ r = s := by
  have hlist : ∀ z : Binary64, (Value.float z).literalKind = .special →
      z ∈ [Binary64.nan, .infinity false, .infinity true] := by
    intro z hz
    cases z with
    | nan => decide
    | infinity negative => cases negative <;> decide
    | finite negative m => exact absurd hz nofun
  -- of two calls neither begins as the other
  have hsame : ∀ x ∈ [Binary64.nan, .infinity false, .infinity true],
      ∀ y ∈ [Binary64.nan, .infinity false, .infinity true],
        (numberLiteral x).toList.take 12 = (numberLiteral y).toList.take 12 → x = y := by
    decide
  have hlength : ∀ x ∈ [Binary64.nan, .infinity false, .infinity true],
      12 ≤ (numberLiteral x).toList.length := by
    decide
  have hbegin := congrArg (List.take 12) h
  rw [List.take_append_of_le_length (hlength x (hlist x hx)),
    List.take_append_of_le_length (hlength y (hlist y hy))] at hbegin
  obtain rfl := hsame x (hlist x hx) y (hlist y hy) hbegin
  exact ⟨rfl, List.append_cancel_left h⟩

/-- Which values have a literal of some kind, numbers aside. -/
def LiteralKind.Fits : LiteralKind → Value → Prop
  | .null, v => v = .null
  | .bool, v => ∃ b, v = .bool b
  | .special, v => ∃ x, v = .float x
  | .string, v => ∃ s, v = .str s
  | .tuple, v => ∃ items, v = .tuple items
  | .list, v => ∃ items, v = .list items
  | .map, v => ∃ entries, v = .map entries
  | .number, _ => True
  | .none, _ => True

theorem fits_literalKind (v : Value) : v.literalKind.Fits v := by
  cases v with
  | null => rfl
  | float x =>
    cases x with
    | finite => trivial
    | nan | infinity => exact ⟨_, rfl⟩
  | bool | str | tuple | list | map => exact ⟨_, rfl⟩
  | _ => trivial

/-- Literals that begin in different ways are told apart, so only those of one kind are compared. -/
theorem IsToldApart.of_kind {v : Value} (hv : v.IsLiteral)
    (h : ∀ w : Value, w.IsLiteral → v.literalKind.Fits w → w.literalKind = v.literalKind →
      v.AreToldApart w) : v.IsToldApart := by
  intro w hw t u r s ht hu hr hs hsame
  have hkind := literalKind_eq_of_append hv hw ht hu hsame
  exact h w hw (hkind ▸ fits_literalKind w) hkind t u r s ht hu hr hs hsame

namespace AreToldApart

theorem bool (b c : Bool) : (Value.bool b).AreToldApart (.bool c) := by
  by_cases hsame : b = c
  · rw [hsame]
    exact .self _
  · intro t u r s ht hu _ _ h
    obtain rfl := Except.ok.inj ht
    obtain rfl := Except.ok.inj hu
    -- one text begins with a `T` and the other one with an `F`
    cases b <;> cases c
    · exact absurd rfl hsame
    · exact absurd (List.cons.inj h).1 (by decide)
    · exact absurd (List.cons.inj h).1 (by decide)
    · exact absurd rfl hsame

theorem number {v w : Value} (hv : v.IsLiteral) (hw : w.IsLiteral) (hkind : v.literalKind = .number)
    (hsame : w.literalKind = .number) : v.AreToldApart w :=
  fun _ _ _ _ ht hu hr hs h =>
    isToldApart_number (isNumberText_of_kind hv hkind ht) (isNumberText_of_kind hw hsame hu) hr hs h

theorem special {x y : Binary64} (hx : (Value.float x).literalKind = .special)
    (hy : (Value.float y).literalKind = .special) : (Value.float x).AreToldApart (.float y) := by
  intro t u r s ht hu _ _ h
  obtain rfl := Except.ok.inj ht
  obtain rfl := Except.ok.inj hu
  obtain ⟨hsame, hend⟩ := special_append_inj hx hy h
  exact ⟨congrArg Value.float hsame, hend⟩

theorem str (text other : String) : (Value.str text).AreToldApart (.str other) := by
  intro t u r s ht hu _ _ h
  obtain rfl := Except.ok.inj ht
  obtain rfl := Except.ok.inj hu
  obtain ⟨hsame, hend⟩ := Text.quote_append_inj h
  exact ⟨congrArg Value.str (String.toList_inj.1 hsame), hend⟩

section rows
variable {items ws : List Value} (hapart : ∀ v ∈ items, ∀ w ∈ ws, v.AreToldApart w)
  (hitems : ∀ v ∈ items, v.IsLiteral) (hws : ∀ w ∈ ws, w.IsLiteral)
include hapart hitems hws

theorem tuple : (Value.tuple items).AreToldApart (.tuple ws) := by
  intro t u r s ht hu _ _ h
  obtain ⟨ts, hts, rfl⟩ := Result.map_eq_ok.1 ht
  obtain ⟨us, hus, rfl⟩ := Result.map_eq_ok.1 hu
  rw [layoutAll_eq_mapM] at hts hus
  obtain ⟨hsame, hend⟩ := tupleText_append_inj hapart hitems hws hts hus h
  exact ⟨congrArg Value.tuple hsame, hend⟩

theorem list : (Value.list items).AreToldApart (.list ws) := by
  intro t u r s ht hu _ _ h
  obtain ⟨ts, hts, rfl⟩ := Result.map_eq_ok.1 ht
  obtain ⟨us, hus, rfl⟩ := Result.map_eq_ok.1 hu
  rw [layoutAll_eq_mapM] at hts hus
  have hboth := List.forall_mem_append.2 ⟨hitems, hws⟩
  have hclose : ']' ∈ itemEnds := by decide
  obtain ⟨hsame, hend⟩ := join_append_inj hclose (by decide) hapart
    (fun v hv t rest ht => head?_codeText (hboth v hv) ht rest fun _ => rfl)
    hts hus (List.cons.inj h).2
  exact ⟨congrArg Value.list hsame, hend⟩

end rows

/-- Mappings are told apart entry by entry. No entry begins with the brace that closes, since its
    key is a literal. -/
theorem map {entries others : List (Value × Value)}
    (hapart : ∀ entry ∈ entries, ∀ other ∈ others, AreApartIn entryText entry other)
    (hkeys : ∀ entry ∈ entries, entry.1.IsLiteral) (hothers : ∀ other ∈ others, other.1.IsLiteral) :
    (Value.map entries).AreToldApart (.map others) := by
  intro t u r s ht hu _ _ h
  obtain ⟨ts, hts, rfl⟩ := Result.map_eq_ok.1 ht
  obtain ⟨us, hus, rfl⟩ := Result.map_eq_ok.1 hu
  rw [layoutEntries_eq_mapM] at hts hus
  have hboth := List.forall_mem_append.2 ⟨hkeys, hothers⟩
  have hclose : '\x7d' ∈ itemEnds := by decide
  obtain ⟨hsame, hend⟩ := join_append_inj hclose (by decide) hapart
    (fun entry hentry t rest ht => head?_entryText (hboth entry hentry) ht rest fun _ => rfl)
    hts hus (List.cons.inj h).2
  exact ⟨congrArg Value.map hsame, hend⟩

end AreToldApart

/-- The literals of two values with texts behind them, which end an item each, are the same only if
    the values and the texts are. -/
theorem layout_append_inj {v : Value} (hv : v.IsLiteral) : v.IsToldApart := by
  induction hv with
  | null =>
    refine .of_kind .null fun w _ hform _ => ?_
    obtain rfl : w = .null := hform
    exact .self _
  | bool b =>
    refine .of_kind (.bool b) fun w _ hform _ => ?_
    obtain ⟨c, rfl⟩ := hform
    exact .bool b c
  | int n => exact .of_kind (.int n) fun w hw _ hkind => .number (.int n) hw rfl hkind
  | float x =>
    refine .of_kind (.float x) fun w hw hform hkind => ?_
    -- a finite number may be told from an integer, any other one only from its like
    cases x with
    | finite negative m => exact .number (.float _) hw rfl hkind
    | nan | infinity =>
      obtain ⟨y, rfl⟩ := hform
      exact .special rfl hkind
  | str text =>
    refine .of_kind (.str text) fun w _ hform _ => ?_
    obtain ⟨other, rfl⟩ := hform
    exact .str text other
  | tuple hitems ih =>
    refine .of_kind (.tuple hitems) fun w hw hform _ => ?_
    obtain ⟨ws, rfl⟩ := hform
    cases hw with
    | tuple hws => exact .tuple (fun v hv w hw => ih v hv w (hws w hw)) hitems hws
  | list hitems ih =>
    refine .of_kind (.list hitems) fun w hw hform _ => ?_
    obtain ⟨ws, rfl⟩ := hform
    cases hw with
    | list hws => exact .list (fun v hv w hw => ih v hv w (hws w hw)) hitems hws
  | map hkeys hvalues ihkeys ihvalues =>
    refine .of_kind (.map hkeys hvalues) fun w hw hform _ => ?_
    obtain ⟨others, rfl⟩ := hform
    cases hw with
    | map hothers hws =>
      refine .map (fun entry hentry other hother => ?_) hkeys hothers
      exact .entry (ihkeys entry hentry other.1 (hothers other hother))
        (ihvalues entry hentry other.2 (hws other hother))

end LayerGraph.Value
