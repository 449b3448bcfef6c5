import LayerGraph.Proofs.Json.RoundTrip
import LayerGraph.Proofs.Text.Trimming

/-! # JSON text is printable ASCII

    Whatever the value, its JSON text holds printable ASCII characters only
    (`isPrintableAscii_of_mem_valueText`): other characters are escaped in strings, and all else is
    laid out in such characters. So the text stands on one line, whatever counts as a line end.
-/

namespace LayerGraph.Json

open Number (Binary64 IsRow IsWhole Magnitude isDigit)

/-- Whether a character is a printable one of ASCII. -/
def isPrintableAscii (c : Char) : Bool := decide (32 ≤ c.toNat) && decide (c.toNat < 127)

theorem isPrintableAscii_of_isDigit {c : Char} (h : isDigit c = true) :
    isPrintableAscii c = true := by
  have hbounds := Number.le_of_isDigit h
  simp only [isPrintableAscii, Bool.and_eq_true, decide_eq_true_eq]
  omega

/-! ### Strings -/

theorem isPrintableAscii_digitChar : ∀ d < 16, isPrintableAscii (Nat.digitChar d) = true := by
  decide

theorem isPrintableAscii_of_mem_unitEscape {u : Nat} (h : u < 0x10000) :
    ∀ c ∈ unitEscape u, isPrintableAscii c = true := by
  unfold unitEscape
  rw [hexadecimal_four h]
  simp only [List.forall_mem_cons]
  exact ⟨rfl, rfl, isPrintableAscii_digitChar _ (by omega), isPrintableAscii_digitChar _ (by omega),
    isPrintableAscii_digitChar _ (by omega), isPrintableAscii_digitChar _ (by omega),
    List.forall_mem_nil _⟩

/-- A character that is not printable is escaped. -/
theorem isPrintableAscii_of_mem_escapeChar (d : Char) :
    ∀ c ∈ escapeChar d, isPrintableAscii c = true := by
  unfold escapeChar
  split
  · exact List.all_eq_true.1 (by decide)
  split
  · exact List.all_eq_true.1 (by decide)
  split
  · exact List.all_eq_true.1 (by decide)
  split
  · exact List.all_eq_true.1 (by decide)
  split
  · exact List.all_eq_true.1 (by decide)
  split
  · exact List.all_eq_true.1 (by decide)
  split
  · exact List.all_eq_true.1 (by decide)
  split
  · next hprintable =>
    rw [List.forall_mem_singleton, isPrintableAscii, decide_eq_true hprintable.1,
      decide_eq_true hprintable.2]
    rfl
  split
  · next hsmall => exact isPrintableAscii_of_mem_unitEscape hsmall
  · have hvalid := not_surrogate d
    intro c hc
    rcases List.mem_append.1 hc with hhigh | hlow
    · exact isPrintableAscii_of_mem_unitEscape (by omega) c hhigh
    · exact isPrintableAscii_of_mem_unitEscape (by omega) c hlow

theorem isPrintableAscii_of_mem_stringText (s : String) :
    ∀ c ∈ stringText s, isPrintableAscii c = true := by
  unfold stringText
  rw [List.forall_mem_append, List.forall_mem_cons]
  refine ⟨⟨by decide, fun c hc => ?_⟩, List.forall_mem_singleton.2 (by decide)⟩
  obtain ⟨d, _, hd⟩ := List.mem_flatMap.1 hc
  exact isPrintableAscii_of_mem_escapeChar d c hd

/-! ### Numbers -/

theorem isPrintableAscii_of_isRow {ds : List Char} (h : IsRow ds) :
    ∀ c ∈ ds, isPrintableAscii c = true :=
  fun c hc => isPrintableAscii_of_isDigit (h.digits c hc)

theorem isPrintableAscii_of_mem_signed {cs : List Char} (negative : Bool)
    (h : ∀ c ∈ cs, isPrintableAscii c = true) :
    ∀ c ∈ signed negative cs, isPrintableAscii c = true := by
  cases negative with
  | true => exact List.forall_mem_cons.2 ⟨by decide, h⟩
  | false => exact h

theorem isPrintableAscii_of_mem_text {parts : NumberParts} (h : parts.IsProper) :
    ∀ c ∈ parts.text, isPrintableAscii c = true := by
  obtain ⟨whole, fraction, exponent⟩ := parts
  unfold NumberParts.text
  rw [List.forall_mem_append, List.forall_mem_append]
  refine ⟨?_, ?_, ?_⟩
  · rcases h.whole with hzero | hwhole
    · show ∀ c ∈ whole, _
      rw [show whole = ['0'] from hzero]
      exact isPrintableAscii_of_isRow Number.isRow_zero
    · exact isPrintableAscii_of_isRow hwhole.toIsRow
  · cases fraction with
    | none => exact nofun
    | some ds =>
      exact List.forall_mem_cons.2 ⟨by decide, isPrintableAscii_of_isRow (h.fraction ds rfl)⟩
  · cases exponent with
    | none => exact nofun
    | some e =>
      obtain ⟨ds, hds, _, htext⟩ := exists_exponentText e
      unfold NumberParts.exponentMark
      simp only
      rw [htext, List.forall_mem_cons, List.forall_mem_cons]
      refine ⟨by decide, ?_, isPrintableAscii_of_isRow hds⟩
      split <;> decide

theorem isPrintableAscii_of_mem_floatText (x : Binary64) :
    ∀ c ∈ (floatText x).toList, isPrintableAscii c = true := by
  cases x with
  | nan => exact List.all_eq_true.1 (by decide)
  | infinity negative => cases negative <;> exact List.all_eq_true.1 (by decide)
  | finite negative m =>
    obtain ⟨parts, hproper, htext, _⟩ := exists_magnitudeParts m negative
    show ∀ c ∈ (Binary64.finite negative m).text.toList, _
    rw [Binary64.text, String.toList_ofList, htext]
    exact isPrintableAscii_of_mem_signed negative (isPrintableAscii_of_mem_text hproper)

theorem isPrintableAscii_of_mem_integerText {n : Int} {text : List Char}
    (h : integerText n = .ok text) : ∀ c ∈ text, isPrintableAscii c = true := by
  obtain ⟨rfl, _⟩ := integerText_eq_ok h
  exact isPrintableAscii_of_mem_signed _ (isPrintableAscii_of_isRow (Number.isRow_toDigits _))

/-! ### Values -/

theorem isPrintableAscii_of_mem_leafText {v : Value} {text : List Char}
    (h : leafText v = .ok text) : ∀ c ∈ text, isPrintableAscii c = true := by
  have hstring : ∀ s : String, Except.ok (stringText s) = Except.ok (ε := WriteError) text →
      ∀ c ∈ text, isPrintableAscii c = true :=
    fun s hs => Except.ok.inj hs ▸ isPrintableAscii_of_mem_stringText s
  cases v with
  | null =>
    obtain rfl := Except.ok.inj h
    exact List.all_eq_true.1 (by decide)
  | bool b =>
    obtain rfl := Except.ok.inj h
    cases b <;> exact List.all_eq_true.1 (by decide)
  | int n => exact isPrintableAscii_of_mem_integerText h
  | float x =>
    obtain rfl := Except.ok.inj h
    exact isPrintableAscii_of_mem_floatText x
  | str s => exact hstring s h
  | expr s => exact hstring s h
  | _ =>
    obtain ⟨s, _, rfl⟩ := Result.map_eq_ok.1 h
    exact isPrintableAscii_of_mem_stringText s

/-- Printable texts joined by commas and blanks are printable. -/
theorem isPrintableAscii_of_mem_join {texts : List (List Char)}
    (h : ∀ text ∈ texts, ∀ c ∈ text, isPrintableAscii c = true) :
    ∀ c ∈ Text.join [',', ' '] texts, isPrintableAscii c = true := by
  intro c hc
  rw [← Bool.not_eq_false]
  intro hplain
  have hother : ∀ d, isPrintableAscii d = true → c ≠ d := fun d hd hcd => by
    rw [hcd, hd] at hplain
    exact absurd hplain nofun
  refine Text.not_mem_join ?_ (fun text htext hmem => ?_) hc
  · simp [hother ',' (by decide), hother ' ' (by decide)]
  · exact hother c (h text htext c hmem) rfl

theorem isPrintableAscii_of_mem_itemTexts {items : List Value} {texts : List (List Char)}
    (h : itemTexts items = .ok texts)
    (hitems : ∀ v ∈ items, ∀ text, valueText v = .ok text → ∀ c ∈ text, isPrintableAscii c = true) :
    ∀ text ∈ texts, ∀ c ∈ text, isPrintableAscii c = true := by
  induction items generalizing texts with
  | nil =>
    obtain rfl := Except.ok.inj h
    exact nofun
  | cons v items ih =>
    rw [itemTexts] at h
    obtain ⟨first, hfirst, h⟩ := Result.bind_eq_ok.1 h
    obtain ⟨others, hothers, h⟩ := Result.bind_eq_ok.1 h
    obtain rfl := Except.ok.inj h
    obtain ⟨hv, hitems⟩ := List.forall_mem_cons.1 hitems
    exact List.forall_mem_cons.2 ⟨hv first hfirst, ih hothers hitems⟩

theorem isPrintableAscii_of_mem_memberTexts {entries : List (Value × Value)}
    {texts : List (List Char)} (h : memberTexts entries = .ok texts)
    (hentries : ∀ entry ∈ entries, ∀ text, valueText entry.2 = .ok text →
      ∀ c ∈ text, isPrintableAscii c = true) :
    ∀ text ∈ texts, ∀ c ∈ text, isPrintableAscii c = true := by
  induction entries generalizing texts with
  | nil =>
    obtain rfl := Except.ok.inj h
    exact nofun
  | cons entry entries ih =>
    obtain ⟨key, v⟩ := entry
    rw [memberTexts] at h
    obtain ⟨name, _, h⟩ := Result.bind_eq_ok.1 h
    obtain ⟨text, htext, h⟩ := Result.bind_eq_ok.1 h
    obtain ⟨others, hothers, h⟩ := Result.bind_eq_ok.1 h
    obtain rfl := Except.ok.inj h
    obtain ⟨hv, hentries⟩ := List.forall_mem_cons.1 hentries
    refine List.forall_mem_cons.2 ⟨?_, ih hothers hentries⟩
    rw [List.forall_mem_append, List.forall_mem_cons, List.forall_mem_cons]
    exact ⟨isPrintableAscii_of_mem_stringText name, by decide, by decide, hv text htext⟩

theorem isPrintableAscii_of_mem_listText {texts : List (List Char)}
    (h : ∀ text ∈ texts, ∀ c ∈ text, isPrintableAscii c = true) :
    ∀ c ∈ Value.listText texts, isPrintableAscii c = true := by
  unfold Value.listText
  rw [List.forall_mem_append, List.forall_mem_cons]
  exact ⟨⟨by decide, isPrintableAscii_of_mem_join h⟩, List.forall_mem_singleton.2 (by decide)⟩

theorem isPrintableAscii_of_mem_valueText {v : Value} {text : List Char}
    (h : valueText v = .ok text) : ∀ c ∈ text, isPrintableAscii c = true := by
  induction v using Value.induct generalizing text with
  | leaf v hleaf =>
    have hwritten : leafText v = .ok text := by
      cases v with
      | tuple | list | map => exact absurd hleaf nofun
      | _ => exact h
    exact isPrintableAscii_of_mem_leafText hwritten
  | set items _ => exact isPrintableAscii_of_mem_leafText (v := .set items) h
  | tuple items ih =>
    rw [valueText] at h
    obtain ⟨texts, htexts, rfl⟩ := Result.map_eq_ok.1 h
    exact isPrintableAscii_of_mem_listText
      (isPrintableAscii_of_mem_itemTexts htexts fun v hv _ htext => ih v hv htext)
  | list items ih =>
    rw [valueText] at h
    obtain ⟨texts, htexts, rfl⟩ := Result.map_eq_ok.1 h
    exact isPrintableAscii_of_mem_listText
      (isPrintableAscii_of_mem_itemTexts htexts fun v hv _ htext => ih v hv htext)
  | map entries ih =>
    rw [valueText] at h
    obtain ⟨texts, htexts, rfl⟩ := Result.map_eq_ok.1 h
    have hprintable := isPrintableAscii_of_mem_memberTexts htexts
      fun entry hentry _ htext => (ih entry hentry).2 htext
    unfold Value.mapText
    rw [List.forall_mem_append, List.forall_mem_cons]
    exact ⟨⟨by decide, isPrintableAscii_of_mem_join hprintable⟩,
      List.forall_mem_singleton.2 (by decide)⟩

end LayerGraph.Json
