import LayerGraph.Proofs.Json.RoundTrip

/-! # Whatever is written can be read

    Not every value that has a JSON text is a document: sequences of all kinds become lists, keys
    become strings, of which the last one counts if two are the same, and what JSON has no form for
    becomes its text. But every text that is written is read again, whatever the value was
    (`isReread`), and an object under strings keeps them, each with its value as that is
    reread (`isReadAs_ofEntries`).
-/

namespace LayerGraph.Json

/-- What a value becomes when it is written and read; null if it has no text. -/
def reread (v : Value) : Value :=
  match valueText v with
  | .ok text => (read text).toOption.getD .null
  | .error _ => .null

theorem IsReadAs.read {text : List Char} {v : Value} (h : IsReadAs text v) : read text = .ok v := by
  have hreads := h [] nofun
  rw [List.append_nil, ← hreads.skipBlanks_eq] at hreads
  exact read_of_reads hreads rfl

/-- The text of a value is read as nothing else than what the value is reread as. -/
theorem IsReadAs.reread_eq {v w : Value} {text : List Char} (hwritten : valueText v = .ok text)
    (h : IsReadAs text w) : reread v = w := by
  unfold reread
  rw [hwritten]
  simp only
  rw [h.read]
  rfl

theorem reread_str (s : String) : reread (.str s) = .str s :=
  (IsReadBack.str s).reads.reread_eq rfl

/-! ### Leaves -/

/-- What is shown as a text is read as a text. -/
theorem exists_isReadAs_of_display {v : Value} {text : List Char}
    (h : (v.display.mapError WriteError.noText).map stringText = .ok text) :
    ∃ w, IsReadAs text w := by
  obtain ⟨s, _, rfl⟩ := Result.map_eq_ok.1 h
  exact ⟨.str s, (IsReadBack.str s).reads⟩

theorem exists_isReadAs_leaf {v : Value} (hleaf : v.isLeaf = true) {text : List Char}
    (h : valueText v = .ok text) : ∃ w, IsReadAs text w := by
  cases v with
  | null =>
    obtain rfl := Except.ok.inj h
    exact ⟨.null, fun _ _ => reads_of_readScalar rfl⟩
  | bool b =>
    obtain rfl := Except.ok.inj h
    exact ⟨.bool b, (IsReadBack.bool b).reads⟩
  | int n =>
    have hwritten : integerText n = .ok text := h
    exact ⟨.int n, fun _ hrest => reads_of_readScalar (readScalar_int hwritten hrest)⟩
  | float x =>
    obtain rfl := Except.ok.inj h
    exact ⟨.float x, fun _ hrest => reads_of_readScalar (readScalar_float x hrest)⟩
  | str s | expr s =>
    obtain rfl := Except.ok.inj h
    exact ⟨.str s, (IsReadBack.str s).reads⟩
  | bytes content => exact exists_isReadAs_of_display (v := .bytes content) h
  | foreign thing => exact exists_isReadAs_of_display (v := .foreign thing) h
  | tuple | list | set | map => exact absurd hleaf nofun

/-! ### Sequences and mappings -/

/-- A value whose text, if it has one, is read as what the value is reread as. -/
def IsReread (v : Value) : Prop := ∀ text, valueText v = .ok text → IsReadAs text (reread v)

theorem isReread_of_exists {v : Value}
    (h : ∀ text, valueText v = .ok text → ∃ w, IsReadAs text w) : IsReread v := by
  intro text hwritten
  obtain ⟨w, hw⟩ := h text hwritten
  rwa [hw.reread_eq hwritten]

theorem forall₂_itemTexts {items : List Value} {texts : List (List Char)}
    (h : itemTexts items = .ok texts) (each : ∀ v ∈ items, IsReread v) :
    List.Forall₂ IsReadAs texts (items.map reread) := by
  induction items generalizing texts with
  | nil =>
    obtain rfl := Except.ok.inj h
    exact .nil
  | cons v items ih =>
    obtain ⟨hv, hitems⟩ := List.forall_mem_cons.1 each
    rw [itemTexts] at h
    obtain ⟨first, hfirst, h⟩ := Result.bind_eq_ok.1 h
    obtain ⟨others, hothers, h⟩ := Result.bind_eq_ok.1 h
    obtain rfl := Except.ok.inj h
    exact .cons (hv first hfirst) (ih hothers hitems)

/-- The text of a key; the empty one if it has none. -/
def keyName (key : Value) : String := (keyText key).toOption.getD ""

/-- The members of an object as they are read, those under the same key not yet put together. -/
def rereadMembers (entries : List (Value × Value)) : Entries :=
  entries.map fun entry => (keyName entry.1, reread entry.2)

theorem exists_row {entries : List (Value × Value)} {texts : List (List Char)}
    (h : memberTexts entries = .ok texts) (each : ∀ entry ∈ entries, IsReread entry.2) :
    ∃ row, Value.mapText texts = objectText row ∧
      List.Forall₂ IsMemberAs row (rereadMembers entries) := by
  suffices ∃ row : List (String × List Char),
      texts = row.map (fun member => memberText member.1 member.2) ∧
        List.Forall₂ IsMemberAs row (rereadMembers entries) by
    obtain ⟨row, rfl, hrow⟩ := this
    exact ⟨row, rfl, hrow⟩
  induction entries generalizing texts with
  | nil =>
    obtain rfl := Except.ok.inj h
    exact ⟨[], rfl, .nil⟩
  | cons entry entries ih =>
    obtain ⟨hentry, hentries⟩ := List.forall_mem_cons.1 each
    obtain ⟨key, v⟩ := entry
    rw [memberTexts] at h
    obtain ⟨name, hname, h⟩ := Result.bind_eq_ok.1 h
    obtain ⟨text, htext, h⟩ := Result.bind_eq_ok.1 h
    obtain ⟨others, hothers, h⟩ := Result.bind_eq_ok.1 h
    obtain rfl := Except.ok.inj h
    obtain ⟨row, rfl, hrow⟩ := ih hothers hentries
    have hkey : name = keyName key := by
      unfold keyName
      rw [hname]
      rfl
    exact ⟨(name, text) :: row, rfl, .cons ⟨hkey, hentry text htext⟩ hrow⟩

theorem isReadAs_of_map {entries : List (Value × Value)}
    (each : ∀ entry ∈ entries, IsReread entry.2) {text : List Char}
    (h : valueText (.map entries) = .ok text) :
    IsReadAs text (.ofEntries (setMembers [] (rereadMembers entries))) := by
  rw [valueText] at h
  obtain ⟨texts, htexts, rfl⟩ := Result.map_eq_ok.1 h
  obtain ⟨row, hrow, hmembers⟩ := exists_row htexts each
  rw [hrow]
  exact isReadAs_map hmembers

/-- Whatever is written is read again. -/
theorem isReread (v : Value) : IsReread v := by
  induction v using Value.induct with
  | leaf v hleaf => exact isReread_of_exists fun _ => exists_isReadAs_leaf hleaf
  | tuple items ih | list items ih =>
    refine isReread_of_exists fun text h => ?_
    rw [valueText] at h
    obtain ⟨texts, htexts, rfl⟩ := Result.map_eq_ok.1 h
    exact ⟨_, isReadAs_list (forall₂_itemTexts htexts ih)⟩
  | set => exact isReread_of_exists fun _ => exists_isReadAs_of_display
  | map entries ih =>
    exact isReread_of_exists fun _ h => ⟨_, isReadAs_of_map (fun entry he => (ih entry he).2) h⟩

/-- An object under different strings is read as one under the same strings. -/
theorem isReadAs_ofEntries {entries : Entries} (distinct : (entries.map (·.1)).Nodup)
    {text : List Char} (h : valueText (.ofEntries entries) = .ok text) :
    IsReadAs text (.ofEntries (entries.map fun entry => (entry.1, reread entry.2))) := by
  have hread := isReadAs_of_map (fun entry _ => isReread entry.2) h
  have hmembers : rereadMembers (entries.map fun entry => (Value.str entry.1, entry.2)) =
      entries.map fun entry => (entry.1, reread entry.2) := List.map_map
  rw [hmembers, setMembers_of_distinct (by simpa [Function.comp_def] using distinct),
    List.nil_append] at hread
  exact hread

end LayerGraph.Json
