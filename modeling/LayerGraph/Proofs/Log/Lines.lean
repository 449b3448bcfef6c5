import LayerGraph.Log.Query
import LayerGraph.Proofs.Json.Printable
import LayerGraph.Proofs.Json.Reread

/-! # Lines of a log

    A *note* is an event with the time at which it was told. Its entry is written as one line of
    printable characters, which begins and ends with a brace, and which is read again: the facts
    become what JSON makes of them, and all else is as it was told (`IsWritten.readLine`). So the
    lines of a file are the lines of the notes in it (`linesOf_textOf`), and looking them up gives
    the notes that are asked for (`entriesIn_asked`), whatever texts, numbers and nested values the
    notes hold. The facts of a document come back as they are (`IsWritable.found_eq`), and only a
    long integer keeps them from being written (`lineOf_eq_error`).
-/

namespace LayerGraph.Log

open Time (Instant)

/-! ### Notes -/

/-- An event with the time at which it was told. -/
structure Note where
  time : Instant
  event : Event

namespace Note

/-- The entry of a note. Facts that count as false are no facts, and a component without a name is
    left out. -/
def entry (note : Note) : Entries :=
  [("timestamp", .str note.time.text), ("category", .str note.event.category),
    ("level", .str note.event.level), ("message", .str note.event.message),
    ("data", if note.event.data.truthy then note.event.data else .map [])] ++
    match note.event.component with
    | some name => if name = "" then [] else [("component", .str name)]
    | none => []

/-- What a note is when it is looked up. -/
def value (note : Note) : Value := .ofEntries note.entry

theorem entry_eq (note : Note) : note.event.entry note.time = note.entry := by
  obtain ⟨time, ⟨category, level, message, data, component⟩⟩ := note
  cases component with
  | none => rfl
  | some name =>
    by_cases hname : name = ""
    · subst hname
      rfl
    · have hfilled : name.isEmpty = false := by simpa using hname
      simp [entry, Event.entry, Event.fields, Event.facts, hname]

/-- A note that can be written down: its facts are those of a document without long integers. -/
structure IsWritable (note : Note) : Prop where
  data : Json.IsData note.event.data
  showable : note.event.data.isShowable = true

theorem isData_facts {data : Value} (h : Json.IsData data) :
    Json.IsData (if data.truthy then data else .map []) := by
  split
  · exact h
  · have hempty : Json.IsData (.ofEntries []) := .object List.nodup_nil nofun
    exact hempty

/-- What counts as false holds no long integer. -/
theorem isShowable_of_falsy {data : Value} (h : Json.IsData data) (hfalsy : data.truthy = false) :
    data.isShowable = true := by
  cases h with
  | null | bool | float | str => rfl
  | int n =>
    have hzero : n = 0 := by simpa [Value.truthy] using hfalsy
    subst hzero
    have hlt : (0 : Int).natAbs < 10 ^ 1 := by decide
    rw [Value.isShowable]
    exact Value.isShort_of_lt hlt (by decide)
  | @list items each =>
    have hnil : items = [] := by simpa [Value.truthy] using hfalsy
    subst hnil
    rfl
  | @object entries distinct each =>
    have hnil : entries = [] := by simpa [Value.truthy, Value.ofEntries] using hfalsy
    subst hnil
    rfl

theorem isShowable_facts {data : Value} (h : Json.IsData data) :
    (if data.truthy then data else .map []).isShowable = data.isShowable := by
  cases htruthy : data.truthy with
  | true => rfl
  | false => exact (isShowable_of_falsy h htruthy).symm

/-- What holds of the facts, and of all strings, holds of every member of an entry. -/
theorem forall_mem_entry {P : Value → Prop} {note : Note} (hstr : ∀ s, P (.str s))
    (hfacts : P (if note.event.data.truthy then note.event.data else .map [])) :
    ∀ member ∈ note.entry, P member.2 := by
  have hcomponent : ∀ member ∈ (match note.event.component with
      | some name => if name = "" then [] else [("component", Value.str name)]
      | none => [] : Entries), P member.2 := by
    cases note.event.component with
    | none => exact nofun
    | some name =>
      simp only
      split
      · exact nofun
      · exact List.forall_mem_singleton.2 (hstr name)
  unfold entry
  rw [List.forall_mem_append]
  simp only [List.forall_mem_cons]
  exact ⟨⟨hstr _, hstr _, hstr _, hstr _, hfacts, nofun⟩, hcomponent⟩

theorem nodup_entry (note : Note) : (note.entry.map (·.1)).Nodup := by
  unfold entry
  cases note.event.component with
  | none => simp
  | some name =>
    by_cases hname : name = ""
    · simp [hname]
    · simp [hname]

theorem isData_value {note : Note} (h : Json.IsData note.event.data) : Json.IsData note.value :=
  .object note.nodup_entry (forall_mem_entry .str (isData_facts h))

theorem isShowable_value {note : Note} (h : Json.IsData note.event.data) :
    note.value.isShowable = note.event.data.isShowable := by
  rw [Bool.eq_iff_iff]
  unfold value
  rw [Value.isShowable_ofEntries, ← isShowable_facts h]
  refine ⟨fun hall => ?_, forall_mem_entry (P := fun v => v.isShowable = true) fun _ => rfl⟩
  exact hall ("data", if note.event.data.truthy then note.event.data else .map [])
    (by simp [entry])

/-- The line of a note. -/
def line (note : Note) : List Char := (Json.valueText note.value).toOption.getD []

/-- A writable note is written as its line, and its value is read back from it. -/
theorem IsWritable.isReadBack {note : Note} (h : note.IsWritable) :
    Json.IsReadBack note.value note.line := by
  have hshow : note.value.isShowable = true := (isShowable_value h.data).trans h.showable
  obtain ⟨text, htext⟩ := Json.exists_isReadBack (isData_value h.data) hshow
  have hline : note.line = text := by
    unfold line
    rw [htext.written]
    rfl
  rwa [hline]

/-- A note whose entry can be written. -/
def IsWritten (note : Note) : Prop := Json.valueText note.value = .ok note.line

/-- The line of a written note is what the store writes for its entry. -/
theorem IsWritten.lineOf {note : Note} (h : note.IsWritten) :
    Store.lineOf note.entry = .ok (String.ofList note.line) := by
  have hwritten : Json.valueText (.ofEntries note.entry) = .ok note.line := h
  unfold Store.lineOf Json.write
  rw [hwritten]
  rfl

/-- An entry that is written is that of a written note. -/
theorem isWritten_of_lineOf {note : Note} {written : String}
    (h : Store.lineOf note.entry = .ok written) :
    note.IsWritten ∧ written = String.ofList note.line := by
  unfold Store.lineOf Json.write at h
  obtain ⟨text, htext, hwritten⟩ := Result.map_eq_ok.1 (Result.mapError_eq_ok.1 h)
  have hown : note.line = text := by
    unfold line value
    rw [htext]
    rfl
  exact ⟨htext.trans (congrArg Except.ok hown.symm), hown ▸ hwritten.symm⟩

theorem IsWritable.isWritten {note : Note} (h : note.IsWritable) : note.IsWritten :=
  h.isReadBack.written

/-- The entry of a note with other facts. -/
def entryWith (note : Note) (facts : Value) : Entries :=
  [("timestamp", .str note.time.text), ("category", .str note.event.category),
    ("level", .str note.event.level), ("message", .str note.event.message), ("data", facts)] ++
    match note.event.component with
    | some name => if name = "" then [] else [("component", .str name)]
    | none => []

/-- What a note is when it is looked up: its facts are what JSON makes of them. -/
def found (note : Note) : Value := .ofEntries (note.entryWith (Json.reread note.event.facts))

theorem IsWritten.isReadAs {note : Note} (h : note.IsWritten) :
    Json.IsReadAs note.line note.found := by
  have hread := Json.isReadAs_ofEntries note.nodup_entry h
  have hfound : note.entry.map (fun member => (member.1, Json.reread member.2)) =
      note.entryWith (Json.reread note.event.facts) := by
    unfold entry entryWith Event.facts
    rw [List.map_append]
    refine congr (congrArg _ (by simp [Json.reread_str])) ?_
    cases note.event.component with
    | none => rfl
    | some name =>
      simp only
      split
      · rfl
      · simp [Json.reread_str]
  rwa [hfound] at hread

/-- The facts of a document come back as they are. -/
theorem IsWritable.found_eq {note : Note} (h : note.IsWritable) : note.found = note.value :=
  (h.isWritten.isReadAs.reread_eq h.isWritten).symm.trans (h.isReadBack.reads.reread_eq h.isWritten)

/-- A long integer keeps a note from being written. -/
theorem lineOf_eq_error {note : Note} (h : Json.IsData note.event.data)
    (hlong : note.event.data.isShowable = false) :
    Store.lineOf note.entry = .error (.noText .integerTooLong) := by
  have hwritten : Json.valueText (.ofEntries note.entry) = .error (.noText .integerTooLong) :=
    Json.valueText_eq_error (isData_value h) ((isShowable_value h).trans hlong)
  unfold Store.lineOf Json.write
  rw [hwritten]
  rfl

end Note

/-! ### Lines -/

/-- A text of printable characters that begins and ends with a brace. -/
structure IsBraced (cs : List Char) : Prop where
  printable : ∀ c ∈ cs, Json.isPrintableAscii c = true
  head : cs.head? = some '\x7b'
  last : cs.getLast? = some '\x7d'

theorem Note.IsWritten.isBraced {note : Note} (h : note.IsWritten) : IsBraced note.line := by
  have hwritten : Json.valueText note.value = .ok note.line := h
  have hprintable := Json.isPrintableAscii_of_mem_valueText hwritten
  unfold Note.value Value.ofEntries at hwritten
  rw [Json.valueText] at hwritten
  obtain ⟨texts, _, htext⟩ := Result.map_eq_ok.1 hwritten
  refine ⟨hprintable, ?_, ?_⟩
  · rw [← htext]
    rfl
  · rw [← htext]
    exact List.getLast?_concat

namespace IsBraced
variable {cs : List Char}

theorem not_mem (h : IsBraced cs) {c : Char} (hc : Json.isPrintableAscii c = false) : c ∉ cs :=
  fun hmem => by
    rw [h.printable c hmem] at hc
    exact absurd hc nofun

theorem not_isEmpty (h : IsBraced cs) : ¬cs.isEmpty = true := by
  obtain ⟨rest, rfl⟩ := List.head?_eq_some_iff.1 h.head
  exact nofun

/-- Nothing is trimmed off. -/
theorem trim (h : IsBraced cs) : Text.trim cs = cs := by
  apply Text.trimWhile_of_ends
  · intro c hc
    rw [h.head] at hc
    rw [← Option.some.inj hc]
    decide
  · intro c hc
    rw [h.last] at hc
    rw [← Option.some.inj hc]
    decide

end IsBraced

/-- A note is read from its line. -/
theorem Note.IsWritten.readLine {note : Note} (h : note.IsWritten) :
    readLine note.line = .ok (some note.found) := by
  have hbraced := h.isBraced
  have hroom : ¬Stack.isTooSmallFor note.line = true := Bool.false_ne_true
  unfold Log.readLine
  simp only
  rw [hbraced.trim, if_neg hbraced.not_isEmpty, if_neg hroom, h.isReadAs.read]

theorem unifyBreaks_of_not_mem {cs : List Char} (h : '\r' ∉ cs) : Text.unifyBreaks cs = cs := by
  induction cs with
  | nil => rfl
  | cons c cs ih =>
    rw [List.mem_cons, not_or] at h
    obtain ⟨hc, hcs⟩ := h
    rw [Text.unifyBreaks]
    · rw [ih hcs]
    · rintro rest rfl
      exact absurd rfl hc
    · rintro rfl
      exact absurd rfl hc

theorem not_mem_unifyBreaks (cs : List Char) : '\r' ∉ Text.unifyBreaks cs := by
  induction cs using Text.unifyBreaks.induct with
  | case1 => exact List.not_mem_nil
  | case2 cs ih =>
    rw [Text.unifyBreaks, List.mem_cons, not_or]
    exact ⟨by decide, ih⟩
  | case3 cs hfeed ih =>
    rw [Text.unifyBreaks, List.mem_cons, not_or]
    · exact ⟨by decide, ih⟩
    · exact hfeed
  | case4 c cs hbreak hreturn ih =>
    rw [Text.unifyBreaks, List.mem_cons, not_or]
    · exact ⟨fun hc => hreturn hc.symm, ih⟩
    · exact hbreak
    · exact hreturn

/-- No line holds a line break. -/
theorem not_mem_of_mem_linesOf {text : String} {line : List Char} (h : line ∈ linesOf text) :
    '\r' ∉ line ∧ '\n' ∉ line := by
  have hline : line ∈ Text.lines (Text.unifyBreaks text.toList) := by
    unfold linesOf at h
    simp only at h
    split at h
    · exact (List.dropLast_sublist _).subset h
    · exact h
  refine ⟨fun hmem => ?_, Text.not_mem_of_mem_lines hline⟩
  exact not_mem_unifyBreaks _ (Text.mem_of_mem_lines hline hmem)

/-- The text of a file with the given lines. -/
def textOfLines (lines : List (List Char)) : List Char := lines.flatMap (· ++ ['\n'])

theorem lines_textOfLines {lines : List (List Char)} (h : ∀ line ∈ lines, '\n' ∉ line) :
    Text.lines (textOfLines lines) = lines ++ [[]] := by
  induction lines with
  | nil => rfl
  | cons line lines ih =>
    obtain ⟨hline, hlines⟩ := List.forall_mem_cons.1 h
    unfold textOfLines
    rw [List.flatMap_cons, List.append_assoc, List.singleton_append]
    unfold Text.lines
    rw [Text.pieces_append_cons hline]
    exact congrArg (line :: ·) (ih hlines)

/-- The lines of a text are those that were put into it. -/
theorem linesOf_textOfLines {lines : List (List Char)}
    (h : ∀ line ∈ lines, '\r' ∉ line ∧ '\n' ∉ line) :
    linesOf (String.ofList (textOfLines lines)) = lines := by
  have hreturn : '\r' ∉ textOfLines lines := by
    intro hmem
    obtain ⟨line, hline, hc⟩ := List.mem_flatMap.1 hmem
    rcases List.mem_append.1 hc with hc | hc
    · exact (h line hline).1 hc
    · exact absurd hc (by decide)
  unfold linesOf
  simp only
  rw [String.toList_ofList, unifyBreaks_of_not_mem hreturn,
    lines_textOfLines fun line hline => (h line hline).2, List.getLast?_concat, if_pos rfl,
    List.dropLast_concat]

/-! ### Files -/

/-- The text of a file with the lines of notes. -/
def textOf (notes : List Note) : String := String.ofList (textOfLines (notes.map (·.line)))

theorem textOf_concat (notes : List Note) (note : Note) :
    textOf (notes ++ [note]) = textOf notes ++ String.ofList note.line ++ "\n" := by
  unfold textOf textOfLines
  apply String.toList_inj.1
  simp

theorem textOf_append (notes others : List Note) :
    textOf (notes ++ others) = textOf notes ++ textOf others := by
  unfold textOf textOfLines
  apply String.toList_inj.1
  simp

theorem linesOf_textOf {notes : List Note} (h : ∀ note ∈ notes, note.IsWritten) :
    linesOf (textOf notes) = notes.map (·.line) := by
  refine linesOf_textOfLines ?_
  rw [List.forall_mem_map]
  intro note hnote
  have hbraced := (h note hnote).isBraced
  exact ⟨hbraced.not_mem (by decide), hbraced.not_mem (by decide)⟩

/-! ### Conditions -/

/-- The component of a note; one without a name is none. -/
def Note.component? (note : Note) : Option String := note.event.component.filter (!·.isEmpty)

/-- Whether a text, which may be missing, is as it is asked for. The empty text is not asked for. -/
def isAsked (asked own : Option String) : Bool := (asked.filter (!·.isEmpty)).all (own == some ·)

/-- Whether a note is one that a query asks for. -/
def Query.asksFor (query : Query) (note : Note) : Bool :=
  isAsked query.level (some note.event.level) && isAsked query.component note.component?

theorem member_level (note : Note) :
    member note.found "level" = .ok ((some note.event.level).map .str) :=
  rfl

theorem member_category (note : Note) :
    member note.found "category" = .ok (some (.str note.event.category)) :=
  rfl

theorem member_component (note : Note) :
    member note.found "component" = .ok (note.component?.map .str) := by
  unfold Note.component? member Note.found Note.entryWith
  cases note.event.component with
  | none => rfl
  | some name =>
    by_cases hname : name = ""
    · subst hname
      rfl
    · have hfilled : name.isEmpty = false := by simpa using hname
      simp [hname, hfilled, Option.filter, Value.ofEntries, Value.member?, Value.text?]

theorem hasText_of_member {key : String} {entry : Value} {own : Option String}
    (h : member entry key = .ok (own.map .str)) (asked : Option String) :
    hasText key asked entry = .ok (isAsked asked own) := by
  unfold hasText isAsked
  cases asked.filter (!·.isEmpty) with
  | none => rfl
  | some text =>
    simp only
    rw [h]
    cases own <;> simp [Bind.bind, Except.bind, Pure.pure, Except.pure, Value.equals,
      Value.leafEquals, Value.integer?, Value.text?]

theorem wants_found (query : Query) (note : Note) :
    query.wants note.found = .ok (query.asksFor note) := by
  unfold Query.wants Query.asksFor
  rw [hasText_of_member (member_level note), hasText_of_member (member_component note)]
  cases isAsked query.level (some note.event.level) with
  | true => rfl
  | false => rfl

/-- The entries that are found in a file are those of the notes that are asked for. -/
theorem entriesIn_asked {notes : List Note} (h : ∀ note ∈ notes, note.IsWritten) (query : Query) :
    query.entriesIn (linesOf (textOf notes)) =
      .ok ((notes.filter query.asksFor).map (·.found)) := by
  rw [linesOf_textOf h]
  induction notes with
  | nil => rfl
  | cons note notes ih =>
    obtain ⟨hnote, hnotes⟩ := List.forall_mem_cons.1 h
    rw [List.map_cons, Query.entriesIn, hnote.readLine]
    simp only [bind, Except.bind]
    rw [wants_found, ih hnotes]
    cases hasked : query.asksFor note with
    | false => simp [hasked]; rfl
    | true => simp [hasked]; rfl

end LayerGraph.Log
