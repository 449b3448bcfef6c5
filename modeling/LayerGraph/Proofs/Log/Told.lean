import LayerGraph.Proofs.Log.Journal

/-! # What a store was told

    As long as nothing is removed, a store has all that it was told, in whatever category, and with
    whatever facts. The notes of the events that were written down are *told*, and the store *holds*
    them: the file of each folder and day has their lines (`Holds`). Each action that removes
    nothing adds the lines of what it tells to the files (`Store.textAt_after`), so every run of
    such actions does (`Store.textAt_run`, `holds_of_run`). A store that agrees with its journal
    holds the notes of the journal (`Agrees.holds`).
-/

namespace LayerGraph.Log

open Time (Date Instant)

/-! ### Files -/

namespace Store

/-- What is put into a file is found there, and all other files are as they were. -/
theorem text?_put (store : Store) (folder name text other file : String) :
    (store.put folder name text).text? other file =
      if folder = other ∧ name = file then some text else store.text? other file := by
  unfold put
  split
  · next hthere =>
    -- the file is written in place, which changes no names
    have hnames : ((fun f : File => f.folder == other && f.name == file) ∘ fun f : File =>
        if f.folder == folder && f.name == name then { f with text := text } else f) =
          fun f => f.folder == other && f.name == file := by
      funext f
      rw [Function.comp_apply]
      split <;> rfl
    unfold text? at hthere ⊢
    rw [List.find?_map, hnames, Option.map_map]
    by_cases hsame : folder = other ∧ name = file
    · obtain ⟨rfl, rfl⟩ := hsame
      obtain ⟨found, hfound⟩ := Option.isSome_iff_exists.1 (Option.isSome_map.symm.trans hthere)
      have hmatch := List.find?_some hfound
      rw [hfound, if_pos ⟨rfl, rfl⟩, Option.map_some, Function.comp_apply, if_pos hmatch]
    · rw [if_neg hsame]
      refine Option.map_congr fun found hfound => ?_
      have hmatch := List.find?_some hfound
      simp only [Bool.and_eq_true, beq_iff_eq] at hmatch
      rw [Function.comp_apply, if_neg (by simp only [Bool.and_eq_true, beq_iff_eq]; grind)]
  · next hnone =>
    -- the file is made behind all others
    have hnew : ∀ f : File, f = ⟨folder, name, text⟩ →
        (f.folder == other && f.name == file) = decide (folder = other ∧ name = file) := by
      rintro f rfl
      grind
    unfold text? at hnone ⊢
    rw [List.find?_append, List.find?_singleton, hnew _ rfl]
    by_cases hsame : folder = other ∧ name = file
    · obtain ⟨rfl, rfl⟩ := hsame
      rw [Option.isSome_map, Option.not_isSome_iff_eq_none] at hnone
      rw [hnone]
      simp
    · simp [hsame]

theorem text?_addLine (store : Store) (folder name line other file : String) :
    (store.addLine folder name line).text? other file =
      if folder = other ∧ name = file then some ((store.text? folder name).getD "" ++ line ++ "\n")
      else store.text? other file :=
  text?_put ..

/-! ### Runs that remove nothing -/

end Store

/-- Whether an action removes nothing. -/
def Action.keeps : Action → Bool
  | .clear | .cleanup _ => false
  | _ => true

namespace Store

/-- The note that an action leaves: that of an event which is written down. -/
def toldBy (store : Store) : Action → List Note
  | .log event =>
    match store.record event with
    | .ok (_, some _) => [⟨store.now, event⟩]
    | _ => []
  | _ => []

/-- The notes that a run of actions leaves, in the order in which they are told. -/
def told (store : Store) : List Action → List Note
  | [] => []
  | action :: rest => store.toldBy action ++ (store.after action).told rest

/-- An event is written down as a line of the file of its folder and day, or nothing happens. -/
theorem log_cases (store : Store) (event : Event) :
    (store.toldBy (.log event) = [⟨store.now, event⟩] ∧ Note.IsWritten ⟨store.now, event⟩ ∧
      store.after (.log event) = store.addLine (Note.home ⟨store.now, event⟩)
        (fileName (Note.home ⟨store.now, event⟩) store.now.date)
        (String.ofList (Note.line ⟨store.now, event⟩))) ∨
    (store.toldBy (.log event) = [] ∧ store.after (.log event) = store) := by
  unfold toldBy after
  simp only
  cases hrecord : store.record event with
  | error failure => exact Or.inr ⟨rfl, rfl⟩
  | ok answer =>
    obtain ⟨next, entry⟩ := answer
    unfold record at hrecord
    split at hrecord
    · obtain ⟨line, hline, hrecord⟩ := Result.bind_eq_ok.1 hrecord
      simp only at hrecord
      split at hrecord
      · next home hhome =>
        obtain ⟨rfl, rfl⟩ := Prod.mk.inj (Except.ok.inj hrecord)
        have hentry : lineOf (Note.entry ⟨store.now, event⟩) = .ok line := by
          rwa [← Note.entry_eq]
        obtain ⟨hwritten, rfl⟩ := Note.isWritten_of_lineOf hentry
        have hown : Note.home ⟨store.now, event⟩ = home := Note.home_eq hhome
        rw [hown]
        exact Or.inl ⟨rfl, hwritten, rfl⟩
      · exact absurd hrecord nofun
    · obtain ⟨rfl, rfl⟩ := Prod.mk.inj (Except.ok.inj hrecord)
      exact Or.inr ⟨rfl, rfl⟩

/-- Telling an event changes neither the time nor the least level. -/
theorem after_log (store : Store) (event : Event) :
    (store.after (.log event)).now = store.now ∧
      (store.after (.log event)).minLevel = store.minLevel := by
  rcases store.log_cases event with ⟨-, -, hafter⟩ | ⟨-, hafter⟩
  · rw [hafter]
    exact ⟨addLine_now .., addLine_minLevel ..⟩
  · rw [hafter]
    exact ⟨rfl, rfl⟩

/-- What an action tells is its event, at the time of the store, and it has been written down. -/
theorem of_mem_toldBy {store : Store} {action : Action} {note : Note}
    (h : note ∈ store.toldBy action) :
    action = .log note.event ∧ note.time = store.now ∧ note.IsWritten := by
  cases action with
  | log event =>
    rcases store.log_cases event with ⟨htold, hwritten, -⟩ | ⟨htold, -⟩
    · rw [htold] at h
      obtain rfl := List.mem_singleton.1 h
      exact ⟨rfl, rfl, hwritten⟩
    · rw [htold] at h
      exact absurd h List.not_mem_nil
  | _ => exact absurd h List.not_mem_nil

/-- What a run tells are events of its actions, and they have been written down. -/
theorem of_mem_told {store : Store} {actions : List Action} {note : Note}
    (h : note ∈ store.told actions) : .log note.event ∈ actions ∧ note.IsWritten := by
  induction actions generalizing store with
  | nil => exact absurd h List.not_mem_nil
  | cons action rest ih =>
    rw [told, List.mem_append] at h
    rcases h with hown | hrest
    · obtain ⟨rfl, -, hwritten⟩ := of_mem_toldBy hown
      exact ⟨List.mem_cons_self, hwritten⟩
    · obtain ⟨hmem, hwritten⟩ := ih hrest
      exact ⟨List.mem_cons_of_mem _ hmem, hwritten⟩

/-! ### Texts of files -/

/-- The text of the file of a folder and day. A file that is not there has none. -/
def textAt (store : Store) (key : String × Date) : String :=
  (store.text? key.1 (fileName key.1 key.2)).getD ""

/-- A line that is added to the file of a note stands at its end, and in no other file. -/
theorem textAt_addLine (store : Store) (note : Note) (key : String × Date) :
    (store.addLine note.home (fileName note.home note.time.date) (String.ofList note.line)).textAt
      key = store.textAt key ++ textOf (notesOf [note] key) := by
  unfold textAt
  rw [text?_addLine]
  -- the file of the note is known by its name, for the name of a file tells its day
  by_cases hsame : note.key = key
  · subst hsame
    have hown : notesOf [note] note.key = [note] := notesOf_concat_self [] note
    rw [if_pos ⟨rfl, rfl⟩, Option.getD_some, hown]
    exact (String.append_assoc ..).trans (congrArg _ (textOf_concat [] note).symm)
  · have hnone : notesOf [note] key = [] := notesOf_concat_of_ne hsame []
    have hother : ¬(note.home = key.1 ∧
        fileName note.home note.time.date = fileName key.1 key.2) := by
      rintro ⟨hhome, hname⟩
      rw [← hhome] at hname
      exact hsame (Prod.ext hhome (fileName_inj.1 hname))
    rw [if_neg hother, hnone]
    exact String.append_empty.symm

/-- An action that removes nothing adds the lines of what it tells. -/
theorem textAt_after (store : Store) {action : Action} (hkeeps : action.keeps = true)
    (key : String × Date) : (store.after action).textAt key =
      store.textAt key ++ textOf (notesOf (store.toldBy action) key) := by
  cases action with
  | setMinLevel | setClock => exact String.append_empty.symm
  | log event =>
    rcases store.log_cases event with ⟨htold, -, hafter⟩ | ⟨htold, hafter⟩
    · rw [htold, hafter]
      exact store.textAt_addLine ⟨store.now, event⟩ key
    · rw [htold, hafter]
      exact String.append_empty.symm
  | clear | cleanup => exact absurd hkeeps nofun

/-- A run of such actions adds the lines of all that it tells, in order. -/
theorem textAt_run {store : Store} {actions : List Action}
    (hkeeps : ∀ action ∈ actions, action.keeps = true) (key : String × Date) :
    (store.run actions).textAt key =
      store.textAt key ++ textOf (notesOf (store.told actions) key) := by
  -- the store is free in the induction, since the rest is told to the store that comes of the first
  induction actions generalizing store with
  | nil => exact String.append_empty.symm
  | cons action rest ih =>
    obtain ⟨haction, hrest⟩ := List.forall_mem_cons.1 hkeeps
    have hstep : store.run (action :: rest) = (store.after action).run rest := rfl
    rw [hstep, ih hrest, store.textAt_after haction, told, notesOf_append, textOf_append,
      String.append_assoc]

end Store

/-- A store holds notes: the file of each folder and day has the lines of those that are filed
    there. A file that is not there has no lines. -/
structure Holds (store : Store) (notes : List Note) : Prop where
  text : ∀ folder date, (store.text? folder (fileName folder date)).getD "" =
    textOf (notesOf notes (folder, date))
  written : ∀ note ∈ notes, note.IsWritten

/-- A store that was empty holds what it was told. -/
theorem holds_of_run (least : String) (now : Instant) {actions : List Action}
    (hkeeps : ∀ action ∈ actions, action.keeps = true) :
    Holds ((Store.empty least now).run actions) ((Store.empty least now).told actions) where
  text folder date := (Store.textAt_run hkeeps (folder, date)).trans String.empty_append
  written _ hnote := (Store.of_mem_told hnote).2

/-- A store that agrees with its journal holds the notes of the journal. -/
theorem Agrees.holds {store : Store} {journal : Journal} (h : Agrees store journal) :
    Holds store journal.notes := by
  obtain ⟨keys, hkeys⟩ := h.filed
  refine ⟨fun folder date => ?_, fun note hnote => (h.writable note hnote).isWritten⟩
  rw [hkeys.text?]
  by_cases hmem : (folder, date) ∈ keys
  · rw [if_pos hmem, Option.getD_some]
  · rw [if_neg hmem, hkeys.notesOf_eq_nil hmem]
    rfl

end LayerGraph.Log
