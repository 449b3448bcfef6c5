import LayerGraph.Log.Retention
import LayerGraph.Proofs.Log.Lines
import LayerGraph.Proofs.Time.Stamp
import Mathlib.Data.List.Basic

/-! # The journal of a log store

    A store is told events, and it is set up, cleared and cleaned up in between. The *journal* is
    what it should hold after such a run of actions: a note for each event that passed the least
    level of its time, unless it was cleared since or was too old when the store was cleaned up. The
    journal knows nothing of files. A store *agrees* with it if its files are those of some folders
    and days, and each of them has the lines of the notes of its folder and day, in the order in
    which they were told (`Agrees`). Each action keeps a store in agreement (`Agrees.after`), so
    every run does (`agrees_of_run`).
-/

namespace LayerGraph.Log

open Time (Date Instant)

/-! ### Actions -/

/-- What can be done with a store. -/
inductive Action where
  | setMinLevel (level : String)
  | setClock (now : Instant)
  | log (event : Event)
  | clear
  /-- Removes what is older than so many days. -/
  | cleanup (days : Int)

namespace Store

/-- The store after an action. An action that fails leaves it as it is. -/
def after (store : Store) : Action → Store
  | .setMinLevel level => store.setMinLevel level
  | .setClock now => { store with now := now }
  | .log event =>
    match store.record event with
    | .ok (next, _) => next
    | .error _ => store
  | .clear => store.clear.1
  | .cleanup days =>
    match store.prune days with
    | .ok (next, _) => next
    | .error _ => store

/-- The store after actions, one by one. -/
def run (store : Store) (actions : List Action) : Store := actions.foldl after store

end Store

/-! ### Journals -/

/-- The notes that a store should hold, in the order in which they were told, with the least level
    that is told and the time. -/
structure Journal where
  notes : List Note
  least : String
  now : Instant

namespace Journal

/-- A journal without notes. -/
def empty (least : String) (now : Instant) : Journal := ⟨[], least, now⟩

/-- Whether an event is noted: it passes the least level, and holds no integer that is too long to
    be written. -/
def takes (journal : Journal) (event : Event) : Bool :=
  passes event.level journal.least && event.data.isShowable

/-- The journal after an action. -/
def after (journal : Journal) : Action → Journal
  | .setMinLevel level => { journal with least := Text.upper level }
  | .setClock now => { journal with now := now }
  | .log event =>
    if journal.takes event then { journal with notes := journal.notes ++ [⟨journal.now, event⟩] }
    else journal
  | .clear => { journal with notes := [] }
  | .cleanup days =>
    if days ≤ 0 then journal
    else
      match Date.daysBefore? days.toNat journal.now.date with
      | some cutoff =>
        { journal with notes := journal.notes.filter fun note => ¬note.time.date.IsBefore cutoff }
      | none => journal

/-- The journal after actions, one by one. -/
def run (journal : Journal) (actions : List Action) : Journal := actions.foldl after journal

/-- The actions that are meant: clocks stand in years of four digits, events are of a known category
    and have the facts of a document, and years of cutoffs have four digits, too. -/
def Admits (journal : Journal) : Action → Prop
  | .setMinLevel _ | .clear => True
  | .setClock now => 1000 ≤ now.date.year
  | .log event => event.category ∈ categories ∧ Json.IsData event.data
  | .cleanup days => 0 < days →
      ∃ cutoff, Date.daysBefore? days.toNat journal.now.date = some cutoff ∧ 1000 ≤ cutoff.year

/-- Actions of which each one is meant at its turn. -/
def AdmitsAll : Journal → List Action → Prop
  | _, [] => True
  | journal, action :: rest => journal.Admits action ∧ (journal.after action).AdmitsAll rest

end Journal

/-! ### Names of folders and files -/

/-- A category without steps is its own folder. -/
theorem homeOf?_of_not_mem {category : String} (h : '/' ∉ category.toList) :
    homeOf? category = some category := by
  have hpieces : Text.pieces '/' category.toList = [category.toList] :=
    Text.pieces_join (List.cons_ne_nil _ []) (List.forall_mem_singleton.2 h)
  unfold homeOf?
  rw [hpieces]

theorem homeOf?_of_mem {category : String} (h : category ∈ categories) :
    homeOf? category = some category := by
  have hplain : ∀ category ∈ categories, '/' ∉ category.toList := by decide
  exact homeOf?_of_not_mem (hplain category h)

theorem fileName_inj {category : String} {a b : Date} :
    fileName category a = fileName category b ↔ a = b := by
  refine ⟨fun h => ?_, fun h => by rw [h]⟩
  have hlist := congrArg String.toList h
  unfold fileName at hlist
  simp only [String.toList_append] at hlist
  exact Date.stamp_injective
    (String.toList_inj.1 (List.append_cancel_left (List.append_cancel_right hlist)))

/-- The name of a file of a category tells its stamp. -/
theorem stampOf?_named (category stamp : String) :
    stampOf? category (category ++ "-" ++ stamp ++ fileEnding) = some stamp := by
  have hfront : (category ++ "-").toList.isPrefixOf?
      (category ++ "-" ++ stamp ++ fileEnding).toList =
        some (stamp.toList ++ fileEnding.toList) := by
    rw [List.isPrefixOf?_eq_some_iff_append_eq]
    simp
  have hback : fileEnding.toList.isSuffixOf? (stamp.toList ++ fileEnding.toList) =
      some stamp.toList :=
    List.isSuffixOf?_eq_some_iff_append_eq.2 rfl
  unfold stampOf?
  rw [hfront, Option.bind_eq_bind, Option.bind_some, hback]
  exact congrArg some String.ofList_toList

/-- The stamp of a file of a category is that of its day. -/
theorem stampOf?_fileName (category : String) (date : Date) :
    stampOf? category (fileName category date) = some date.stamp :=
  stampOf?_named category date.stamp

/-! ### Files of notes -/

/-- The folder of a note. A category without a folder stands for itself; nothing is filed there. -/
def Note.home (note : Note) : String := (homeOf? note.event.category).getD note.event.category

theorem Note.home_eq {note : Note} {folder : String}
    (h : homeOf? note.event.category = some folder) : note.home = folder := by
  unfold home
  rw [h, Option.getD_some]

/-- The folder of a known category has its name. -/
theorem Note.home_of_mem {note : Note} (h : note.event.category ∈ categories) :
    note.home = note.event.category :=
  home_eq (homeOf?_of_mem h)

/-- The folder and the day of a note, by which it is filed. -/
def Note.key (note : Note) : String × Date := (note.home, note.time.date)

/-- The notes of a folder and a day, in order. -/
def notesOf (notes : List Note) (key : String × Date) : List Note :=
  notes.filter fun note => note.key = key

/-- The file of a folder and a day. -/
def fileOf (notes : List Note) (key : String × Date) : File :=
  ⟨key.1, fileName key.1 key.2, textOf (notesOf notes key)⟩

theorem notesOf_append (notes others : List Note) (key : String × Date) :
    notesOf (notes ++ others) key = notesOf notes key ++ notesOf others key :=
  List.filter_append notes others

theorem notesOf_concat_self (notes : List Note) (note : Note) :
    notesOf (notes ++ [note]) note.key = notesOf notes note.key ++ [note] := by
  simp [notesOf]

theorem notesOf_concat_of_ne {note : Note} {key : String × Date} (h : note.key ≠ key)
    (notes : List Note) : notesOf (notes ++ [note]) key = notesOf notes key := by
  simp [notesOf, h]

theorem fileOf_concat_of_ne {note : Note} {key : String × Date} (h : note.key ≠ key)
    (notes : List Note) : fileOf (notes ++ [note]) key = fileOf notes key := by
  unfold fileOf
  rw [notesOf_concat_of_ne h]

/-- A note that is told last adds its line to its own file. -/
theorem fileOf_concat_self (notes : List Note) (note : Note) :
    fileOf (notes ++ [note]) note.key =
      ⟨note.key.1, fileName note.key.1 note.key.2,
        textOf (notesOf notes note.key) ++ String.ofList note.line ++ "\n"⟩ := by
  unfold fileOf
  rw [notesOf_concat_self, textOf_concat]

/-- A file is the one of a folder and a day exactly if it has their names. -/
theorem fileOf_matches (notes : List Note) (key : String × Date) (folder : String) (date : Date) :
    ((fileOf notes key).folder == folder && (fileOf notes key).name == fileName folder date) =
      decide (key = (folder, date)) := by
  obtain ⟨own, day⟩ := key
  rw [Bool.eq_iff_iff, Bool.and_eq_true, beq_iff_eq, beq_iff_eq, decide_eq_true_eq, Prod.mk.injEq]
  constructor
  · rintro ⟨rfl, hname⟩
    exact ⟨rfl, fileName_inj.1 hname⟩
  · rintro ⟨rfl, rfl⟩
    exact ⟨rfl, rfl⟩

theorem isLog_fileOf {key : String × Date} (h : key.1 ∈ categories) (notes : List Note) :
    (fileOf notes key).isLog = true := by
  have hending : fileEnding.toList.isSuffixOf (fileName key.1 key.2).toList = true := by
    rw [List.isSuffixOf_iff_suffix]
    unfold fileName
    rw [String.toList_append]
    exact List.suffix_append _ _
  unfold File.isLog
  rw [Bool.and_eq_true]
  exact ⟨List.contains_iff_mem.2 h, hending⟩

/-- Whether a file is too old is told by its day. -/
theorem isBefore_fileOf {key : String × Date} (h : key.1 ∈ categories) (hyear : 1000 ≤ key.2.year)
    {cutoff : Date} (hcutoff : 1000 ≤ cutoff.year) (notes : List Note) :
    (fileOf notes key).isBefore cutoff.stamp = decide (key.2.IsBefore cutoff) := by
  unfold File.isBefore
  have hknown : categories.contains (fileOf notes key).folder = true := List.contains_iff_mem.2 h
  rw [hknown, Bool.true_and]
  show (stampOf? key.1 (fileName key.1 key.2)).any _ = _
  rw [stampOf?_fileName, Option.any_some, Bool.eq_iff_iff, decide_eq_true_eq, decide_eq_true_eq]
  exact Date.stamp_lt_iff hyear hcutoff

/-! ### Filing -/

/-- The files of notes: one for each of some folders and days, among them those of all notes. -/
structure IsFiled (files : List File) (notes : List Note) (keys : List (String × Date)) : Prop where
  files : files = keys.map (fileOf notes)
  distinct : keys.Nodup
  known : ∀ key ∈ keys, key.1 ∈ categories ∧ 1000 ≤ key.2.year
  covered : ∀ note ∈ notes, note.key ∈ keys

theorem find?_eq_self {α : Type} [DecidableEq α] (a : α) (xs : List α) :
    xs.find? (fun x => decide (x = a)) = if a ∈ xs then some a else none := by
  induction xs with
  | nil => rfl
  | cons x xs ih =>
    by_cases h : x = a
    · simp [h]
    · simp [h, ih, Ne.symm h]

namespace IsFiled
variable {store : Store} {notes : List Note} {keys : List (String × Date)}

theorem empty : IsFiled [] [] [] := ⟨rfl, List.nodup_nil, nofun, nofun⟩

/-- The text under a folder and a day is that of their notes, if there is a file for them. -/
theorem text? (h : IsFiled store.files notes keys) (folder : String) (date : Date) :
    store.text? folder (fileName folder date) =
      if (folder, date) ∈ keys then some (textOf (notesOf notes (folder, date))) else none := by
  unfold Store.text?
  rw [h.files, List.find?_map]
  have hmatches : ((fun file : File => file.folder == folder && file.name == fileName folder date) ∘
      fileOf notes) = fun key => decide (key = (folder, date)) :=
    funext fun key => fileOf_matches notes key folder date
  rw [hmatches, find?_eq_self]
  split <;> rfl

/-- A folder and a day without a file have no notes. -/
theorem notesOf_eq_nil (h : IsFiled store.files notes keys) {key : String × Date}
    (hkey : key ∉ keys) : notesOf notes key = [] := by
  refine List.filter_eq_nil_iff.2 fun note hnote hsame => hkey ?_
  rw [← of_decide_eq_true hsame]
  exact h.covered note hnote

/-- A line that is added to a file that is there files the note, without another file. -/
theorem addLine_of_mem (h : IsFiled store.files notes keys) {note : Note} (hmem : note.key ∈ keys) :
    IsFiled (store.addLine note.home (fileName note.home note.time.date)
      (String.ofList note.line)).files (notes ++ [note]) keys := by
  have htext := h.text? note.home note.time.date
  have hown : (note.home, note.time.date) = note.key := rfl
  rw [hown, if_pos hmem] at htext
  refine ⟨?_, h.distinct, h.known, ?_⟩
  · unfold Store.addLine Store.put
    rw [htext, Option.isSome_some, if_pos rfl]
    simp only [h.files, List.map_map]
    refine List.map_congr_left fun key _ => ?_
    simp only [Function.comp_apply, fileOf_matches, hown]
    by_cases hsame : key = note.key
    · rw [hsame, decide_eq_true rfl, if_pos rfl, fileOf_concat_self]
      rfl
    · rw [decide_eq_false hsame, fileOf_concat_of_ne (Ne.symm hsame)]
      rfl
  · rw [List.forall_mem_append, List.forall_mem_singleton]
    exact ⟨h.covered, hmem⟩

/-- A line that is added to a file that is not there files the note in a new one. -/
theorem addLine_of_not_mem (h : IsFiled store.files notes keys) {note : Note}
    (hmem : note.key ∉ keys) (hhome : note.home ∈ categories)
    (hyear : 1000 ≤ note.time.date.year) :
    IsFiled (store.addLine note.home (fileName note.home note.time.date)
      (String.ofList note.line)).files (notes ++ [note]) (keys ++ [note.key]) := by
  have htext := h.text? note.home note.time.date
  have hown : (note.home, note.time.date) = note.key := rfl
  rw [hown, if_neg hmem] at htext
  refine ⟨?_, ?_, ?_, ?_⟩
  · unfold Store.addLine Store.put
    rw [htext, Option.isSome_none, if_neg Bool.false_ne_true]
    have hold : keys.map (fileOf (notes ++ [note])) = keys.map (fileOf notes) :=
      List.map_congr_left fun key hkey => fileOf_concat_of_ne (fun hsame => hmem (hsame ▸ hkey)) _
    rw [List.map_append, hold, List.map_singleton, fileOf_concat_self, h.notesOf_eq_nil hmem,
      ← h.files]
    rfl
  · rw [List.nodup_append]
    refine ⟨h.distinct, by simp, fun key hkey other hother hsame => hmem ?_⟩
    rw [← List.mem_singleton.1 hother, ← hsame]
    exact hkey
  · rw [List.forall_mem_append, List.forall_mem_singleton]
    exact ⟨h.known, hhome, hyear⟩
  · rw [List.forall_mem_append, List.forall_mem_singleton]
    exact ⟨fun note hnote => List.mem_append_left _ (h.covered note hnote),
      List.mem_append_right _ List.mem_cons_self⟩

/-- A line that is added to the file of a note files the note. -/
theorem addLine (h : IsFiled store.files notes keys) (note : Note)
    (hhome : note.home ∈ categories) (hyear : 1000 ≤ note.time.date.year) :
    ∃ more, IsFiled (store.addLine note.home (fileName note.home note.time.date)
      (String.ofList note.line)).files (notes ++ [note]) more := by
  by_cases hmem : note.key ∈ keys
  · exact ⟨keys, h.addLine_of_mem hmem⟩
  · exact ⟨keys ++ [note.key], h.addLine_of_not_mem hmem hhome hyear⟩

/-- A part of the notes that holds all or none of a file is filed by the files that it holds. -/
theorem filter (h : IsFiled store.files notes keys) {keep : Note → Bool}
    {keepFile : File → Bool} (hkeep : ∀ key ∈ keys, ∀ note, note.key = key →
      keep note = keepFile (fileOf notes key)) :
    ∃ fewer, IsFiled (store.files.filter keepFile) (notes.filter keep) fewer := by
  refine ⟨keys.filter fun key => keepFile (fileOf notes key), ?_, h.distinct.filter _, ?_, ?_⟩
  · rw [h.files, List.filter_map]
    refine List.map_congr_left fun key hkey => ?_
    obtain ⟨hmem, hkept⟩ := List.mem_filter.1 hkey
    have hnotes : notesOf (notes.filter keep) key = notesOf notes key := by
      unfold notesOf
      rw [List.filter_filter]
      refine List.filter_congr fun note _ => ?_
      by_cases hsame : note.key = key
      · rw [decide_eq_true hsame, Bool.true_and, hkeep key hmem note hsame]
        exact hkept
      · rw [decide_eq_false hsame, Bool.false_and]
    unfold fileOf
    rw [hnotes]
  · exact fun key hkey => h.known key (List.mem_filter.1 hkey).1
  · intro note hnote
    obtain ⟨hmem, hkept⟩ := List.mem_filter.1 hnote
    refine List.mem_filter.2 ⟨h.covered note hmem, ?_⟩
    rwa [← hkeep note.key (h.covered note hmem) note rfl]

end IsFiled

/-! ### Agreement -/

/-- A store holds what a journal says. -/
structure Agrees (store : Store) (journal : Journal) : Prop where
  least : store.minLevel = journal.least
  now : store.now = journal.now
  clock : 1000 ≤ journal.now.date.year
  writable : ∀ note ∈ journal.notes, note.IsWritable
  filed : ∃ keys, IsFiled store.files journal.notes keys

theorem agrees_empty (least : String) {now : Instant} (hnow : 1000 ≤ now.date.year) :
    Agrees (.empty least now) (.empty least now) :=
  ⟨rfl, rfl, hnow, nofun, [], IsFiled.empty⟩

namespace Store

/-- An event below the least level is not written down. -/
theorem record_of_not_passes {store : Store} {event : Event}
    (h : passes event.level store.minLevel = false) : store.record event = .ok (store, none) := by
  unfold record
  rw [h]
  rfl

/-- A long integer in its facts keeps an event from being written down. -/
theorem record_eq_error {store : Store} {event : Event}
    (hpasses : passes event.level store.minLevel = true) (hdata : Json.IsData event.data)
    (hlong : event.data.isShowable = false) :
    store.record event = .error (.noText .integerTooLong) := by
  have hline : lineOf (Note.entry ⟨store.now, event⟩) = .error (.noText .integerTooLong) :=
    Note.lineOf_eq_error hdata hlong
  rw [← Note.entry_eq] at hline
  unfold record
  rw [if_pos hpasses]
  simp only [hline]
  rfl

/-- Any other event is written down, as a line of the file of its category and day. -/
theorem record_eq_ok {store : Store} {event : Event}
    (hpasses : passes event.level store.minLevel = true) (hcategory : event.category ∈ categories)
    (hnote : Note.IsWritable ⟨store.now, event⟩) :
    store.record event = .ok (store.addLine event.category
      (fileName event.category store.now.date) (String.ofList (Note.line ⟨store.now, event⟩)),
        some (Note.entry ⟨store.now, event⟩)) := by
  have hline := hnote.isWritten.lineOf
  rw [← Note.entry_eq] at hline ⊢
  unfold record
  rw [if_pos hpasses]
  simp only [hline, bind, Except.bind]
  rw [homeOf?_of_mem hcategory]
  rfl

end Store

/-! ### Actions on a store that agrees with a journal -/

namespace Store

@[simp] theorem addLine_minLevel (store : Store) (folder name line : String) :
    (store.addLine folder name line).minLevel = store.minLevel := by
  unfold addLine put
  split <;> rfl

@[simp] theorem addLine_now (store : Store) (folder name line : String) :
    (store.addLine folder name line).now = store.now := by
  unfold addLine put
  split <;> rfl

end Store

namespace Agrees
variable {store : Store} {journal : Journal}

/-- An event is written down exactly if the journal takes it. -/
theorem log (h : Agrees store journal) {event : Event} (hcategory : event.category ∈ categories)
    (hdata : Json.IsData event.data) :
    Agrees (store.after (.log event)) (journal.after (.log event)) := by
  have hleast := h.least
  unfold Store.after Journal.after Journal.takes
  simp only
  cases hpasses : passes event.level journal.least with
  | false =>
    rw [Store.record_of_not_passes (hleast ▸ hpasses)]
    exact h
  | true =>
    rw [← hleast] at hpasses
    cases hshow : event.data.isShowable with
    | false =>
      rw [Store.record_eq_error hpasses hdata hshow]
      exact h
    | true =>
      have hnote : Note.IsWritable ⟨store.now, event⟩ := ⟨hdata, hshow⟩
      obtain ⟨keys, hkeys⟩ := h.filed
      have hclock : 1000 ≤ store.now.date.year := h.now ▸ h.clock
      have hhome : Note.home ⟨store.now, event⟩ = event.category :=
        Note.home_of_mem hcategory
      have hfiled := hkeys.addLine ⟨store.now, event⟩ (hhome ▸ hcategory) hclock
      rw [hhome] at hfiled
      rw [Store.record_eq_ok hpasses hcategory hnote, Bool.true_and, if_pos rfl, ← h.now]
      refine ⟨?_, Store.addLine_now .., hclock, ?_, hfiled⟩
      · exact (Store.addLine_minLevel ..).trans hleast
      · rw [List.forall_mem_append, List.forall_mem_singleton]
        exact ⟨h.writable, hnote⟩

/-- All files are logs, and so all of them are removed. -/
theorem files_clear (h : Agrees store journal) : store.clear.1.files = [] := by
  obtain ⟨keys, hkeys⟩ := h.filed
  refine List.filter_eq_nil_iff.2 fun file hfile => ?_
  rw [hkeys.files] at hfile
  obtain ⟨key, hkey, rfl⟩ := List.mem_map.1 hfile
  rw [isLog_fileOf (hkeys.known key hkey).1]
  exact nofun

theorem clear (h : Agrees store journal) :
    Agrees (store.after .clear) (journal.after .clear) := by
  refine ⟨h.least, h.now, h.clock, nofun, [], ?_⟩
  show IsFiled store.clear.1.files [] []
  rw [h.files_clear]
  exact IsFiled.empty

/-- A file is too old exactly if all of its notes are. -/
theorem cleanup (h : Agrees store journal) {days : Int} (hdays : journal.Admits (.cleanup days)) :
    Agrees (store.after (.cleanup days)) (journal.after (.cleanup days)) := by
  unfold Store.after Journal.after Store.prune
  simp only
  by_cases hnone : days ≤ 0
  · rw [if_pos hnone, if_pos hnone]
    exact h
  · obtain ⟨cutoff, hcutoff, hyear⟩ := hdays (Int.not_le.1 hnone)
    rw [if_neg hnone, if_neg hnone, h.now, hcutoff]
    obtain ⟨keys, hkeys⟩ := h.filed
    refine ⟨h.least, h.now, h.clock, ?_, ?_⟩
    · exact fun note hnote => h.writable note (List.mem_filter.1 hnote).1
    · refine hkeys.filter fun key hkey note hsame => ?_
      obtain ⟨hknown, hkeyYear⟩ := hkeys.known key hkey
      rw [isBefore_fileOf hknown hkeyYear hyear, ← hsame]
      exact decide_not

/-- Every action keeps a store in agreement with its journal. -/
theorem after (h : Agrees store journal) {action : Action} (haction : journal.Admits action) :
    Agrees (store.after action) (journal.after action) := by
  cases action with
  | setMinLevel level => exact ⟨rfl, h.now, h.clock, h.writable, h.filed⟩
  | setClock now => exact ⟨h.least, rfl, haction, h.writable, h.filed⟩
  | log event => exact h.log haction.1 haction.2
  | clear => exact h.clear
  | cleanup days => exact h.cleanup haction

/-- Every run of actions keeps a store in agreement with its journal. -/
theorem run (h : Agrees store journal) {actions : List Action} (hrun : journal.AdmitsAll actions) :
    Agrees (store.run actions) (journal.run actions) := by
  induction actions generalizing store journal with
  | nil => exact h
  | cons action actions ih =>
    obtain ⟨haction, hrest⟩ := hrun
    exact ih (h.after haction) hrest

end Agrees

/-- A store that was empty agrees with its journal after every run. -/
theorem agrees_of_run {least : String} {now : Instant} (hnow : 1000 ≤ now.date.year)
    {actions : List Action} (hrun : (Journal.empty least now).AdmitsAll actions) :
    Agrees ((Store.empty least now).run actions) ((Journal.empty least now).run actions) :=
  (agrees_empty least hnow).run hrun

end LayerGraph.Log
