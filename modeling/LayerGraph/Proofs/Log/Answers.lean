import LayerGraph.Proofs.Log.Told
import Mathlib.Data.List.Nodup
import Mathlib.Data.List.ProdSigma

/-! # Answers

    A look-up goes through the folders and the last days, file by file. A store that holds notes
    gives the entries of those that are asked for (`Holds.gather_eq`). They are put in order by the
    texts of their times, and a part of them is answered (`Holds.lookup_eq`). The files of different
    categories and days have different notes, so each note that a query asks for is among the
    answers once (`answers_perm`), and an answer that is long enough has them all
    (`Holds.exists_lookup`).
-/

namespace LayerGraph.Log

open Time (Date Instant)

/-! ### Order -/

/-- Whether a note has no earlier time than another, as far as the texts of the times tell. -/
def Note.isNoOlder (a b : Note) : Bool := !decide (a.time.text < b.time.text)

theorem Note.isNoOlder_iff {a b : Note} : a.isNoOlder b = true ↔ b.time.text ≤ a.time.text := by
  unfold isNoOlder
  rw [Bool.not_eq_true', decide_eq_false_iff_not, String.not_lt]

theorem Note.isNoOlder_trans (a b c : Note) (hab : a.isNoOlder b = true)
    (hbc : b.isNoOlder c = true) : a.isNoOlder c = true := by
  rw [isNoOlder_iff] at *
  exact String.le_trans hbc hab

theorem Note.isNoOlder_total (a b : Note) : (a.isNoOlder b || b.isNoOlder a) = true := by
  rw [Bool.or_eq_true, isNoOlder_iff, isNoOlder_iff]
  exact String.le_total _ _

/-- Texts have an order. -/
theorem areOrdered_str (texts : List String) : AreOrdered (texts.map .str) where
  comparable := by
    unfold areComparable
    rw [decide_eq_true_eq, List.pairwise_map]
    refine List.pairwise_of_forall fun s t => ?_
    rw [before?_str, Option.isSome_some]
  asymm := by
    simp only [List.forall_mem_map, isBefore_str, decide_eq_true_eq, decide_eq_false_iff_not]
    exact fun s _ t _ => String.lt_asymm
  between := by
    simp only [List.forall_mem_map, isBefore_str, decide_eq_false_iff_not, String.not_lt]
    exact fun s _ t _ u _ hst htu => String.le_trans htu hst

/-- Entries of notes are put in order by the times of the notes. -/
theorem sorted_found [Sorting] (notes : List Note) : Store.sorted (notes.map (·.found)) =
    .ok ((notes.mergeSort Note.isNoOlder).map (·.found)) := by
  have htimed : ((notes.map (·.found)).mapM fun entry => do return (← timeOf entry, entry)) =
      (.ok (notes.map fun note => (.str note.time.text, note.found)) :
        Except Failure (List (Value × Value))) := by
    rw [List.mapM_map]
    exact Result.mapM_eq_ok_map fun note _ => rfl
  have htexts : (notes.map fun note => (Value.str note.time.text, note.found)).map (·.1) =
      (notes.map (·.time.text)).map Value.str := by
    rw [List.map_map, List.map_map]
    rfl
  have hsorted : (notes.mergeSort Note.isNoOlder).map
      (fun note => (Value.str note.time.text, note.found)) =
        newestFirst (notes.map fun note => (.str note.time.text, note.found)) :=
    List.map_mergeSort fun a _ b _ => congrArg (!·) (isBefore_str _ _).symm
  unfold Store.sorted
  rw [htimed]
  simp only [bind, Except.bind]
  rw [Sorting.stable (htexts ▸ areOrdered_str _), ← hsorted]
  simp only [pure, Except.pure, List.map_map]
  rfl

/-! ### Parts -/

/-- The part of a list that begins at its front and is long enough is the whole list. -/
theorem slice_all {α : Type} {items : List α} {limit : Int} (h : (items.length : Int) ≤ limit) :
    slice items 0 (0 + limit) = items := by
  have hfirst : placeIn items.length 0 = 0 := by
    unfold placeIn
    simp
  have hlast : placeIn items.length (0 + limit) = items.length := by
    unfold placeIn
    rw [if_neg (by omega)]
    omega
  unfold slice
  simp only [hfirst, hlast]
  simp

theorem slice_map {α β : Type} (f : α → β) (items : List α) (first last : Int) :
    slice (items.map f) first last = (slice items first last).map f := by
  simp [slice, List.map_drop, List.map_take]

theorem slice_sublist {α : Type} (items : List α) (first last : Int) :
    (slice items first last).Sublist items :=
  (List.take_sublist _ _).trans (List.drop_sublist _ _)

/-! ### Gathering -/

/-- The notes of a query's folders and of some days, in the order in which they are gathered. -/
def gathered (notes : List Note) (query : Query) (dates : List Date) : List Note :=
  (query.folders ×ˢ dates).flatMap (notesOf notes)

/-- The notes that answer a query, the newest first. -/
def answers (notes : List Note) (query : Query) (dates : List Date) : List Note :=
  ((gathered notes query dates).filter query.asksFor).mergeSort Note.isNoOlder

namespace Holds
variable {store : Store} {notes : List Note} (h : Holds store notes) (query : Query)
include h

/-- What is found in the files of some folders and days are the entries of their notes. -/
theorem exists_found (keys : List (String × Date)) : ∃ lists : List (List Value),
    ((keys.filterMap fun key => store.text? key.1 (fileName key.1 key.2)).mapM fun text =>
      query.entriesIn (linesOf text)) = .ok lists ∧
    lists.flatten = ((keys.flatMap (notesOf notes)).filter query.asksFor).map (·.found) := by
  induction keys with
  | nil => exact ⟨[], rfl, rfl⟩
  | cons key keys ih =>
    obtain ⟨lists, hlists, hflatten⟩ := ih
    have htext := h.text key.1 key.2
    have hwritten : ∀ note ∈ notesOf notes key, note.IsWritten :=
      fun note hnote => h.written note (List.mem_filter.1 hnote).1
    have hfound := entriesIn_asked hwritten query
    rw [List.filterMap_cons, List.flatMap_cons, List.filter_append, List.map_append]
    cases hfile : store.text? key.1 (fileName key.1 key.2) with
    | none =>
      -- a file that is not there has no notes
      rw [hfile] at htext
      rw [← htext] at hfound
      rw [← Except.ok.inj hfound]
      exact ⟨lists, hlists, hflatten⟩
    | some text =>
      rw [hfile] at htext
      rw [← htext] at hfound
      refine ⟨_ :: lists, Result.mapM_cons_eq_ok.2 ⟨_, lists, hfound, hlists, rfl⟩, ?_⟩
      rw [List.flatten_cons, hflatten]

theorem gather_eq {dates : List Date} (hdates : query.dates store.now.date = .ok dates) :
    store.gather query =
      .ok (((gathered notes query dates).filter query.asksFor).map (·.found)) := by
  have htexts : (query.folders.flatMap fun folder =>
      dates.filterMap fun date => store.text? folder (fileName folder date)) =
        (query.folders ×ˢ dates).filterMap fun key => store.text? key.1 (fileName key.1 key.2) := by
    show _ = (query.folders.flatMap fun folder => dates.map (Prod.mk folder)).filterMap _
    rw [List.filterMap_flatMap]
    simp only [List.filterMap_map]
    rfl
  obtain ⟨lists, hlists, hflatten⟩ := h.exists_found query (query.folders ×ˢ dates)
  unfold Store.gather
  rw [hdates]
  simp only [bind, Except.bind, htexts]
  rw [hlists]
  exact congrArg Except.ok hflatten

/-- A query is answered with a part of the notes that answer it. -/
theorem lookup_eq [Sorting] {dates : List Date} (hdates : query.dates store.now.date = .ok dates) :
    store.lookup query = .ok (slice ((answers notes query dates).map (·.found)) query.offset
      (query.offset + query.limit)) := by
  unfold Store.lookup
  rw [h.gather_eq query hdates]
  simp only [bind, Except.bind]
  rw [sorted_found]
  rfl

end Holds

/-! ### What is asked for -/

/-- If the days of a query exist, they are what it is about. -/
theorem Query.exists_dates (query : Query) {today : Date}
    (h : (Date.lastDays? query.days.toNat today).isSome) : ∃ dates : List Date,
      Date.lastDays? query.days.toNat today = some dates ∧ query.dates today = .ok dates := by
  obtain ⟨dates, hdates⟩ := Option.isSome_iff_exists.1 h
  refine ⟨dates, hdates, ?_⟩
  unfold Query.dates
  rw [hdates]

/-- The notes that a query asks for on a day. -/
def Query.asked (query : Query) (notes : List Note) (today : Date) : List Note :=
  notes.filter fun note => note.home ∈ query.folders ∧
    note.time.date.IsWithin query.days.toNat today ∧ query.asksFor note

/-- The parts of a list under different keys are together the part under any of them. -/
theorem flatMap_filter_perm {α κ : Type} [DecidableEq κ] (key : α → κ) (xs : List α) {keys : List κ}
    (distinct : keys.Nodup) :
    (keys.flatMap fun k => xs.filter fun x => key x = k).Perm
      (xs.filter fun x => key x ∈ keys) := by
  induction keys with
  | nil => simp
  | cons k keys ih =>
    obtain ⟨hnew, hrest⟩ := List.nodup_cons.1 distinct
    have hsplit := List.filter_append_perm (fun x => decide (key x = k))
      (xs.filter fun x => key x ∈ k :: keys)
    have hown : (xs.filter fun x => key x ∈ k :: keys).filter (fun x => decide (key x = k)) =
        xs.filter fun x => key x = k := by
      rw [List.filter_filter]
      refine List.filter_congr fun x _ => ?_
      grind
    have hothers : (xs.filter fun x => key x ∈ k :: keys).filter (fun x => !decide (key x = k)) =
        xs.filter fun x => key x ∈ keys := by
      rw [List.filter_filter]
      refine List.filter_congr fun x _ => ?_
      grind
    rw [hown, hothers] at hsplit
    rw [List.flatMap_cons]
    exact ((ih hrest).append_left _).trans hsplit

theorem nodup_folders (query : Query) : query.folders.Nodup := by
  have hknown : categories.Nodup := by decide
  unfold Query.folders
  split
  · split
    · exact List.nodup_singleton _
    · exact hknown
  · exact hknown

/-- A query is answered with the notes that it asks for. -/
theorem answers_perm (notes : List Note) {query : Query} {today : Date} {dates : List Date}
    (hdates : Date.lastDays? query.days.toNat today = some dates) :
    (answers notes query dates).Perm (query.asked notes today) := by
  have hkeys := (nodup_folders query).product (Date.nodup_lastDays? hdates)
  have hgathered := flatMap_filter_perm Note.key notes hkeys
  refine (List.mergeSort_perm _ _).trans ((hgathered.filter _).trans (.of_eq ?_))
  rw [List.filter_filter]
  refine List.filter_congr fun note _ => ?_
  have hkey : note.key ∈ query.folders ×ˢ dates ↔ note.home ∈ query.folders ∧
      note.time.date.IsWithin query.days.toNat today := by
    rw [← Date.mem_lastDays? hdates]
    exact List.mem_product
  rw [Bool.eq_iff_iff]
  simp only [Bool.and_eq_true, decide_eq_true_eq]
  rw [hkey, and_comm, and_assoc]

/-- What a query is answered with: notes that it asks for, in order, and all of them if it asks for
    enough. -/
theorem Holds.exists_lookup [Sorting] {store : Store} {notes : List Note} (h : Holds store notes)
    (query : Query) (hdates : (Date.lastDays? query.days.toNat store.now.date).isSome) :
    ∃ found : List Note, store.lookup query = .ok (found.map (·.found)) ∧
      (∀ note ∈ found, note ∈ query.asked notes store.now.date) ∧
      (found.Pairwise fun a b => a.isNoOlder b = true) ∧
      (query.offset = 0 → ((query.asked notes store.now.date).length : Int) ≤ query.limit →
        found.Perm (query.asked notes store.now.date)) := by
  obtain ⟨dates, hdates, hall⟩ := query.exists_dates hdates
  have hperm := answers_perm notes hdates
  have hordered : (answers notes query dates).Pairwise fun a b => a.isNoOlder b = true :=
    List.pairwise_mergeSort Note.isNoOlder_trans Note.isNoOlder_total _
  refine ⟨_, (h.lookup_eq query hall).trans (congrArg Except.ok (slice_map ..)), ?_, ?_, ?_⟩
  · exact fun note hnote => hperm.mem_iff.1 ((slice_sublist _ _ _).subset hnote)
  · exact hordered.sublist (slice_sublist ..)
  · intro hoffset hlimit
    rw [← hperm.length_eq] at hlimit
    rwa [hoffset, slice_all hlimit]

end LayerGraph.Log
