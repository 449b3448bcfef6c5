import LayerGraph.Proofs.Log.Order

/-! # Queries for a category

    Entries of any category are written down, but only those of the known categories are looked up.
    As long as every category is the name of a folder, a query for a known category is answered with
    entries of this category, and with all of them if it asks for enough. A category that is not
    known is passed over, as if none had been asked for; so a query for one is answered with entries
    of other categories (`lookup_category`).
-/

namespace LayerGraph.Log

open Time (Date Instant)

theorem folders_of_mem {category : String} (h : category ∈ categories) (query : Query) :
    Query.folders { query with category := some category } = [category] :=
  if_pos (List.contains_iff_mem.2 h)

theorem folders_of_not_mem {category : String} (h : category ∉ categories) (query : Query) :
    Query.folders { query with category := some category } = categories :=
  if_neg (mt List.contains_iff_mem.1 h)

/-- A query for a category that is not known is answered like one for no category. -/
theorem Holds.lookup_unknown [Sorting] {store : Store} {notes : List Note} (h : Holds store notes)
    {category : String} (hunknown : category ∉ categories) (query : Query)
    (hdates : (Date.lastDays? query.days.toNat store.now.date).isSome) :
    store.lookup { query with category := some category } =
      store.lookup { query with category := none } := by
  obtain ⟨dates, -, hall⟩ := query.exists_dates hdates
  have hgathered : gathered notes { query with category := some category } dates =
      gathered notes { query with category := none } dates := by
    unfold gathered
    rw [folders_of_not_mem hunknown query]
    rfl
  rw [h.lookup_eq { query with category := some category } hall,
    h.lookup_eq { query with category := none } hall]
  unfold answers
  rw [hgathered]
  rfl

/-- Whether the category of what an action tells is the name of a folder, without any steps. -/
def Action.IsPlain : Action → Prop
  | .log event => '/' ∉ event.category.toList
  | _ => True

/-- What is told in a category without steps is filed in the folder of its name. -/
theorem Store.home_of_told {store : Store} {actions : List Action}
    (hplain : ∀ action ∈ actions, action.IsPlain) {note : Note} (h : note ∈ store.told actions) :
    note.home = note.event.category :=
  Note.home_eq (homeOf?_of_not_mem (hplain _ (of_mem_told h).1))

/-- After every run that removes nothing, and in which every category is the name of a folder, a
    query for a known category is answered with entries of this category, and if it asks for enough
    of them, with those of all notes of this category that it asks for and that were told within its
    days. A query for any other category is answered like one for none, with entries of the known
    categories. -/
theorem lookup_category [Sorting] (least : String) (now : Instant) {actions : List Action}
    (hkeeps : ∀ action ∈ actions, action.keeps = true)
    (hplain : ∀ action ∈ actions, action.IsPlain) (category : String) (query : Query) :
    let store := (Store.empty least now).run actions
    let asked : Query := { query with category := some category }
    let those := ((Store.empty least now).told actions).filter fun note =>
      note.event.category = category ∧
        note.time.date.IsWithin query.days.toNat store.now.date ∧ query.asksFor note
    (Date.lastDays? query.days.toNat store.now.date).isSome →
      (category ∈ categories → ∃ notes : List Note, store.lookup asked = .ok (notes.map (·.found)) ∧
        (∀ entry ∈ notes.map (·.found),
          member entry "category" = .ok (some (.str category))) ∧
        (query.offset = 0 → (those.length : Int) ≤ query.limit → notes.Perm those)) ∧
      (category ∉ categories → store.lookup asked = store.lookup { query with category := none } ∧
        ∃ notes : List Note, store.lookup asked = .ok (notes.map (·.found)) ∧
          ∀ entry ∈ notes.map (·.found), ∃ known ∈ categories,
            member entry "category" = .ok (some (.str known))) := by
  intro store asked those hdates
  have hholds := holds_of_run least now hkeeps
  obtain ⟨notes, hlookup, hmem, -, hall⟩ := hholds.exists_lookup asked hdates
  -- a note is found in its folder, which has the name of its category
  have hfolder : ∀ note ∈ notes, note.event.category ∈ asked.folders := fun note hnote => by
    obtain ⟨htold, hasked⟩ := List.mem_filter.1 (hmem note hnote)
    rw [← Store.home_of_told hplain htold]
    exact (of_decide_eq_true hasked).1
  constructor
  · intro hknown
    have hfolders : asked.folders = [category] := folders_of_mem hknown query
    have hthose : asked.asked ((Store.empty least now).told actions) store.now.date = those := by
      refine List.filter_congr fun note hnote => ?_
      simp only [hfolders, List.mem_singleton, Store.home_of_told hplain hnote]
      rfl
    rw [hthose] at hall
    refine ⟨notes, hlookup, ?_, hall⟩
    rw [List.forall_mem_map]
    intro note hnote
    have hcategory := hfolder note hnote
    rw [hfolders, List.mem_singleton] at hcategory
    rw [member_category, hcategory]
  · -- all folders are gone through, as without a category
    intro hunknown
    have hfolders : asked.folders = categories := folders_of_not_mem hunknown query
    refine ⟨hholds.lookup_unknown hunknown query hdates, notes, hlookup, ?_⟩
    rw [List.forall_mem_map]
    exact fun note hnote => ⟨_, hfolders ▸ hfolder note hnote, member_category note⟩

theorem lookup_category_threeEvents :
    ((Store.empty "INFO" leapDay).run threeEvents).lookup { category := some "system", days := 2 } =
        .ok [Note.found ⟨leapDay, plainEvent "system" "first"⟩] ∧
      ((Store.empty "INFO" leapDay).run threeEvents).lookup
          { category := some "custom", days := 2 } =
        ((Store.empty "INFO" leapDay).run threeEvents).lookup { days := 2 } := by
  have hkeeps : ∀ action ∈ threeEvents, action.keeps = true := by decide
  have hplain : ∀ action ∈ threeEvents, action.IsPlain := by
    have hnames : ∀ category ∈ ["system", "custom", "plugin"], '/' ∉ category.toList := by decide
    simp only [threeEvents, List.forall_mem_cons]
    exact ⟨hnames _ (by decide), trivial, hnames _ (by decide), trivial, hnames _ (by decide),
      fun _ hnone => absurd hnone List.not_mem_nil⟩
  obtain ⟨hknown, -⟩ :=
    lookup_category "INFO" leapDay hkeeps hplain "system" { days := 2 } (by decide)
  obtain ⟨-, hunknown⟩ :=
    lookup_category "INFO" leapDay hkeeps hplain "custom" { days := 2 } (by decide)
  obtain ⟨notes, hlookup, -, hall⟩ := hknown (by decide)
  have hperm : notes.Perm [⟨leapDay, plainEvent "system" "first"⟩] := hall rfl (by decide)
  rw [List.perm_singleton.1 hperm] at hlookup
  exact ⟨hlookup, (hunknown (by decide)).1⟩

/-- An event of a known category and one of a category that is not known. -/
def twoCategories : List Action :=
  [.log (plainEvent "system" "first"), .log (plainEvent "custom" "second")]

/-- A query for a category that is not known is answered with the entry of another category, and
    not with the one of the category that it asks for. -/
theorem lookup_unknownCategory :
    (Store.empty "INFO" leapDay).told twoCategories =
        [⟨leapDay, plainEvent "system" "first"⟩, ⟨leapDay, plainEvent "custom" "second"⟩] ∧
      ((Store.empty "INFO" leapDay).run twoCategories).lookup
          { category := some "custom", days := 1 } =
        .ok [Note.found ⟨leapDay, plainEvent "system" "first"⟩] := by
  have hholds : Holds ((Store.empty "INFO" leapDay).run twoCategories)
      [⟨leapDay, plainEvent "system" "first"⟩, ⟨leapDay, plainEvent "custom" "second"⟩] :=
    holds_of_run "INFO" leapDay (by decide)
  have hanswers : answers
      [⟨leapDay, plainEvent "system" "first"⟩, ⟨leapDay, plainEvent "custom" "second"⟩]
      { category := some "custom", days := 1 } [leapDay.date] =
        [⟨leapDay, plainEvent "system" "first"⟩] := List.mergeSort_singleton _
  have hlookup := hholds.lookup_eq { category := some "custom", days := 1 }
    (show _ = Except.ok [leapDay.date] from rfl)
  rw [hanswers] at hlookup
  exact ⟨rfl, hlookup⟩

end LayerGraph.Log
