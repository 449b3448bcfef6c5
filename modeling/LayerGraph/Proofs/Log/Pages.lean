import LayerGraph.Proofs.Log.Order

/-! # Filters and pages

    A query may ask for a level and a component, and for a part of the entries. What it asks for is
    picked out before the entries are put in order; since entries of one time stay in the order in
    which they were gathered, picking them out afterwards gives the same (`filter_mergeSort`). So a
    query is answered with a part of the complete answer, less the entries that it does not ask for,
    and the pages of a query are together all entries that it asks for, each of them on one page
    (`lookup_pages`).
-/

namespace LayerGraph.Log

open Time (Date Instant)

/-! ### Stable order -/

section Stable
variable {α : Type} {le : α → α → Bool}
  (trans : ∀ a b c, le a b = true → le b c = true → le a c = true)
  (total : ∀ a b, (le a b || le b a) = true)
include trans total

/-- An ordered list has in front what is before an item, and behind it all else. -/
theorem filter_append_filter_mergeSort (a : α) (items : List α) :
    (items.mergeSort le).filter (!le a ·) ++ (items.mergeSort le).filter (le a ·) =
        items.mergeSort le ∧
      (a :: items).mergeSort le =
        (items.mergeSort le).filter (!le a ·) ++ a :: (items.mergeSort le).filter (le a ·) := by
  obtain ⟨front, back, hcons, hitems, hfront⟩ := List.mergeSort_cons trans total a items
  have hback : ∀ b ∈ back, le a b = true := by
    have hpairwise := List.pairwise_mergeSort trans total (a :: items)
    rw [hcons, List.pairwise_append] at hpairwise
    exact (List.pairwise_cons.1 hpairwise.2.1).1
  have hbefore : (items.mergeSort le).filter (!le a ·) = front := by
    rw [hitems, List.filter_append, List.filter_eq_self.2 hfront,
      List.filter_eq_nil_iff.2 fun b hb => by simp [hback b hb], List.append_nil]
  have hbehind : (items.mergeSort le).filter (le a ·) = back := by
    rw [hitems, List.filter_append, List.filter_eq_self.2 hback,
      List.filter_eq_nil_iff.2 fun b hb => by simpa using hfront b hb, List.nil_append]
  rw [hbefore, hbehind]
  exact ⟨hitems.symm, hcons⟩

/-- Picking items out of a list and putting them in order may be done one after the other, in
    whatever sequence, also if some of the items are equal in order. -/
theorem filter_mergeSort (p : α → Bool) (items : List α) :
    (items.mergeSort le).filter p = (items.filter p).mergeSort le := by
  induction items with
  | nil => simp
  | cons a items ih =>
    obtain ⟨hparts, hcons⟩ := filter_append_filter_mergeSort trans total a items
    by_cases ha : p a = true
    · -- the item is put between the same parts in both lists
      obtain ⟨-, hpicked⟩ := filter_append_filter_mergeSort trans total a (items.filter p)
      rw [List.filter_cons_of_pos ha, hpicked, hcons, List.filter_append,
        List.filter_cons_of_pos ha, ← ih]
      rw [List.filter_comm, List.filter_comm (le a ·)]
    · rw [List.filter_cons_of_neg ha, hcons, List.filter_append, List.filter_cons_of_neg ha,
        ← List.filter_append, hparts, ih]

end Stable

/-! ### Parts -/

theorem slice_eq_take_drop {α : Type} (items : List α) (start count : Nat) :
    slice items start (start + count) = (items.drop start).take count := by
  have hplace : ∀ place : Nat, placeIn items.length place = min items.length place := by
    intro place
    unfold placeIn
    rw [if_neg (by omega), Int.toNat_natCast]
  unfold slice
  simp only
  rw [← Int.natCast_add, hplace, hplace]
  by_cases hstart : start ≤ items.length
  · rw [Nat.min_eq_right hstart, List.take_eq_take_iff, List.length_drop]
    omega
  · rw [List.drop_of_length_le (by omega), List.drop_of_length_le (by omega), List.take_nil,
      List.take_nil]

/-- The first pages of a list are together its beginning. -/
theorem flatten_pages {α : Type} (items : List α) (size pages : Nat) :
    ((List.range pages).map fun page => (items.drop (page * size)).take size).flatten =
      items.take (pages * size) := by
  induction pages with
  | zero => simp
  | succ pages ih =>
    rw [List.range_succ, List.map_append, List.flatten_append, ih, Nat.succ_mul, List.take_add]
    simp

/-! ### Filters -/

/-- Whether an entry has a text under a key, if one is asked for. -/
def hasMember (key : String) (asked : Option String) (entry : Value) : Bool :=
  asked.all fun text =>
    match member entry key with
    | .ok (some (.str own)) => own == text
    | _ => false

theorem hasMember_of_member {key : String} {entry : Value} {own asked : Option String}
    (h : member entry key = .ok (own.map .str)) (hasked : asked ≠ some "") :
    hasMember key asked entry = isAsked asked own := by
  unfold hasMember isAsked
  rw [h]
  cases asked with
  | none => rfl
  | some text =>
    have hfilled : text.isEmpty = false := by simpa using hasked
    rw [Option.filter_some, if_pos (by simp [hfilled])]
    cases own <;> simp

/-- The entries that answer a query are those of the complete answer that have the level and the
    component that it asks for. -/
theorem map_answers_eq_filter (notes : List Note) (query : Query) (dates : List Date)
    (hlevel : query.level ≠ some "") (hcomponent : query.component ≠ some "") :
    (answers notes query dates).map (·.found) =
      ((answers notes { query with level := none, component := none } dates).map (·.found)).filter
        fun entry => hasMember "level" query.level entry &&
          hasMember "component" query.component entry := by
  have hasked : (fun entry => hasMember "level" query.level entry &&
      hasMember "component" query.component entry) ∘ (fun note : Note => note.found) =
        query.asksFor := by
    funext note
    rw [Function.comp_apply, hasMember_of_member (member_level note) hlevel,
      hasMember_of_member (member_component note) hcomponent]
    rfl
  rw [List.filter_map, hasked]
  refine congrArg (List.map _) ?_
  unfold answers
  rw [filter_mergeSort Note.isNoOlder_trans Note.isNoOlder_total, List.filter_filter]
  refine congrArg (List.mergeSort · _) (List.filter_congr fun note _ => ?_)
  exact (Bool.and_true _).symm

/-- After every run that removes nothing, all queries for some days fail if the days do not exist.
    Otherwise there is a complete answer with the entries of all notes of these days and of the
    category, with which every query is answered that asks for enough and for no level and
    component. A query for a level or a component is answered with a part of
    those of its entries that have them. If the parts follow each other, and there are enough of
    them, they are together all these entries, in order, and each of them once. -/
theorem lookup_pages [Sorting] (least : String) (now : Instant) {actions : List Action}
    (hkeeps : ∀ action ∈ actions, action.keeps = true) (category : Option String) (days : Int) :
    let store := (Store.empty least now).run actions
    let told := (Store.empty least now).told actions
    (Date.lastDays? days.toNat store.now.date = none →
      ∀ query : Query, query.days = days → store.lookup query = .error .noSuchDate) ∧
    ((Date.lastDays? days.toNat store.now.date).isSome → ∃ entries : List Value,
      entries.Perm ((Query.asked { category := category, days := days } told
        store.now.date).map (·.found)) ∧
      (∀ limit : Int, entries.length ≤ limit →
        store.lookup { category := category, days := days, limit := limit } = .ok entries) ∧
      ∀ level component : Option String, level ≠ some "" → component ≠ some "" →
        let matching := entries.filter fun entry =>
          hasMember "level" level entry && hasMember "component" component entry
        let part (start count : Nat) := store.lookup
          { category := category, level := level, component := component, days := days,
            offset := start, limit := count }
        (∀ start count : Nat, part start count = .ok ((matching.drop start).take count)) ∧
        ∀ size pages : Nat, matching.length ≤ pages * size →
          ((List.range pages).mapM fun page => part (page * size) size).map List.flatten =
            .ok matching) := by
  intro store told
  have hholds : Holds store told := holds_of_run least now hkeeps
  constructor
  · intro hnone query hdays
    have hdates : query.dates store.now.date = .error .noSuchDate := by
      unfold Query.dates
      rw [hdays, hnone]
    unfold Store.lookup Store.gather
    rw [hdates]
    rfl
  · intro hdates
    obtain ⟨dates, hdates, hall⟩ :=
      Query.exists_dates { category := category, days := days } hdates
    refine ⟨(answers told { category := category, days := days } dates).map (·.found),
      (answers_perm told hdates).map _, ?_, ?_⟩
    · intro limit hlimit
      rw [hholds.lookup_eq { category := category, days := days, limit := limit } hall]
      exact congrArg Except.ok (slice_all hlimit)
    · intro level component hlevel hcomponent matching part
      -- level and component only filter the entries, and a page is a slice of what they leave
      let asked : Query :=
        { category := category, level := level, component := component, days := days }
      have hmatching : matching = (answers told asked dates).map (·.found) :=
        (map_answers_eq_filter told asked dates hlevel hcomponent).symm
      have hparts : ∀ start count : Nat,
          part start count = .ok ((matching.drop start).take count) := by
        intro start count
        rw [hmatching, ← slice_eq_take_drop]
        exact hholds.lookup_eq { asked with offset := start, limit := count } hall
      refine ⟨hparts, fun size pages henough => ?_⟩
      rw [Result.mapM_eq_ok_map fun page _ => hparts (page * size) size]
      exact congrArg Except.ok
        ((flatten_pages matching size pages).trans (List.take_of_length_le henough))

/-- Three events of one time, one of which has another level. -/
def oneTime : List Action :=
  [.log (plainEvent "plugin" "first"), .log { plainEvent "system" "second" with level := "ERROR" },
    .log (plainEvent "system" "third")]

theorem lookup_pages_oneTime :
    ((List.range 2).mapM fun page => ((Store.empty "INFO" leapDay).run oneTime).lookup
        { level := some "INFO", days := 1, offset := (page * 1 : Nat), limit := 1 }).map
      List.flatten =
        .ok [Note.found ⟨leapDay, plainEvent "system" "third"⟩,
          Note.found ⟨leapDay, plainEvent "plugin" "first"⟩] := by
  have hkeeps : ∀ action ∈ oneTime, action.keeps = true := by decide
  obtain ⟨entries, -, hentries, hparts⟩ :=
    (lookup_pages "INFO" leapDay hkeeps none 1).2 (by decide)
  have hanswers : answers ((Store.empty "INFO" leapDay).told oneTime) { days := 1 }
      [leapDay.date] = [⟨leapDay, { plainEvent "system" "second" with level := "ERROR" }⟩,
        ⟨leapDay, plainEvent "system" "third"⟩, ⟨leapDay, plainEvent "plugin" "first"⟩] :=
    List.mergeSort_of_pairwise (by decide)
  have hlookup : ((Store.empty "INFO" leapDay).run oneTime).lookup
      { days := 1, limit := entries.length + 3 } =
        .ok (slice ((answers ((Store.empty "INFO" leapDay).told oneTime) { days := 1 }
          [leapDay.date]).map (·.found)) 0 (0 + (entries.length + 3))) :=
    (holds_of_run "INFO" leapDay hkeeps).lookup_eq { days := 1, limit := entries.length + 3 } rfl
  rw [hentries _ (by omega), hanswers] at hlookup
  have hlimit : (3 : Int) ≤ entries.length + 3 := by omega
  obtain rfl := (Except.ok.inj hlookup).trans (slice_all hlimit)
  exact (hparts (some "INFO") none (by decide) (by decide)).2 1 2 (by decide)

end LayerGraph.Log
