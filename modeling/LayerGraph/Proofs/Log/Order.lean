import LayerGraph.Proofs.Log.Lookup
import LayerGraph.Proofs.Time.Clock

/-! # The order of entries

    Entries are put in order by the texts of their times. These are ordered like the times but for
    the full seconds: an entry that was told at a full second comes in front of all other entries of
    this second, though it is the earliest of them. This is the only exception to the newest entry
    coming first (`lookup_order`), and it is one (`lookup_fullSecond`).
-/

namespace LayerGraph.Log

open Time (Date Instant)

/-! ### Clocks -/

/-- The times to which the clock is set are times that a clock can show. -/
def Action.IsTimed : Action → Prop
  | .setClock now => now.IsShown
  | _ => True

namespace Store

theorem isShown_after {store : Store} (hnow : store.now.IsShown) {action : Action}
    (hkeeps : action.keeps = true) (htimed : action.IsTimed) :
    (store.after action).now.IsShown := by
  cases action with
  | setMinLevel => exact hnow
  | setClock => exact htimed
  | log event => rwa [(store.after_log event).1]
  | clear | cleanup => exact absurd hkeeps nofun

/-- What is told is told at a time that a clock can show. -/
theorem isShown_of_told {store : Store} (hnow : store.now.IsShown) {actions : List Action}
    (hkeeps : ∀ action ∈ actions, action.keeps = true)
    (htimed : ∀ action ∈ actions, action.IsTimed) :
    ∀ note ∈ store.told actions, note.time.IsShown := by
  induction actions generalizing store with
  | nil => exact nofun
  | cons action rest ih =>
    obtain ⟨haction, hrest⟩ := List.forall_mem_cons.1 hkeeps
    obtain ⟨hown, hothers⟩ := List.forall_mem_cons.1 htimed
    rw [told, List.forall_mem_append]
    refine ⟨fun note hnote => ?_, ih (isShown_after hnow haction hown) hrest hothers⟩
    rwa [(of_mem_toldBy hnote).2.1]

end Store

/-! ### The order of an answer -/

/-- After every run that removes nothing, each query is answered with notes that it asks for, and
    with all of them if it asks for enough. Of these an earlier one stands in front of a later one
    exactly if it was told at the beginning of the second of the later one. -/
theorem lookup_order [Sorting] (least : String) {now : Instant} (hnow : now.IsShown)
    {actions : List Action} (hkeeps : ∀ action ∈ actions, action.keeps = true)
    (htimed : ∀ action ∈ actions, action.IsTimed) (query : Query) :
    let store := (Store.empty least now).run actions
    let asked := query.asked ((Store.empty least now).told actions) store.now.date
    (Date.lastDays? query.days.toNat store.now.date).isSome →
      ∃ notes : List Note, store.lookup query = .ok (notes.map (·.found)) ∧
        (∀ note ∈ notes, note ∈ asked) ∧
        (query.offset = 0 → (asked.length : Int) ≤ query.limit → notes.Perm asked) ∧
        notes.Pairwise fun front back =>
          (front.time.IsBefore back.time ↔ front.time.BeginsSecondOf back.time) ∧
            ¬back.time.BeginsSecondOf front.time := by
  intro store asked hdates
  obtain ⟨notes, hlookup, hasked, hordered, hall⟩ :=
    (holds_of_run least now hkeeps).exists_lookup query hdates
  have hempty : (Store.empty least now).now.IsShown := hnow
  have hshown : ∀ note ∈ notes, note.time.IsShown :=
    fun note hnote => Store.isShown_of_told hempty hkeeps htimed note
      (List.mem_filter.1 (hasked note hnote)).1
  refine ⟨notes, hlookup, hasked, hall, hordered.imp_of_mem ?_⟩
  intro front back hfront hback horder
  -- the text of the time in front is no smaller than the one behind
  rw [Note.isNoOlder_iff, ← String.not_lt,
    Instant.text_lt_iff (hshown front hfront) (hshown back hback)] at horder
  refine ⟨⟨fun hbefore => ?_, fun hbegins => Or.inr ⟨hbegins.1, ?_⟩⟩, fun h => horder (Or.inr h)⟩
  · exact Classical.byContradiction fun hnot => horder (Or.inl ⟨hbefore, hnot⟩)
  · rw [hbegins.2.1]
    exact hbegins.2.2

/-- An event without facts. -/
def plainEvent (category message : String) : Event where
  category := category
  level := "INFO"
  message := message

/-- Half a second past noon of the 29th of February 2024. -/
def leapDayHalf : Instant := ⟨leapDay.date, 12, 0, 0, 500000⟩

/-- Two events of one second, told at its beginning and in its middle, and one of the next day. -/
def threeEvents : List Action :=
  [.log (plainEvent "system" "first"), .setClock leapDayHalf,
    .log (plainEvent "custom" "second"), .setClock dayAfter, .log (plainEvent "plugin" "third")]

theorem isShown_leapDay : leapDay.IsShown := ⟨by decide, by decide, by decide, by decide⟩

theorem lookup_order_threeEvents :
    ∃ notes : List Note, ((Store.empty "INFO" leapDay).run threeEvents).lookup { days := 2 } =
        .ok (notes.map (·.found)) ∧
      notes.Perm [⟨leapDay, plainEvent "system" "first"⟩, ⟨dayAfter, plainEvent "plugin" "third"⟩] ∧
      notes.Pairwise fun front back =>
        (front.time.IsBefore back.time ↔ front.time.BeginsSecondOf back.time) ∧
          ¬back.time.BeginsSecondOf front.time := by
  have htimed : ∀ action ∈ threeEvents, action.IsTimed := by
    simp only [threeEvents, List.forall_mem_cons]
    exact ⟨trivial, ⟨by decide, by decide, by decide, by decide⟩, trivial,
      ⟨by decide, by decide, by decide, by decide⟩, trivial, nofun⟩
  obtain ⟨notes, hlookup, -, hall, hordered⟩ := lookup_order "INFO" isShown_leapDay
    (by decide) htimed { days := 2 } (by decide)
  exact ⟨notes, hlookup, hall rfl (by decide), hordered⟩

/-- An event at a full second, and a later one of this second. -/
def fullSecond : List Action :=
  [.log (plainEvent "system" "first"), .setClock leapDayHalf, .log (plainEvent "system" "second")]

/-- The entry of a full second comes in front of a later one of this second. -/
theorem lookup_fullSecond :
    leapDay.IsBefore leapDayHalf ∧
      ((Store.empty "INFO" leapDay).run fullSecond).lookup { days := 1 } =
        .ok [Note.found ⟨leapDay, plainEvent "system" "first"⟩,
          Note.found ⟨leapDayHalf, plainEvent "system" "second"⟩] := by
  have hholds : Holds ((Store.empty "INFO" leapDay).run fullSecond)
      [⟨leapDay, plainEvent "system" "first"⟩, ⟨leapDayHalf, plainEvent "system" "second"⟩] :=
    holds_of_run "INFO" leapDay (by decide)
  have hanswers : answers [⟨leapDay, plainEvent "system" "first"⟩,
      ⟨leapDayHalf, plainEvent "system" "second"⟩] { days := 1 } [leapDay.date] =
      [⟨leapDay, plainEvent "system" "first"⟩, ⟨leapDayHalf, plainEvent "system" "second"⟩] :=
    List.mergeSort_of_pairwise (List.pairwise_pair.2 (by decide))
  have hdates : Query.dates { days := 1 } ((Store.empty "INFO" leapDay).run fullSecond).now.date =
      .ok [leapDay.date] := rfl
  have hlookup := hholds.lookup_eq { days := 1 } hdates
  rw [hanswers] at hlookup
  exact ⟨by decide, hlookup⟩

end LayerGraph.Log
