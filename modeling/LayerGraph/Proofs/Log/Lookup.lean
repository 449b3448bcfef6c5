import LayerGraph.Proofs.Log.Answers

/-! # Nothing is lost, and nothing is told twice

    A store that agrees with its journal holds the notes of the journal. So a look-up that asks for
    enough gives the entries of all notes of the last days, each of them once (`lookup_perm`). In
    the same way the lines that are counted when a store is cleared are its notes (`clear_eq`). So
    after every run of actions a store gives back what its journal says (`keeps_journal`).
-/

namespace LayerGraph.Log

open Time (Date Instant)

namespace Journal

/-- The notes of the last days. -/
def within (journal : Journal) (days : Int) : List Note :=
  journal.notes.filter fun note => note.time.date.IsWithin days.toNat journal.now.date

end Journal

namespace Agrees
variable {store : Store} {journal : Journal} (h : Agrees store journal)
include h

/-- The folder of each note is that of a known category. -/
theorem home_mem {note : Note} (hnote : note ∈ journal.notes) : note.home ∈ categories := by
  obtain ⟨keys, hkeys⟩ := h.filed
  exact (hkeys.known _ (hkeys.covered note hnote)).1

/-- The lines that are counted when a store is cleared are its notes. -/
theorem clear_eq : store.clear.2 = journal.notes.length := by
  obtain ⟨keys, hkeys⟩ := h.filed
  have hlogs : store.files.filter File.isLog = keys.map (fileOf journal.notes) := by
    rw [hkeys.files]
    refine List.filter_eq_self.2 fun file hfile => ?_
    obtain ⟨key, hkey, rfl⟩ := List.mem_map.1 hfile
    exact isLog_fileOf (hkeys.known key hkey).1 _
  have hlines : ∀ key, linesOf (fileOf journal.notes key).text =
      (notesOf journal.notes key).map (·.line) := fun key =>
    linesOf_textOf fun note hnote => (h.writable note (List.mem_filter.1 hnote).1).isWritten
  have hlength := (flatMap_filter_perm Note.key journal.notes hkeys.distinct).length_eq
  rw [List.filter_eq_self.2 fun note hnote => by simpa using hkeys.covered note hnote] at hlength
  unfold Store.clear
  simp only [hlogs, List.flatMap_map, hlines]
  rw [← List.map_flatMap, List.length_map]
  exact hlength

end Agrees

/-! ### Runs -/

/-- A look-up that asks for enough entries gives those of the notes of its days. -/
theorem Agrees.lookup_perm [Sorting] {store : Store} {journal : Journal}
    (h : Agrees store journal) {days limit : Int}
    (hdates : (Date.lastDays? days.toNat journal.now.date).isSome)
    (hlimit : ((journal.within days).length : Int) ≤ limit) : ∃ found : List Value,
      store.lookup { days := days, limit := limit } = .ok found ∧
        found.Perm ((journal.within days).map (·.value)) := by
  have hasked : Query.asked { days := days, limit := limit } journal.notes store.now.date =
      journal.within days := by
    refine List.filter_congr fun note hnote => (@decide_eq_decide _ _ _ _).2 ?_
    rw [h.now]
    exact ⟨fun hall => hall.2.1, fun hwithin => ⟨h.home_mem hnote, hwithin, rfl⟩⟩
  rw [← h.now] at hdates
  obtain ⟨notes, hlookup, -, -, hall⟩ :=
    h.holds.exists_lookup { days := days, limit := limit } hdates
  rw [hasked] at hall
  -- the facts of documents come back as they are
  have hfound : (journal.within days).map (·.found) = (journal.within days).map (·.value) :=
    List.map_congr_left fun note hnote => (h.writable note (List.mem_filter.1 hnote).1).found_eq
  exact ⟨_, hlookup, ((hall rfl hlimit).map _).trans (.of_eq hfound)⟩

/-- After every run of actions on an empty store, a look-up gives the entries of the notes of its
    days, each of them once; clearing the store removes all notes and answers how many there were;
    and an event that passes the least level is answered with its entry, unless a long integer in
    its facts keeps it from being written. -/
theorem keeps_journal [Sorting] {least : String} {now : Instant} (hnow : 1000 ≤ now.date.year)
    {actions : List Action} (hrun : (Journal.empty least now).AdmitsAll actions) :
    let store := (Store.empty least now).run actions
    let journal := (Journal.empty least now).run actions
    (∀ days limit : Int, (Date.lastDays? days.toNat journal.now.date).isSome →
      ((journal.within days).length : Int) ≤ limit →
        ∃ found : List Value, store.lookup { days := days, limit := limit } = .ok found ∧
          found.Perm ((journal.within days).map (·.value))) ∧
    store.clear.2 = journal.notes.length ∧ store.clear.1.files = [] ∧
    ∀ event : Event, event.category ∈ categories → Json.IsData event.data →
      passes event.level journal.least = true →
        if event.data.isShowable then
          ∃ next, store.record event = .ok (next, some (Note.entry ⟨journal.now, event⟩))
        else store.record event = .error (.noText .integerTooLong) := by
  intro store journal
  have hagrees : Agrees store journal := agrees_of_run hnow hrun
  refine ⟨fun days limit => hagrees.lookup_perm, hagrees.clear_eq, hagrees.files_clear, ?_⟩
  intro event hcategory hdata hpasses
  rw [← hagrees.least] at hpasses
  split
  · next hshow =>
    rw [← hagrees.now]
    exact ⟨_, Store.record_eq_ok hpasses hcategory ⟨hdata, hshow⟩⟩
  · next hlong =>
    exact Store.record_eq_error hpasses hdata (Bool.eq_false_iff.2 hlong)

/-- Noon of the 29th of February 2024. -/
def leapDay : Instant := ⟨⟨2024, 2, 29, rfl⟩, 12, 0, 0, 0⟩

/-- The next noon. -/
def dayAfter : Instant := ⟨⟨2024, 3, 1, rfl⟩, 12, 0, 0, 0⟩

/-- The noon after the next one. -/
def twoDaysAfter : Instant := ⟨⟨2024, 3, 2, rfl⟩, 12, 0, 0, 0⟩

/-- An event whose texts and facts hold line breaks, a fraction and a nested object. -/
def failedEvent (category level : String) : Event where
  category := category
  level := level
  message := "line\u2028break\n"
  data := .ofEntries [("ratio", .float .nan), ("seen", .list [.ofEntries [("", .null)], .int (-7)])]
  component := some ""

/-- An event of each day, of which the first one is cleaned up and the last one is not told. -/
def threeDays : List Action :=
  [.log (failedEvent system "ERROR"), .setClock dayAfter, .log (failedEvent plugins "ERROR"),
    .setClock twoDaysAfter, .cleanup 1, .log (failedEvent plugins "INFO")]

theorem isData_failedEvent (category level : String) :
    Json.IsData (failedEvent category level).data := by
  have hobject : Json.IsData (.ofEntries [("", .null)]) :=
    .object (by simp) (List.forall_mem_singleton.2 .null)
  have hlist : Json.IsData (.list [.ofEntries [("", .null)], .int (-7)]) :=
    .list (List.forall_mem_cons.2 ⟨hobject, List.forall_mem_singleton.2 (.int _)⟩)
  exact .object (by simp)
    (List.forall_mem_cons.2 ⟨.float _, List.forall_mem_singleton.2 hlist⟩)

theorem after_log_failedEvent (category level : String) (notes : List Note) (now : Instant) :
    (⟨notes, "WARNING", now⟩ : Journal).after (.log (failedEvent category level)) =
      if passes level "WARNING" then ⟨notes ++ [⟨now, failedEvent category level⟩], "WARNING", now⟩
      else ⟨notes, "WARNING", now⟩ := by
  have hlt : (-7 : Int).natAbs < 10 ^ 1 := by decide
  have hshort : Value.isShort (-7) = true := Value.isShort_of_lt hlt (by decide)
  have hshow : (failedEvent category level).data.isShowable = true := by
    simp [failedEvent, Value.ofEntries, Value.isShowable, Value.areShowable,
      Value.areShowableEntries, hshort]
  simp only [Journal.after, Journal.takes, hshow, Bool.and_true]
  rfl

/-- The clean-up of the third day removes what was told on the first one. -/
theorem after_cleanup_one :
    Journal.after ⟨[⟨leapDay, failedEvent system "ERROR"⟩,
        ⟨dayAfter, failedEvent plugins "ERROR"⟩], "WARNING", twoDaysAfter⟩ (.cleanup 1) =
      ⟨[⟨dayAfter, failedEvent plugins "ERROR"⟩], "WARNING", twoDaysAfter⟩ := by
  rfl

theorem run_threeDays : (Journal.empty "WARNING" leapDay).run threeDays =
    ⟨[⟨dayAfter, failedEvent plugins "ERROR"⟩], "WARNING", twoDaysAfter⟩ := by
  unfold threeDays Journal.run Journal.empty
  rw [List.foldl_cons, after_log_failedEvent, if_pos (by decide), List.foldl_cons, List.foldl_cons]
  show List.foldl Journal.after ((⟨_, "WARNING", dayAfter⟩ : Journal).after _) _ = _
  rw [after_log_failedEvent, if_pos (by decide), List.foldl_cons, List.foldl_cons]
  show List.foldl Journal.after ((⟨_, "WARNING", twoDaysAfter⟩ : Journal).after _) _ = _
  rw [List.nil_append, List.singleton_append, after_cleanup_one, List.foldl_cons,
    after_log_failedEvent, if_neg (by decide), List.foldl_nil]

theorem keeps_journal_threeDays :
    (∃ found : List Value,
      ((Store.empty "WARNING" leapDay).run threeDays).lookup { days := 3, limit := 1 } = .ok found ∧
        found.Perm [Note.value ⟨dayAfter, failedEvent plugins "ERROR"⟩]) ∧
    ((Store.empty "WARNING" leapDay).run threeDays).clear.2 = 1 := by
  have hrun : (Journal.empty "WARNING" leapDay).AdmitsAll threeDays := by
    refine ⟨⟨by decide, isData_failedEvent _ _⟩, ?_, ⟨by decide, isData_failedEvent _ _⟩, ?_,
      fun _ => ?_, ⟨by decide, isData_failedEvent _ _⟩, trivial⟩
    · show 1000 ≤ 2024
      decide
    · show 1000 ≤ 2024
      decide
    · exact ⟨⟨2024, 3, 1, rfl⟩, rfl, by decide⟩
  obtain ⟨hlookup, hclear, _⟩ := keeps_journal (by decide) hrun
  rw [run_threeDays] at hlookup hclear
  exact ⟨hlookup 3 1 (by decide) (by decide), hclear⟩

/-- An event whose facts hold the least integer that is too long to be written. -/
def longEvent : Event where
  category := system
  level := "INFO"
  message := "m"
  data := .ofEntries [("a", .int (Nat.pow 10 integerDigitLimit))]

/-- An event that passes the least level is refused, and leaves no entry, if an integer in its facts
    is too long to be written. And two surrogates are written as the one character that they are a
    pair for, so a text in which they stood as two would be read again as another text. -/
theorem lookup_longEvent :
    longEvent.category ∈ categories ∧ Json.IsData longEvent.data ∧
      passes longEvent.level "INFO" = true ∧
      (Store.empty "INFO" leapDay).record longEvent = .error (.noText .integerTooLong) ∧
      ((Store.empty "INFO" leapDay).run [.log longEvent]).lookup { days := 1, limit := 1 } =
        .ok [] ∧
      Json.unitEscape 0xD83D ++ Json.unitEscape 0xDE00 = Json.escapeChar '😀' := by
  have hcategory : longEvent.category ∈ categories := by decide
  have hpasses : passes longEvent.level "INFO" = true := by decide
  have hdata : Json.IsData longEvent.data :=
    .object (List.nodup_singleton _) (List.forall_mem_singleton.2 (.int _))
  have hlong : Value.isShort (Nat.pow 10 integerDigitLimit : Nat) = false :=
    Value.isShort_of_le (Nat.le_of_eq (Int.natAbs_natCast _).symm)
  have hshow : longEvent.data.isShowable = false := by
    refine Bool.eq_false_iff.2 fun hshow => ?_
    have hmember := Value.isShowable_ofEntries.1 hshow _ List.mem_cons_self
    simp only [Value.isShowable, hlong] at hmember
    cases hmember
  have hrecord : (Store.empty "INFO" leapDay).record longEvent =
      .error (.noText .integerTooLong) := Store.record_eq_error hpasses hdata hshow
  have hrun : (Store.empty "INFO" leapDay).run [.log longEvent] = .empty "INFO" leapDay := by
    rw [Store.run, List.foldl_cons, List.foldl_nil, Store.after, hrecord]
  obtain ⟨found, hfound, hperm⟩ : ∃ found : List Value,
      (Store.empty "INFO" leapDay).lookup { days := 1, limit := 1 } = .ok found ∧ found.Perm [] :=
    (agrees_empty "INFO" (by decide)).lookup_perm (by decide) (by decide)
  refine ⟨hcategory, hdata, hpasses, hrecord, ?_, rfl⟩
  rw [hrun, hfound, hperm.eq_nil]

end LayerGraph.Log
