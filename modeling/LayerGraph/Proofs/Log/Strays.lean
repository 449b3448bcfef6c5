import LayerGraph.Proofs.Log.Lookup

/-! # Stray lines

    Anything may stand in the files of a store. A line is an *entry* if it is an object. Blank lines
    and lines that are no JSON are passed over. All other lines are *stray*: JSON that is no object,
    and what cannot be read, for it holds an integer that is too long or is nested too deeply. A
    query that meets no stray line is answered as if the files had nothing but their entries, and it
    fails only if two times of what it asks for cannot be compared. A stray line makes it fail
    (`lookup_of_any_lines`).
-/

namespace LayerGraph.Log

open Time (Date Instant)

/-! ### Lines -/

/-- Whether a value is an object. -/
def isObject : Value → Bool
  | .map _ => true
  | _ => false

/-- Whether a line is an object. -/
def isEntryLine [Stack] (line : List Char) : Bool :=
  match readLine line with
  | .ok (some entry) => isObject entry
  | _ => false

/-- A line that would hold a text with half a character if it could be read. -/
def IsOpenLine [Stack] (line : List Char) : Prop := readLine line = .error .loneSurrogate

/-- Whether a line is neither an object nor passed over. -/
def isStray [Stack] (line : List Char) : Bool :=
  match readLine line with
  | .ok none => false
  | .ok (some entry) => !isObject entry
  | .error _ => true

/-- What lines that are not open can make a query fail with. -/
def strayFailures : List Failure := [.notEntry, .noText .integerTooLong, .stackExhausted]

namespace Query

/-- Whether a query looks at the members of entries to pick some of them. -/
def isSelective (query : Query) : Bool :=
  (query.level.filter (!·.isEmpty)).isSome || (query.component.filter (!·.isEmpty)).isSome

/-- What a line makes a query fail with, if the query cannot go past it. -/
def faultOf [Stack] (query : Query) (line : List Char) : Option Failure :=
  match readLine line with
  | .error failure => some failure
  | .ok none => none
  | .ok (some entry) => if query.isSelective && !isObject entry then some .notEntry else none

/-- What a query finds in a line. -/
def found? [Stack] (query : Query) (line : List Char) : Option Value :=
  match readLine line with
  | .ok (some entry) =>
    match query.wants entry with
    | .ok true => some entry
    | _ => none
  | _ => none

end Query

/-- Why a line cannot be read. -/
theorem readLine_eq_error [Stack] {line : List Char} {failure : Failure}
    (h : readLine line = .error failure) :
    failure = .stackExhausted ∨ failure = .noText .integerTooLong ∨ failure = .loneSurrogate := by
  unfold readLine at h
  simp only at h
  grind

/-! ### Conditions -/

theorem member_of_not_isObject {entry : Value} (h : isObject entry = false) (key : String) :
    member entry key = .error .notEntry := by
  cases entry with
  | map members => exact absurd h nofun
  | _ => rfl

/-- A condition on an object can be decided. -/
theorem exists_hasText (key : String) (asked : Option String) {entry : Value}
    (h : isObject entry = true) : ∃ answer, hasText key asked entry = .ok answer := by
  cases entry with
  | map members =>
    unfold hasText
    cases asked.filter (!·.isEmpty) with
    | none => exact ⟨true, rfl⟩
    | some text => exact ⟨_, rfl⟩
  | _ => exact absurd h nofun

/-- What is no object fails every condition that asks for a text. -/
theorem hasText_of_not_isObject (key : String) (asked : Option String) {entry : Value}
    (h : isObject entry = false) : hasText key asked entry =
      if (asked.filter (!·.isEmpty)).isSome then .error .notEntry else .ok true := by
  unfold hasText
  cases asked.filter (!·.isEmpty) with
  | none => rfl
  | some text =>
    simp only
    rw [member_of_not_isObject h]
    rfl

namespace Query

theorem exists_wants (query : Query) {entry : Value} (h : isObject entry = true) :
    ∃ answer, query.wants entry = .ok answer := by
  obtain ⟨level, hlevel⟩ := exists_hasText "level" query.level h
  obtain ⟨component, hcomponent⟩ := exists_hasText "component" query.component h
  unfold wants
  rw [hlevel]
  cases level with
  | true => exact ⟨component, hcomponent⟩
  | false => exact ⟨false, rfl⟩

theorem wants_of_not_isObject (query : Query) {entry : Value} (h : isObject entry = false) :
    query.wants entry = if query.isSelective then .error .notEntry else .ok true := by
  unfold wants isSelective
  rw [hasText_of_not_isObject _ _ h, hasText_of_not_isObject _ _ h]
  cases (query.level.filter (!·.isEmpty)).isSome with
  | true => rfl
  | false =>
    cases (query.component.filter (!·.isEmpty)).isSome with
    | true => rfl
    | false => rfl

/-! ### Going through lines -/

variable [Stack] (query : Query)

/-- One line either stops the query, or gives what is found in it. -/
theorem entriesIn_cons (line : List Char) (rest : List (List Char)) :
    query.entriesIn (line :: rest) =
      match query.faultOf line with
      | some failure => .error failure
      | none => (fun others => (query.found? line).toList ++ others) <$> query.entriesIn rest := by
  rw [entriesIn]
  unfold faultOf found?
  cases readLine line with
  | error failure => rfl
  | ok read =>
    cases read with
    | none =>
      show query.entriesIn rest = (fun others => [] ++ others) <$> query.entriesIn rest
      cases query.entriesIn rest <;> rfl
    | some entry =>
      simp only [bind, Except.bind]
      cases hobject : isObject entry with
      | true =>
        obtain ⟨answer, hanswer⟩ := query.exists_wants hobject
        simp only [hanswer, Bool.not_true, Bool.and_false, Bool.false_eq_true, if_false]
        cases query.entriesIn rest <;> cases answer <;> rfl
      | false =>
        rw [query.wants_of_not_isObject hobject]
        cases query.isSelective with
        | true => rfl
        | false =>
          simp only [Bool.false_and, Bool.false_eq_true, if_false]
          cases query.entriesIn rest <;> rfl

/-- The first line that stops a query makes it fail; otherwise the query has what is found in the
    lines, in order. -/
theorem entriesIn_eq (lines : List (List Char)) :
    query.entriesIn lines =
      match lines.findSome? query.faultOf with
      | some failure => .error failure
      | none => .ok (lines.filterMap query.found?) := by
  induction lines with
  | nil => rfl
  | cons line rest ih =>
    rw [entriesIn_cons, ih, List.findSome?_cons, List.filterMap_cons]
    cases query.faultOf line with
    | some failure => rfl
    | none =>
      cases rest.findSome? query.faultOf with
      | some failure => rfl
      | none => cases query.found? line <;> rfl

theorem entriesIn_append (front back : List (List Char)) :
    query.entriesIn (front ++ back) = do
      let first ← query.entriesIn front
      let second ← query.entriesIn back
      return first ++ second := by
  induction front with
  | nil =>
    show query.entriesIn back = (do let second ← query.entriesIn back; return [] ++ second)
    cases query.entriesIn back <;> rfl
  | cons line rest ih =>
    rw [List.cons_append, entriesIn_cons, entriesIn_cons, ih]
    cases query.faultOf line with
    | some failure => rfl
    | none =>
      cases query.entriesIn rest with
      | error failure => rfl
      | ok first =>
        cases query.entriesIn back with
        | error failure => rfl
        | ok second => simp [Functor.map, Except.map, bind, Except.bind, pure, Except.pure]

/-- Going through texts one by one is going through all their lines. -/
theorem mapM_entriesIn (texts : List String) :
    List.flatten <$> (texts.mapM fun text => query.entriesIn (linesOf text)) =
      query.entriesIn (texts.flatMap linesOf) := by
  induction texts with
  | nil => rfl
  | cons text texts ih =>
    rw [List.mapM_cons, List.flatMap_cons, entriesIn_append, ← ih]
    cases query.entriesIn (linesOf text) with
    | error failure => rfl
    | ok first =>
      cases texts.mapM fun text => query.entriesIn (linesOf text) with
      | error failure => rfl
      | ok others => rfl

/-! ### Stray lines -/

/-- A line that is not open stops a query for no other cause. -/
theorem faultOf_mem {line : List Char} (hclosed : ¬IsOpenLine line) {failure : Failure}
    (h : query.faultOf line = some failure) : failure ∈ strayFailures := by
  unfold faultOf at h
  cases hread : readLine line with
  | error own =>
    rw [hread] at h
    obtain rfl := Option.some.inj h
    rcases readLine_eq_error hread with rfl | rfl | rfl
    · simp [strayFailures]
    · simp [strayFailures]
    · exact absurd hread hclosed
  | ok read =>
    rw [hread] at h
    cases read with
    | none => cases h
    | some entry =>
      simp only [Option.ite_none_right_eq_some] at h
      obtain rfl := Option.some.inj h.2
      simp [strayFailures]

/-- A line that is not stray stops no query. -/
theorem faultOf_of_not_isStray {line : List Char} (h : isStray line = false) :
    query.faultOf line = none := by
  unfold isStray at h
  unfold faultOf
  cases hread : readLine line with
  | error failure => simp [hread] at h
  | ok read =>
    cases read with
    | none => rfl
    | some entry =>
      have hobject : isObject entry = true := by simpa [hread] using h
      simp [hobject]

/-- What is found in a line that is not stray is an object. -/
theorem isObject_of_found? {line : List Char} (h : isStray line = false) {entry : Value}
    (hfound : query.found? line = some entry) :
    isEntryLine line = true ∧ isObject entry = true := by
  unfold isStray at h
  unfold found? at hfound
  unfold isEntryLine
  cases hread : readLine line with
  | error failure => simp [hread] at h
  | ok read =>
    cases read with
    | none => simp [hread] at hfound
    | some own =>
      have hobject : isObject own = true := by simpa [hread] using h
      simp only [hread] at hfound
      split at hfound
      · exact ⟨hobject, Option.some.inj hfound ▸ hobject⟩
      · exact absurd hfound nofun

/-- Lines that are passed over may be left out. -/
theorem filterMap_found?_filter {lines : List (List Char)}
    (h : ∀ line ∈ lines, isStray line = false) :
    (lines.filter isEntryLine).filterMap query.found? = lines.filterMap query.found? := by
  rw [List.filterMap_filter]
  refine List.filterMap_congr fun line hline => ?_
  cases hentry : isEntryLine line with
  | true => rfl
  | false =>
    cases hfound : query.found? line with
    | none => rfl
    | some entry =>
      have hboth := query.isObject_of_found? (h line hline) hfound
      rw [hentry] at hboth
      exact absurd hboth.1 nofun

/-- A stray line that does not stop a query is found by it. -/
theorem exists_found?_of_isStray {line : List Char} (h : isStray line = true)
    (hfault : query.faultOf line = none) :
    ∃ entry, query.found? line = some entry ∧ isObject entry = false := by
  unfold isStray at h
  unfold faultOf at hfault
  unfold found?
  cases hread : readLine line with
  | error failure => simp [hread] at hfault
  | ok read =>
    cases read with
    | none => simp [hread] at h
    | some entry =>
      have hobject : isObject entry = false := by simpa [hread] using h
      have hopen : query.isSelective = false := by simpa [hread, hobject] using hfault
      refine ⟨entry, ?_, hobject⟩
      simp only [query.wants_of_not_isObject hobject, hopen]
      rfl

end Query

/-! ### Files -/

/-- The entries of a text, line by line. -/
def entriesOnly [Stack] (text : String) : String :=
  String.ofList (textOfLines ((linesOf text).filter isEntryLine))

theorem linesOf_entriesOnly [Stack] (text : String) :
    linesOf (entriesOnly text) = (linesOf text).filter isEntryLine :=
  linesOf_textOfLines fun _ hline => not_mem_of_mem_linesOf (List.mem_filter.1 hline).1

namespace Store

/-- The store without all lines that are no entries. -/
def onlyEntries [Stack] (store : Store) : Store :=
  { store with files := store.files.map fun file => { file with text := entriesOnly file.text } }

/-- The lines that a query goes through. -/
def linesFor (store : Store) (query : Query) (dates : List Date) : List (List Char) :=
  (query.folders.flatMap fun folder =>
    dates.filterMap fun date => store.text? folder (fileName folder date)).flatMap linesOf

theorem text?_onlyEntries [Stack] (store : Store) (folder name : String) :
    store.onlyEntries.text? folder name = (store.text? folder name).map entriesOnly := by
  unfold text? onlyEntries
  rw [List.find?_map, Option.map_map, Option.map_map]
  rfl

theorem linesFor_onlyEntries [Stack] (store : Store) (query : Query) (dates : List Date) :
    store.onlyEntries.linesFor query dates = (store.linesFor query dates).filter isEntryLine := by
  unfold linesFor
  simp only [text?_onlyEntries, List.flatMap_assoc, List.filter_flatMap]
  refine List.flatMap_congr fun folder _ => ?_
  induction dates with
  | nil => rfl
  | cons date dates ih =>
    rw [List.filterMap_cons, List.filterMap_cons]
    cases store.text? folder (fileName folder date) with
    | none => exact ih
    | some text =>
      simp only [Option.map_some, List.flatMap_cons]
      rw [linesOf_entriesOnly, ih]

theorem gather_eq_entriesIn [Stack] (store : Store) {query : Query} {dates : List Date}
    (hdates : query.dates store.now.date = .ok dates) :
    store.gather query = query.entriesIn (store.linesFor query dates) := by
  unfold gather linesFor
  rw [hdates, ← Query.mapM_entriesIn]
  rfl

end Store

/-! ### Order -/

/-- The time of an entry as it is compared. -/
def timeIn : Value → Value
  | .map members => (Value.member? "timestamp" members).getD (.str "")
  | _ => .str ""

/-- Entries with their times. -/
def timed (entries : List Value) : List (Value × Value) :=
  entries.map fun entry => (timeIn entry, entry)

theorem map_fst_timed (entries : List Value) :
    (timed entries).map (·.1) = entries.map timeIn :=
  List.map_map

theorem map_snd_timed (entries : List Value) : (timed entries).map (·.2) = entries :=
  List.map_map.trans (List.map_id entries)

/-- A time is put to an object; what is no object has none. -/
theorem timeOf_bind_eq (entry : Value) :
    (do return (← timeOf entry, entry) : Except Failure (Value × Value)) =
      if isObject entry then .ok (timeIn entry, entry) else .error .notEntry := by
  unfold timeOf
  cases entry with
  | map members => rfl
  | _ => rfl

/-- Objects are put in order by their times. -/
theorem sorted_of_objects [Sorting] {entries : List Value}
    (h : ∀ entry ∈ entries, isObject entry = true) :
    Store.sorted entries = (Sorting.sort (timed entries)).map (List.map (·.2)) := by
  have htimed : (entries.mapM fun entry => do return (← timeOf entry, entry)) =
      (.ok (timed entries) : Except Failure (List (Value × Value))) :=
    Result.mapM_eq_ok_map fun entry hentry => by rw [timeOf_bind_eq, if_pos (h entry hentry)]
  unfold Store.sorted
  rw [htimed]
  simp only [bind, Except.bind]
  cases Sorting.sort (timed entries) <;> rfl

/-- Objects that are put in order are the same objects as before. -/
theorem sorted_eq_ok [Sorting] {entries all : List Value}
    (h : ∀ entry ∈ entries, isObject entry = true) (hsorted : Store.sorted entries = .ok all) :
    all.Perm entries := by
  rw [sorted_of_objects h] at hsorted
  obtain ⟨pairs, hpairs, rfl⟩ := Result.map_eq_ok.1 hsorted
  have hperm := (Sorting.perm hpairs).map (·.2)
  rwa [map_snd_timed] at hperm

/-- Objects cannot be put in order only if two of their times cannot be compared. -/
theorem sorted_eq_error [Sorting] {entries : List Value} {failure : Failure}
    (h : ∀ entry ∈ entries, isObject entry = true)
    (hsorted : Store.sorted entries = .error failure) :
    failure = .incomparableTimes ∧ areComparable (entries.map timeIn) = false := by
  rw [sorted_of_objects h] at hsorted
  rw [← map_fst_timed]
  exact Sorting.fails (Result.map_eq_error.1 hsorted)

/-- Objects whose times have an order are put in this order. -/
theorem sorted_of_ordered [Sorting] {entries : List Value}
    (h : ∀ entry ∈ entries, isObject entry = true) (hordered : AreOrdered (entries.map timeIn)) :
    Store.sorted entries = .ok ((newestFirst (timed entries)).map (·.2)) := by
  rw [← map_fst_timed] at hordered
  rw [sorted_of_objects h, Sorting.stable hordered]
  rfl

/-- What is no object has no time. -/
theorem sorted_of_not_isObject [Sorting] {entries : List Value} {entry : Value}
    (hmem : entry ∈ entries) (h : isObject entry = false) :
    Store.sorted entries = .error .notEntry := by
  obtain ⟨failure, hfails⟩ : ∃ failure,
      (entries.mapM fun entry => do return (← timeOf entry, entry)) =
        (.error failure : Except Failure (List (Value × Value))) := by
    cases hall : (entries.mapM fun entry => do return (← timeOf entry, entry) :
        Except Failure (List (Value × Value))) with
    | error failure => exact ⟨failure, rfl⟩
    | ok timed =>
      obtain ⟨_, hown⟩ := Result.mapM_isOk_iff.1 ⟨timed, hall⟩ entry hmem
      rw [timeOf_bind_eq, h] at hown
      exact absurd hown nofun
  -- no entry can fail otherwise
  obtain ⟨_, other, _, _, _, hother⟩ := Result.mapM_eq_error.1 hfails
  rw [timeOf_bind_eq] at hother
  split at hother
  · exact absurd hother nofun
  · rw [← Except.error.inj hother] at hfails
    unfold Store.sorted
    rw [hfails]
    rfl

/-! ### Answers -/

/-- What a query finds in lines. -/
def Query.foundIn [Stack] (query : Query) (lines : List (List Char)) : List Value :=
  lines.filterMap query.found?

/-- The times of what a query finds in lines. -/
def Query.timesIn [Stack] (query : Query) (lines : List (List Char)) : List Value :=
  (query.foundIn lines).map timeIn

/-- What is found in lines that are not stray are objects. -/
theorem Query.isObject_of_foundIn [Stack] (query : Query) {lines : List (List Char)}
    (hnone : ∀ line ∈ lines, isStray line = false) :
    ∀ entry ∈ query.foundIn lines, isObject entry = true := by
  intro entry hentry
  obtain ⟨line, hline, hfound⟩ := List.mem_filterMap.1 hentry
  exact (query.isObject_of_found? (hnone line hline) hfound).2

namespace Store
variable [Stack] [Sorting] (store : Store) {query : Query} {dates : List Date}

/-- If the first day of a query is before all days, there is no answer. -/
theorem lookup_of_noDates (h : Date.lastDays? query.days.toNat store.now.date = none) :
    store.lookup query = .error .noSuchDate := by
  have hdates : query.dates store.now.date = .error .noSuchDate := by
    unfold Query.dates
    rw [h]
  unfold lookup gather
  rw [hdates]
  rfl

variable (hdates : Date.lastDays? query.days.toNat store.now.date = some dates)
include hdates

/-- The first line that stops a query makes it fail; otherwise what is found in the lines is put in
    order, and a part of it is answered. -/
theorem lookup_eq_sorted : store.lookup query =
    match (store.linesFor query dates).findSome? query.faultOf with
    | some failure => .error failure
    | none => (sorted (query.foundIn (store.linesFor query dates))).map
        (slice · query.offset (query.offset + query.limit)) := by
  have hall : query.dates store.now.date = .ok dates := by
    unfold Query.dates
    rw [hdates]
  unfold lookup
  rw [gather_eq_entriesIn store hall, Query.entriesIn_eq]
  cases (store.linesFor query dates).findSome? query.faultOf with
  | some failure => rfl
  | none =>
    show (sorted (query.foundIn (store.linesFor query dates)) >>= fun entries => _) = _
    cases sorted (query.foundIn (store.linesFor query dates)) <;> rfl

/-- A stray line makes a query fail: at the line, if the query asks for a member of it, and
    otherwise when the entries are put in order. -/
theorem lookup_of_stray {line : List Char} (hline : line ∈ store.linesFor query dates)
    (hstray : isStray line = true) : store.lookup query =
      .error (((store.linesFor query dates).findSome? query.faultOf).getD .notEntry) := by
  rw [lookup_eq_sorted store hdates]
  cases hfault : (store.linesFor query dates).findSome? query.faultOf with
  | some failure => rfl
  | none =>
    -- the line has been passed, so it is among what is found
    obtain ⟨entry, hfound, hobject⟩ :=
      query.exists_found?_of_isStray hstray (List.findSome?_eq_none_iff.1 hfault line hline)
    have hmem : entry ∈ query.foundIn (store.linesFor query dates) :=
      List.mem_filterMap.2 ⟨line, hline, hfound⟩
    simp only [sorted_of_not_isObject hmem hobject]
    rfl

/-- Without stray lines what is found is put in order, and a part of it is answered. -/
theorem lookup_of_noStray (hnone : ∀ line ∈ store.linesFor query dates, isStray line = false) :
    store.lookup query = (sorted (query.foundIn (store.linesFor query dates))).map
      (slice · query.offset (query.offset + query.limit)) := by
  have hfault : (store.linesFor query dates).findSome? query.faultOf = none :=
    List.findSome?_eq_none_iff.2 fun line hline => query.faultOf_of_not_isStray (hnone line hline)
  rw [lookup_eq_sorted store hdates, hfault]

/-- Without stray lines the lines that are no entries do not count. -/
theorem lookup_onlyEntries (hnone : ∀ line ∈ store.linesFor query dates, isStray line = false) :
    store.onlyEntries.lookup query = store.lookup query := by
  have hkept : ∀ line ∈ store.onlyEntries.linesFor query dates, isStray line = false := by
    intro line hline
    rw [linesFor_onlyEntries] at hline
    exact hnone line (List.mem_filter.1 hline).1
  have hfound : query.foundIn (store.onlyEntries.linesFor query dates) =
      query.foundIn (store.linesFor query dates) := by
    unfold Query.foundIn
    rw [linesFor_onlyEntries, query.filterMap_found?_filter hnone]
  have hown : Date.lastDays? query.days.toNat store.onlyEntries.now.date = some dates := hdates
  rw [lookup_of_noStray store.onlyEntries hown hkept, lookup_of_noStray store hdates hnone, hfound]

end Store

/-- Whatever stands in the files, in whatever way entries are put in order, and whatever the stack
    has room for: a query that goes through lines of existing days fails if one of them is stray.
    Without stray lines it is answered as if the files had nothing but their entries. It is then
    answered with a part of what it finds, in the order of the times if they have one, and it fails
    only if two of the times cannot be compared. -/
theorem lookup_of_any_lines [Stack] [Sorting] (store : Store) (query : Query) :
    (Date.lastDays? query.days.toNat store.now.date = none →
      store.lookup query = .error .noSuchDate) ∧
    ∀ dates, Date.lastDays? query.days.toNat store.now.date = some dates →
      let lines := store.linesFor query dates
      (∀ line ∈ lines, ¬IsOpenLine line) →
      ((∃ line ∈ lines, isStray line = true) →
        store.lookup query = .error ((lines.findSome? query.faultOf).getD .notEntry) ∧
          (lines.findSome? query.faultOf).getD .notEntry ∈ strayFailures) ∧
      ((∀ line ∈ lines, isStray line = false) →
        store.onlyEntries.lookup query = store.lookup query ∧
        (∀ found, store.lookup query = .ok found → ∃ all : List Value,
          all.Perm (query.foundIn lines) ∧
            found = slice all query.offset (query.offset + query.limit)) ∧
        (AreOrdered (query.timesIn lines) → store.lookup query = .ok (slice
          ((newestFirst (timed (query.foundIn lines))).map (·.2))
          query.offset (query.offset + query.limit))) ∧
        ∀ failure, store.lookup query = .error failure →
          failure = .incomparableTimes ∧ areComparable (query.timesIn lines) = false) := by
  refine ⟨store.lookup_of_noDates, fun dates hdates => ?_⟩
  intro lines hclosed
  refine ⟨?_, fun hnone => ?_⟩
  · -- a stray line stops the query by itself, or it is no object and has no time
    rintro ⟨line, hline, hstray⟩
    refine ⟨store.lookup_of_stray hdates hline hstray, ?_⟩
    cases hfault : lines.findSome? query.faultOf with
    | none => simp [strayFailures]
    | some failure =>
      obtain ⟨first, hfirst, hfails⟩ := List.exists_of_findSome?_eq_some hfault
      exact query.faultOf_mem (hclosed first hfirst) hfails
  -- what is found are objects, so all depends on how their times are put in order
  have hobjects := query.isObject_of_foundIn hnone
  have hlookup := store.lookup_of_noStray hdates hnone
  refine ⟨store.lookup_onlyEntries hdates hnone, ?_, ?_, ?_⟩
  · intro found hfound
    rw [hlookup] at hfound
    obtain ⟨all, hall, rfl⟩ := Result.map_eq_ok.1 hfound
    exact ⟨all, sorted_eq_ok hobjects hall, rfl⟩
  · intro hordered
    rw [hlookup, sorted_of_ordered hobjects hordered]
    rfl
  · intro failure hfailure
    rw [hlookup] at hfailure
    exact sorted_eq_error hobjects (Result.map_eq_error.1 hfailure)

/-- A store whose lines today are a blank one, an empty object and what is no JSON. -/
def mixedStore : Store where
  files := [⟨"plugin", "plugin-2024-03-01.jsonl", " \n\x7b\x7d\n\x7boops\n"⟩]
  minLevel := "INFO"
  now := dayAfter

theorem lookup_of_any_lines_mixed :
    mixedStore.lookup { days := 1 } = .ok [.map []] ∧
      mixedStore.onlyEntries.lookup { days := 1 } = mixedStore.lookup { days := 1 } := by
  have hlines : mixedStore.linesFor { days := 1 } [dayAfter.date] =
      [[' '], ['{', '}'], ['{', 'o', 'o', 'p', 's']] := rfl
  have hnone : ∀ line ∈ mixedStore.linesFor { days := 1 } [dayAfter.date],
      isStray line = false := by
    rw [hlines]
    simp only [List.forall_mem_cons]
    exact ⟨rfl, rfl, rfl, nofun⟩
  have hclosed : ∀ line ∈ mixedStore.linesFor { days := 1 } [dayAfter.date], ¬IsOpenLine line := by
    rw [hlines]
    simp only [List.forall_mem_cons]
    exact ⟨nofun, nofun, nofun, nofun⟩
  have hfound : Query.foundIn { days := 1 } (mixedStore.linesFor { days := 1 } [dayAfter.date]) =
      [.map []] := by
    rw [hlines]
    rfl
  obtain ⟨-, hanswer⟩ :=
    (lookup_of_any_lines mixedStore { days := 1 }).2 [dayAfter.date] rfl hclosed
  obtain ⟨hentries, -, hordered, -⟩ := hanswer hnone
  have htimes : AreOrdered
      (Query.timesIn { days := 1 } (mixedStore.linesFor { days := 1 } [dayAfter.date])) := by
    rw [Query.timesIn, hfound]
    exact areOrdered_str [""]
  have hone : newestFirst (timed [.map []]) = timed [.map []] := List.mergeSort_singleton _
  refine ⟨?_, hentries⟩
  rw [hordered htimes, hfound, hone]
  rfl

/-- A store whose only line today is a number. -/
def numberStore : Store where
  files := [⟨"system", "system-2024-03-01.jsonl", "5\n"⟩]
  minLevel := "INFO"
  now := dayAfter

/-- A line that is a number stops every look-up, though there are no entries. -/
theorem lookup_numberStore :
    numberStore.lookup {} = .error .notEntry ∧ numberStore.onlyEntries.lookup {} = .ok [] := by
  have hgather : numberStore.onlyEntries.gather {} = .ok [] := rfl
  have hnothing : newestFirst (timed []) = [] := List.mergeSort_nil
  have hsorted : Store.sorted [] = .ok [] := by
    rw [sorted_of_ordered (fun _ hentry => absurd hentry List.not_mem_nil) (areOrdered_str []),
      hnothing]
    rfl
  refine ⟨rfl, ?_⟩
  unfold Store.lookup
  rw [hgather]
  show (Store.sorted [] >>= fun entries => _) = _
  rw [hsorted]
  rfl

end LayerGraph.Log
