import LayerGraph.Proofs.Log.Lookup

/-! # What is kept

    The files of a store are daily files of the known categories. Pruning compares the dates in
    their names with the stamp of the first day that is kept. If this day is in the year 1000 or
    later, exactly the files of earlier days are removed, and every look-up that does not go further
    back is answered as before. If it is earlier, its stamp is shorter than a date of four digits,
    and also files of later days are removed (`prune_dailies`).
-/

namespace LayerGraph.Log

open Time (Date Instant)

/-! ### Daily files -/

/-- The file of a known category for a day. -/
structure Daily where
  category : String
  date : Date
  text : String
  known : category ∈ categories

namespace Daily

/-- The year in the name of a daily file has four digits. -/
def file (daily : Daily) : File :=
  ⟨daily.category, daily.category ++ "-" ++ daily.date.text ++ fileEnding, daily.text⟩

/-- Whether a daily file is too old is told by its date. -/
theorem isBefore_file (daily : Daily) (stamp : String) :
    daily.file.isBefore stamp = decide (daily.date.text < stamp) := by
  have hknown : categories.contains daily.file.folder = true := List.contains_iff_mem.2 daily.known
  unfold File.isBefore
  rw [hknown, Bool.true_and]
  show (stampOf? daily.category (daily.category ++ "-" ++ daily.date.text ++ fileEnding)).any _ = _
  rw [stampOf?_named, Option.any_some]

end Daily

namespace Store
variable (store : Store)

theorem prune_eq {days : Int} (hdays : 1 ≤ days) {cutoff : Date}
    (hcutoff : Date.daysBefore? days.toNat store.now.date = some cutoff) :
    store.prune days = .ok (store.remove (File.isBefore cutoff.stamp)) := by
  unfold prune
  rw [if_neg (by omega), hcutoff]

/-- If exactly the dates with a property are before a stamp, the daily files with these dates are
    removed. -/
theorem remove_dailies {dailies : List Daily} (hfiles : store.files = dailies.map Daily.file)
    (stamp : String) (old : Date → Prop) [DecidablePred old]
    (hold : ∀ daily ∈ dailies, daily.date.text < stamp ↔ old daily.date) :
    store.remove (File.isBefore stamp) =
      ({ store with files := (dailies.filter fun daily => ¬old daily.date).map Daily.file },
        dailies.countP fun daily => old daily.date) := by
  have htold : ∀ daily ∈ dailies, daily.file.isBefore stamp = decide (old daily.date) := by
    intro daily hdaily
    rw [Daily.isBefore_file, decide_eq_decide]
    exact hold daily hdaily
  unfold remove
  rw [hfiles, List.filter_map, List.countP_map]
  refine Prod.ext (congrArg (Store.mk · _ _) (congrArg _ (List.filter_congr ?_))) ?_
  · intro daily hdaily
    rw [Function.comp_apply, htold daily hdaily, decide_not]
  · exact List.countP_congr fun daily hdaily => by rw [Function.comp_apply, htold daily hdaily]

/-! ### Look-ups -/

/-- A look-up depends on nothing but the files of its days. -/
theorem lookup_congr [Stack] [Sorting] (other : Store) (hnow : other.now = store.now)
    {query : Query}
    (htexts : ∀ dates, query.dates store.now.date = .ok dates → ∀ folder ∈ query.folders,
      ∀ date ∈ dates,
        other.text? folder (fileName folder date) = store.text? folder (fileName folder date)) :
    other.lookup query = store.lookup query := by
  unfold lookup gather
  rw [hnow]
  cases hdates : query.dates store.now.date with
  | error failure => rfl
  | ok dates =>
    have hsame : (query.folders.flatMap fun folder =>
        dates.filterMap fun date => other.text? folder (fileName folder date)) =
          query.folders.flatMap fun folder =>
            dates.filterMap fun date => store.text? folder (fileName folder date) :=
      List.flatMap_congr fun folder hfolder =>
        List.filterMap_congr fun date hdate => htexts dates hdates folder hfolder date hdate
    simp only [bind, Except.bind]
    rw [hsame]

/-- Removing files takes away no text of any other file. -/
theorem text?_remove {p : File → Bool} {folder name : String}
    (hkept : ∀ file, file.folder = folder → file.name = name → p file = false) :
    (store.remove p).1.text? folder name = store.text? folder name := by
  unfold text? remove
  simp only
  rw [List.find?_filter]
  congr 2
  funext file
  rw [Bool.eq_iff_iff]
  simp only [Bool.and_eq_true, Bool.not_eq_true', beq_iff_eq, decide_eq_true_eq]
  constructor
  · exact fun h => h.2
  · exact fun h => ⟨hkept file h.1 h.2, h⟩

/-- What is not older than the first day that is kept can be looked up as before, if this day is in
    the year 1000 or later. -/
theorem lookup_remove [Stack] [Sorting] {days : Int} {cutoff : Date}
    (hcutoff : Date.daysBefore? days.toNat store.now.date = some cutoff)
    (hyear : 1000 ≤ cutoff.year) {query : Query} (hquery : query.days ≤ days + 1) :
    (store.remove (File.isBefore cutoff.stamp)).1.lookup query = store.lookup query := by
  apply store.lookup_congr (store.remove (File.isBefore cutoff.stamp)).1 rfl
  intro dates hdates folder _ date hdate
  have hlast : Date.lastDays? query.days.toNat store.now.date = some dates := by
    unfold Query.dates at hdates
    split at hdates
    · next found hfound => exact (Except.ok.inj hdates) ▸ hfound
    · exact absurd hdates nofun
  -- the first day that is kept is so many days before the date
  obtain ⟨back, hback, hdate⟩ := (Date.mem_lastDays? hlast date).1 hdate
  have hless : back ≤ days.toNat := by omega
  obtain ⟨rest, hrest⟩ := Nat.exists_eq_add_of_le hless
  rw [hrest, Date.daysBefore?_add hdate] at hcutoff
  have hlate : ¬date.IsBefore cutoff := by
    cases rest with
    | zero =>
      obtain rfl := Option.some.inj hcutoff
      exact Date.not_isBefore_self date
    | succ rest =>
      intro hbefore
      exact Date.not_isBefore_self _ (hbefore.trans (Date.isBefore_of_daysBefore? hcutoff))
  have hdateYear : 1000 ≤ date.year := by
    unfold Date.IsBefore at hlate
    omega
  refine store.text?_remove fun file hfolder hname => ?_
  unfold File.isBefore
  rw [hfolder, hname, stampOf?_fileName, Option.any_some,
    decide_eq_false (fun hlt => hlate ((Date.stamp_lt_iff hdateYear hyear).1 hlt)), Bool.and_false]

end Store

/-- Pruning keeps `days` days and today. From the year 1000 on it removes exactly the files of
    earlier days and answers how many they are, and whatever could be looked up in the days that are
    kept can still be looked up. If the first day that is kept is before the year 1000, the year of
    a file is compared with it by as many digits as that year has, so that files of later days are
    removed as well. -/
theorem prune_dailies [Stack] [Sorting] {store : Store} {dailies : List Daily}
    (hfiles : store.files = dailies.map Daily.file) {days : Int} (hdays : 1 ≤ days) {cutoff : Date}
    (hcutoff : Date.daysBefore? days.toNat store.now.date = some cutoff) :
    (1000 ≤ cutoff.year →
      let pruned : Store := { store with
        files := (dailies.filter fun daily => ¬daily.date.IsBefore cutoff).map Daily.file }
      store.prune days = .ok (pruned, dailies.countP fun daily => daily.date.IsBefore cutoff) ∧
      ∀ query : Query, query.days ≤ days + 1 → pruned.lookup query = store.lookup query) ∧
    (cutoff.year < 1000 →
      let bound := cutoff.year * 10 ^ (4 - (Nat.toDigits 10 cutoff.year).length)
      let pruned : Store := { store with
        files := (dailies.filter fun daily => ¬daily.date.year < bound).map Daily.file }
      store.prune days = .ok (pruned, dailies.countP fun daily => daily.date.year < bound)) := by
  rw [store.prune_eq hdays hcutoff]
  constructor
  · intro hyear pruned
    have hremove := store.remove_dailies hfiles cutoff.stamp (fun date => date.IsBefore cutoff)
      fun daily _ => by
        rw [← Date.text_eq_stamp hyear]
        exact Date.text_lt_iff
    refine ⟨congrArg Except.ok hremove, fun query hquery => ?_⟩
    have hlookup := store.lookup_remove hcutoff hyear hquery
    rw [hremove] at hlookup
    exact hlookup
  · intro hyear bound pruned
    exact congrArg Except.ok (store.remove_dailies hfiles cutoff.stamp
      (fun date => date.year < bound) fun daily _ => daily.date.text_lt_stamp_iff_of_early hyear)

/-- The file of the system for a day. -/
def systemFile (date : Date) (text : String) : Daily :=
  ⟨"system", date, text, by decide⟩

/-- A store with the files of the last two days and of a day before them. -/
def threeFiles : Store where
  files := [systemFile ⟨2023, 12, 31, rfl⟩ "a\n", systemFile leapDay.date "b\n",
    systemFile dayAfter.date "c\n"].map Daily.file
  minLevel := "INFO"
  now := dayAfter

theorem prune_dailies_threeFiles :
    threeFiles.prune 1 = .ok (⟨[systemFile leapDay.date "b\n",
      systemFile dayAfter.date "c\n"].map Daily.file, "INFO", dayAfter⟩, 1) := by
  have hcutoff : Date.daysBefore? (1 : Int).toNat threeFiles.now.date = some leapDay.date := rfl
  exact ((prune_dailies rfl (by decide) hcutoff).1 (by decide)).1

/-- Midnight at the beginning of the year 1000. -/
def newYear : Instant := ⟨⟨1000, 1, 1, rfl⟩, 0, 0, 0, 0⟩

/-- A store with a file of today, the first day of the year 1000. -/
def oneFile : Store where
  files := [(systemFile newYear.date "a\n").file]
  minLevel := "INFO"
  now := newYear

/-- The file of today is removed if the only other day that is kept is in the year 999. -/
theorem prune_oneFile :
    Date.daysBefore? 1 newYear.date = some ⟨999, 12, 31, rfl⟩ ∧
      ¬newYear.date.IsBefore ⟨999, 12, 31, rfl⟩ ∧
      oneFile.prune 1 = .ok (⟨[], "INFO", newYear⟩, 1) := by
  refine ⟨rfl, by decide, rfl⟩

end LayerGraph.Log
