import LayerGraph.Value

/-! # Entries as maps

    Entries under string keys, seen through what is found under a key. Writing a value changes what
    is found under its key (`get?_set_self`) and nothing else (`get?_set_of_ne`), and so does
    removing a key (`get?_erase_self`, `get?_erase_of_ne`).
-/

namespace LayerGraph.Entries

theorem set_of_mem {entries : Entries} {key : String} (value : Value)
    (h : entries.any (·.1 == key) = true) :
    entries.set key value =
      entries.map fun entry => if entry.1 == key then (entry.1, value) else entry := by
  unfold set
  exact if_pos h

theorem set_of_not_mem {entries : Entries} {key : String} (value : Value)
    (h : entries.any (·.1 == key) = false) : entries.set key value = entries ++ [(key, value)] := by
  unfold set
  rw [h]
  rfl

theorem get?_cons_self (key : String) (value : Value) (rest : Entries) :
    get? ((key, value) :: rest) key = some value := by
  unfold get?
  exact List.lookup_cons_self

theorem get?_cons_of_ne {key other : String} (h : key ≠ other) (value : Value) (rest : Entries) :
    get? ((other, value) :: rest) key = rest.get? key := by
  unfold get?
  rw [List.lookup_cons, beq_false_of_ne h]

/-- A key is found exactly if an entry has it. -/
theorem get?_isSome (entries : Entries) (key : String) :
    (entries.get? key).isSome = entries.any (·.1 == key) := by
  induction entries with
  | nil => rfl
  | cons entry rest ih =>
    obtain ⟨name, old⟩ := entry
    by_cases h : key = name
    · subst h
      rw [get?_cons_self]
      simp
    · rw [get?_cons_of_ne h, ih, List.any_cons, beq_false_of_ne (fun same => h same.symm),
        Bool.false_or]

/-- A value that is written under a key is found there. -/
theorem get?_set_self (entries : Entries) (key : String) (value : Value) :
    (entries.set key value).get? key = some value := by
  cases h : entries.any (·.1 == key) with
  | true =>
    rw [set_of_mem value h]
    induction entries with
    | nil => simp at h
    | cons entry rest ih =>
      obtain ⟨name, old⟩ := entry
      by_cases same : name = key
      · subst same
        simpa using get?_cons_self name value _
      · have later : rest.any (·.1 == key) = true := by simpa [same] using h
        rw [List.map_cons, beq_false_of_ne same]
        exact (get?_cons_of_ne (fun e => same e.symm) old _).trans (ih later)
  | false =>
    rw [set_of_not_mem value h]
    induction entries with
    | nil => exact get?_cons_self key value []
    | cons entry rest ih =>
      obtain ⟨name, old⟩ := entry
      rw [List.any_cons, Bool.or_eq_false_iff] at h
      have differs : key ≠ name := fun e => by simp [e] at h
      exact (get?_cons_of_ne differs old _).trans (ih h.2)

/-- What stands under other keys stays. -/
theorem get?_set_of_ne {key other : String} (differ : other ≠ key) (entries : Entries)
    (value : Value) : (entries.set key value).get? other = entries.get? other := by
  cases h : entries.any (·.1 == key) with
  | true =>
    rw [set_of_mem value h]
    clear h
    induction entries with
    | nil => rfl
    | cons entry rest ih =>
      obtain ⟨name, old⟩ := entry
      by_cases same : name = key
      · subst same
        rw [List.map_cons, beq_self_eq_true, if_pos rfl, get?_cons_of_ne differ,
          get?_cons_of_ne differ]
        exact ih
      · rw [List.map_cons, beq_false_of_ne same]
        by_cases found : other = name
        · subst found
          exact (get?_cons_self other old _).trans (get?_cons_self other old rest).symm
        · exact (get?_cons_of_ne found old _).trans (ih.trans (get?_cons_of_ne found old rest).symm)
  | false =>
    rw [set_of_not_mem value h]
    clear h
    induction entries with
    | nil => exact get?_cons_of_ne differ value []
    | cons entry rest ih =>
      obtain ⟨name, old⟩ := entry
      by_cases found : other = name
      · subst found
        exact (get?_cons_self other old _).trans (get?_cons_self other old rest).symm
      · exact (get?_cons_of_ne found old _).trans (ih.trans (get?_cons_of_ne found old rest).symm)

/-- A key that is removed is not found. -/
theorem get?_erase_self (entries : Entries) (key : String) :
    (entries.erase key).get? key = none := by
  rw [← Option.isNone_iff_eq_none, ← Option.not_isSome, get?_isSome, erase, List.any_filter]
  simp

/-- What stands under other keys is not removed. -/
theorem get?_erase_of_ne {key other : String} (differ : other ≠ key) (entries : Entries) :
    (entries.erase key).get? other = entries.get? other := by
  induction entries with
  | nil => rfl
  | cons entry rest ih =>
    obtain ⟨name, old⟩ := entry
    by_cases removed : name = key
    · subst removed
      rw [erase, List.filter_cons_of_neg (by simp), get?_cons_of_ne differ]
      exact ih
    · rw [erase, List.filter_cons_of_pos (by simp [removed])]
      by_cases found : other = name
      · subst found
        exact (get?_cons_self other old _).trans (get?_cons_self other old rest).symm
      · rw [get?_cons_of_ne found, get?_cons_of_ne found]
        exact ih

end LayerGraph.Entries
