import LayerGraph.Error

/-! # Entries in order of their times

    Entries are put in order by comparing their times two by two. A time may be any value, so two of
    them may have no order, or the comparisons may contradict each other, as with a number that is
    none. What then comes of it depends on which times are compared, and so on the way of sorting;
    a `Sorting` is known by what all ways have in common.
-/

namespace LayerGraph.Log

/-! ### Times -/

/-- A number in the smallest units of floating point numbers, if it is finite. -/
def unitsOf? : Value → Option Int
  | .float x => x.units?
  | v => v.integer?.map (· * Number.Magnitude.unitsPerOne)

/-- Whether a value is a number or a truth value. -/
def isNumber : Value → Bool
  | .bool _ | .int _ | .float _ => true
  | _ => false

/-- Whether one number is less than another. -/
def isLess (a b : Value) : Bool :=
  match a, b with
  | .float x, .float y => x.lt y
  | .float (.infinity negative), _ => negative
  | _, .float (.infinity negative) => !negative
  | _, _ =>
    match unitsOf? a, unitsOf? b with
    | some m, some n => decide (m < n)
    | _, _ => false

mutual

/-- Whether two items of lists are the same. What is no number equals nothing, yet it is the same
    wherever it was read. -/
def isSame : Value → Value → Bool
  | .float .nan, .float .nan => true
  | .list xs, .list ys => areSame xs ys
  | .map xs, .map ys => xs.length == ys.length && areSameEntries xs ys
  | a, b => a.equals b

/-- Whether two lists have the same items. -/
def areSame : List Value → List Value → Bool
  | [], [] => true
  | x :: xs, y :: ys => isSame x y && areSame xs ys
  | _, _ => false

/-- Whether every entry of the first object is the same in the second. -/
def areSameEntries : List (Value × Value) → List (Value × Value) → Bool
  | [], _ => true
  | (key, value) :: rest, ys =>
    ys.any (fun entry => key.equals entry.1 && isSame value entry.2) && areSameEntries rest ys

end

mutual

/-- Whether one time is before another. Texts, numbers and lists are compared among themselves;
    any other two values have no order. -/
def before? : Value → Value → Option Bool
  | .list xs, .list ys => listBefore? xs ys
  | a, b =>
    match a.text?, b.text? with
    | some s, some t => some (decide (s < t))
    | _, _ => if isNumber a && isNumber b then some (isLess a b) else none

/-- Whether one list is before another: the first items that are not the same decide. -/
def listBefore? : List Value → List Value → Option Bool
  | _, [] => some false
  | [], _ :: _ => some true
  | x :: xs, y :: ys => if isSame x y then listBefore? xs ys else before? x y

end

/-- Whether one time is before another, if they have an order. -/
def isBefore (a b : Value) : Bool := (before? a b).getD false

theorem before?_str (s t : String) : before? (.str s) (.str t) = some (decide (s < t)) := by
  rw [before?]
  · rfl
  · exact nofun

/-- Texts are compared as such. -/
@[simp] theorem isBefore_str (s t : String) : isBefore (.str s) (.str t) = decide (s < t) := by
  unfold isBefore
  rw [before?_str, Option.getD_some]

/-- Whether all times can be compared with each other. -/
def areComparable (times : List Value) : Bool :=
  decide (times.Pairwise fun a b => (before? a b).isSome = true)

/-- Whether a list of times is one that any way of sorting puts in the same order: all of them can
    be compared, none of two is before the other both ways round, and what lies between two of them
    does not contradict their order. -/
structure AreOrdered (times : List Value) : Prop where
  comparable : areComparable times = true
  asymm : ∀ a ∈ times, ∀ b ∈ times, isBefore a b = true → isBefore b a = false
  between : ∀ a ∈ times, ∀ b ∈ times, ∀ c ∈ times,
    isBefore a b = false → isBefore b c = false → isBefore a c = false

/-- Entries with their times, the newest first. Those of equal times stay as they are. -/
def newestFirst (entries : List (Value × Value)) : List (Value × Value) :=
  entries.mergeSort fun a b => !isBefore a.1 b.1

/-! ### Sorting -/

/-- A way to put entries with their times in order. -/
class Sorting where
  sort : List (Value × Value) → Except Failure (List (Value × Value))
  /-- It loses nothing and adds nothing. -/
  perm : ∀ {entries sorted}, sort entries = .ok sorted → sorted.Perm entries
  /-- It fails only if two times cannot be compared. -/
  fails : ∀ {entries failure}, sort entries = .error failure →
    failure = .incomparableTimes ∧ areComparable (entries.map (·.1)) = false
  /-- It keeps entries of equal times in order. -/
  stable : ∀ {entries}, AreOrdered (entries.map (·.1)) → sort entries = .ok (newestFirst entries)

/-- Sorting by merging, which looks first whether all times can be compared. -/
instance Sorting.merging : Sorting where
  sort entries :=
    if areComparable (entries.map (·.1)) then .ok (newestFirst entries)
    else .error .incomparableTimes
  perm {entries sorted} h := by
    split at h
    · rw [← Except.ok.inj h]
      exact List.mergeSort_perm _ _
    · cases h
  fails {entries failure} h := by
    split at h
    · cases h
    · next hcomparable => exact ⟨(Except.error.inj h).symm, Bool.eq_false_iff.2 hcomparable⟩
  stable h := if_pos h.comparable

end LayerGraph.Log
