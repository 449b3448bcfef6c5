import LayerGraph.Json.Reader
import LayerGraph.Proofs.Number.Digits
import LayerGraph.Proofs.Value.Json

/-! # What is read from JSON

    Whatever the reader of JSON answers with is a JSON value (`isJson_of_read`): its keys are
    strings, and its integers are no longer than the digit limit.
-/

namespace LayerGraph.Json

open Number (digitsValue_lt isDigit)

/-! ### Numbers -/

theorem isDigit_of_wholePart {cs whole rest : List Char} (h : wholePart cs = some (whole, rest)) :
    ∀ d ∈ whole, isDigit d = true := by
  unfold wholePart at h
  split at h
  · obtain ⟨rfl, _⟩ := Prod.mk.inj (Option.some.inj h)
    exact List.forall_mem_singleton.2 (by decide)
  · dsimp only at h
    split at h
    · exact absurd h nofun
    · obtain ⟨rfl, _⟩ := Prod.mk.inj (Option.some.inj h)
      exact List.all_eq_true.1 List.all_takeWhile

theorem isJson_of_numberOf {negative : Bool} {whole : List Char} {fraction : Option (List Char)}
    {exponent : Option Int} {v : Value} (h : numberOf negative whole fraction exponent = .ok v)
    (hdigits : ∀ d ∈ whole, isDigit d = true) : v.isJson = true := by
  unfold numberOf at h
  split at h
  · split at h
    · exact absurd h nofun
    · next hlong =>
      -- the sign is not a digit, so it does not count for the limit
      rw [← Except.ok.inj h, Value.isJson]
      refine Value.isShort_of_lt ?_ (Nat.not_lt.1 hlong)
      split
      · rw [Int.natAbs_neg, Int.natAbs_natCast]
        exact digitsValue_lt hdigits
      · rw [Int.natAbs_natCast]
        exact digitsValue_lt hdigits
  · obtain rfl := Except.ok.inj h
    rfl

theorem isJson_of_readNumber {negative : Bool} {start cs rest : List Char} {v : Value}
    (h : readNumber negative start cs = .ok (v, rest)) : v.isJson = true := by
  unfold readNumber at h
  split at h
  · exact absurd h nofun
  · next whole afterWhole hwhole =>
    obtain ⟨w, hw, hpair⟩ := Result.map_eq_ok.1 h
    obtain ⟨rfl, _⟩ := Prod.mk.inj hpair
    exact isJson_of_numberOf hw (isDigit_of_wholePart hwhole)

/-! ### Values -/

theorem isJson_of_readWord {cs rest : List Char} {v : Value}
    (h : readWord cs = some (v, rest)) : v.isJson = true := by
  obtain ⟨word, hword, hfound⟩ := List.exists_of_findSome?_eq_some h
  split at hfound
  · obtain ⟨rfl, _⟩ := Prod.mk.inj (Option.some.inj hfound)
    have hall : (words.all fun word => word.2.isJson) = true := rfl
    exact List.all_eq_true.1 hall word hword
  · exact absurd hfound nofun

/-- The members of an object that is read behind others, if all those values are JSON. -/
def JsonMembers (members : Entries) : Prop := ∀ entry ∈ members, entry.2.isJson = true

section step
variable {fuel : Nat}
  (hvalue : ∀ {cs v rest}, readValue fuel cs = .ok (v, rest) → v.isJson = true)
  (hitems : ∀ {cs vs rest}, readItems fuel cs = .ok (vs, rest) → ∀ v ∈ vs, v.isJson = true)
  (hmembers : ∀ {cs known members rest}, readMembers fuel cs known = .ok (members, rest) →
    JsonMembers known → JsonMembers members)

include hitems hmembers in
/-- A value: a string, a list, an object, a word or a number. -/
theorem isJson_of_readValue_succ {cs rest : List Char} {v : Value}
    (h : readValue (fuel + 1) cs = .ok (v, rest)) : v.isJson = true := by
  unfold readValue at h
  split at h
  · next hzero => exact absurd hzero (Nat.succ_ne_zero fuel)
  · obtain ⟨⟨s, after⟩, _, h⟩ := Result.bind_eq_ok.1 h
    obtain ⟨rfl, _⟩ := Prod.mk.inj (Except.ok.inj h)
    rfl
  · next hsucc =>
    obtain rfl := Nat.succ.inj hsucc
    split at h
    · obtain ⟨rfl, _⟩ := Prod.mk.inj (Except.ok.inj h)
      rfl
    · obtain ⟨⟨vs, after⟩, hvs, h⟩ := Result.bind_eq_ok.1 h
      obtain ⟨rfl, _⟩ := Prod.mk.inj (Except.ok.inj h)
      exact Value.areJson_iff.2 (hitems hvs)
  · next hsucc =>
    obtain rfl := Nat.succ.inj hsucc
    split at h
    · obtain ⟨rfl, _⟩ := Prod.mk.inj (Except.ok.inj h)
      rfl
    · obtain ⟨⟨pairs, after⟩, hpairs, h⟩ := Result.bind_eq_ok.1 h
      obtain ⟨rfl, _⟩ := Prod.mk.inj (Except.ok.inj h)
      exact Value.isJson_ofEntries.2 (hmembers hpairs (by simp [JsonMembers]))
  · split at h
    · next hword => exact isJson_of_readWord (hword.trans (congrArg some (Except.ok.inj h)))
    · split at h <;> exact isJson_of_readNumber h

include hvalue hitems in
/-- The items of a list: the first one, and those behind its comma. -/
theorem isJson_of_readItems_succ {cs rest : List Char} {vs : List Value}
    (h : readItems (fuel + 1) cs = .ok (vs, rest)) : ∀ v ∈ vs, v.isJson = true := by
  rw [readItems_succ] at h
  obtain ⟨⟨first, after⟩, hfirst, h⟩ := Result.bind_eq_ok.1 h
  dsimp only at h
  split at h
  · obtain ⟨rfl, _⟩ := Prod.mk.inj (Except.ok.inj h)
    exact List.forall_mem_singleton.2 (hvalue hfirst)
  · obtain ⟨⟨others, after'⟩, hothers, h⟩ := Result.bind_eq_ok.1 h
    obtain ⟨rfl, _⟩ := Prod.mk.inj (Except.ok.inj h)
    exact List.forall_mem_cons.2 ⟨hvalue hfirst, hitems hothers⟩
  · exact absurd h nofun

include hvalue hmembers in
/-- The members of an object: one takes the place of an earlier one with the same key. -/
theorem isJson_of_readMembers_succ {cs rest : List Char} {known members : Entries}
    (h : readMembers (fuel + 1) cs known = .ok (members, rest)) (hknown : JsonMembers known) :
    JsonMembers members := by
  unfold readMembers at h
  split at h
  · next hzero => exact absurd hzero (Nat.succ_ne_zero fuel)
  · next hsucc =>
    obtain rfl := Nat.succ.inj hsucc
    obtain ⟨⟨key, afterKey⟩, _, h⟩ := Result.bind_eq_ok.1 h
    dsimp only at h
    split at h
    · obtain ⟨⟨value, afterValue⟩, hread, h⟩ := Result.bind_eq_ok.1 h
      have hset := @Entries.forall_mem_set (fun v => v.isJson = true) _ key _ hknown
        (hvalue hread)
      dsimp only at h
      split at h
      · obtain ⟨rfl, _⟩ := Prod.mk.inj (Except.ok.inj h)
        exact hset
      · exact hmembers h hset
      · exact absurd h nofun
    · exact absurd h nofun
  · exact absurd h nofun

end step

/-- Whatever is read at some depth is JSON: values, the items of a list, and the members of an
    object behind others that are. -/
theorem isJson_of_readValue (fuel : Nat) :
    (∀ {cs v rest}, readValue fuel cs = .ok (v, rest) → v.isJson = true) ∧
    (∀ {cs vs rest}, readItems fuel cs = .ok (vs, rest) → ∀ v ∈ vs, v.isJson = true) ∧
    (∀ {cs known members rest}, readMembers fuel cs known = .ok (members, rest) →
      JsonMembers known → JsonMembers members) := by
  induction fuel with
  | zero => exact ⟨fun h => absurd h nofun, fun h => absurd h nofun, fun h => absurd h nofun⟩
  | succ fuel ih =>
    obtain ⟨hvalue, hitems, hmembers⟩ := ih
    exact ⟨isJson_of_readValue_succ hitems hmembers, isJson_of_readItems_succ hvalue hitems,
      isJson_of_readMembers_succ hvalue hmembers⟩

/-- What is read from a text is a JSON value. -/
theorem isJson_of_read {text : List Char} {v : Value} (h : read text = .ok v) :
    v.isJson = true := by
  unfold read at h
  split at h
  · exact absurd h nofun
  · obtain ⟨⟨w, rest⟩, hw, h⟩ := Result.bind_eq_ok.1 h
    dsimp only at h
    split at h
    · obtain rfl := Except.ok.inj h
      exact (isJson_of_readValue _).1 hw
    · exact absurd h nofun

end LayerGraph.Json
