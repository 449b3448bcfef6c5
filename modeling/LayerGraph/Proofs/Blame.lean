import LayerGraph.Error
import LayerGraph.Proofs.Value.Showable

/-! # Who is to blame

    A computation is *fair* if, whenever it fails, it fails with an error that the submitted graph
    is to blame for. A defect of a template, a factory that makes no plugin, a value without a text
    and every other fault of the program itself are no such errors. Where some of these have to be
    expected, a computation is fair *up to* them. A sequence of steps that are fair up to some
    failures is fair up to the same failures.
-/

namespace LayerGraph

/-! ### Expected errors -/

/-- A computation that fails, if it does, with an expected error. -/
def FailsWith {ε α : Type} (expected : ε → Prop) (x : Except ε α) : Prop :=
  ∀ e, x = .error e → expected e

namespace FailsWith
variable {ε ε' α β : Type} {expected : ε → Prop}

theorem ok (a : α) : FailsWith expected (.ok a : Except ε α) := nofun

theorem error {e : ε} (h : expected e) : FailsWith expected (.error e : Except ε α) := by
  intro e' he
  obtain rfl := Except.error.inj he
  exact h

theorem of_exists {x : Except ε α} (h : ∃ a, x = .ok a) : FailsWith expected x := by
  obtain ⟨a, rfl⟩ := h
  exact ok a

theorem mono {weaker : ε → Prop} {x : Except ε α} (h : FailsWith expected x)
    (hle : ∀ e, expected e → weaker e) : FailsWith weaker x :=
  fun e he => hle e (h e he)

theorem bind {x : Except ε α} {f : α → Except ε β} (hx : FailsWith expected x)
    (hf : ∀ a, x = .ok a → FailsWith expected (f a)) : FailsWith expected (x >>= f) := by
  intro e he
  rcases Result.bind_eq_error.1 he with herror | ⟨a, ha, herror⟩
  · exact hx e herror
  · exact hf a ha e herror

theorem map {x : Except ε α} (hx : FailsWith expected x) (f : α → β) :
    FailsWith expected (f <$> x) :=
  fun e he => hx e (Result.map_eq_error.1 he)

/-- A walk fails with expected errors if each of its steps does. -/
theorem mapM {f : α → Except ε β} {xs : List α} (h : ∀ x ∈ xs, FailsWith expected (f x)) :
    FailsWith expected (xs.mapM f) := by
  intro e he
  obtain ⟨before, x, after, rfl, _, hx⟩ := Result.mapM_eq_error.1 he
  exact h x (List.mem_append_right before List.mem_cons_self) e hx

/-- Errors that are passed on as others are expected as those. -/
theorem mapError {expected' : ε' → Prop} {f : ε → ε'} {x : Except ε α}
    (h : FailsWith (fun e => expected' (f e)) x) : FailsWith expected' (x.mapError f) := by
  intro e he
  obtain ⟨cause, hcause, rfl⟩ := Result.mapError_eq_error.1 he
  exact h cause hcause

end FailsWith

/-! ### Fair computations -/

/-- Whether the submitted graph is to blame for a failure. -/
def Failure.isUser : Failure → Bool
  | .graph error => error.kind.isUser
  | _ => false

/-- The submitted graph is to blame for errors only. -/
theorem Failure.exists_of_isUser {failure : Failure} (h : failure.isUser = true) :
    ∃ error, failure = .graph error ∧ error.kind.isUser = true := by
  cases failure with
  | graph error => exact ⟨error, rfl, h⟩
  | _ => exact absurd h nofun

/-- A computation for whose failure the submitted graph is to blame. -/
def IsFair {α : Type} (x : Except Failure α) : Prop :=
  ∀ failure, x = .error failure → failure.isUser = true

/-- A fair computation has a result, or an error that the graph is to blame for. -/
theorem IsFair.cases {α : Type} {x : Except Failure α} (h : IsFair x) :
    (∃ a, x = .ok a) ∨ ∃ error, x = .error (.graph error) ∧ error.kind.isUser = true := by
  cases x with
  | ok a => exact Or.inl ⟨a, rfl⟩
  | error failure =>
    obtain ⟨error, rfl, huser⟩ := Failure.exists_of_isUser (h _ rfl)
    exact Or.inr ⟨error, rfl, huser⟩

section upTo
variable (others : Failure → Prop)

/-- A failure that the submitted graph is to blame for, or one of the others. -/
def Failure.IsExpected (failure : Failure) : Prop := failure.isUser = true ∨ others failure

/-- A computation that is fair except that it may fail with one of the others. -/
abbrev IsFairUpTo {α : Type} (x : Except Failure α) : Prop :=
  FailsWith (Failure.IsExpected others) x

/-- A step that fails, if it does, with an error of the graph that is expected. -/
abbrev RefusesUpTo {α : Type} (x : Except GraphError α) : Prop :=
  FailsWith (fun error => Failure.IsExpected others (.graph error)) x

/-- A text that is there, unless it is among the others that it is not. -/
abbrev IsWrittenUpTo {α : Type} (text : Except NoText α) : Prop :=
  FailsWith (fun cause => others (.noText cause)) text

/-- A value that can be shown, unless a value that is too long to be shown is among the others. -/
def Value.HasText (v : Value) : Prop :=
  ¬others (.noText .integerTooLong) → v.isShowable = true

end upTo

variable {others : Failure → Prop} {α β : Type}

/-- What is fair up to nothing is fair. -/
theorem IsFairUpTo.isFair {x : Except Failure α} (h : IsFairUpTo (fun _ => False) x) : IsFair x :=
  fun failure hfailure => (h failure hfailure).resolve_right id

theorem IsFairUpTo.refuse {error : GraphError} (h : error.kind.isUser = true) :
    IsFairUpTo others (refuse error : Except Failure α) :=
  FailsWith.error (Or.inl h)

/-- What goes on only if a condition does not hold, and refuses the graph otherwise. -/
theorem IsFairUpTo.guard {c : Prop} [Decidable c] {error : GraphError}
    {rest : Unit → Except Failure β} (herror : error.kind.isUser = true)
    (hrest : ¬c → IsFairUpTo others (rest ())) :
    IsFairUpTo others (if c then LayerGraph.refuse error >>= rest else rest ()) := by
  split
  · exact (IsFairUpTo.refuse herror).bind fun _ h => absurd h nofun
  · next hc => exact hrest hc

theorem RefusesUpTo.isFair {x : Except GraphError α} (h : RefusesUpTo others x) :
    IsFairUpTo others (x.mapError .graph) :=
  FailsWith.mapError h

theorem IsWrittenUpTo.isFair {text : Except NoText α} (h : IsWrittenUpTo others text) :
    IsFairUpTo others (orNoText text) :=
  FailsWith.mapError (h.mono fun _ hcause => Or.inr hcause)

/-! ### Texts of values -/

namespace Value

/-- A text that only a long integer keeps away is there, unless that is among the others. -/
theorem IsShown.isWritten {showable : Bool} {text : Except NoText α} (h : IsShown showable text)
    (hshowable : ¬others (.noText .integerTooLong) → showable = true) :
    IsWrittenUpTo others text := by
  intro cause hcause
  obtain rfl := h.eq_of_error hcause
  -- the text is missing, so it has to be expected
  refine Classical.byContradiction fun hnot => ?_
  obtain ⟨a, ha⟩ := h.exists_ok (hshowable hnot)
  cases ha.symm.trans hcause

variable {v : Value}

theorem HasText.isWritten_quoted (h : v.HasText others) : IsWrittenUpTo others v.quoted :=
  (isShown_quoted v).isWritten h

theorem HasText.isWritten_display (h : v.HasText others) : IsWrittenUpTo others v.display :=
  (isShown_display v).isWritten h

theorem HasText.isWritten_literal (h : v.HasText others) (hplain : v.IsPlain) :
    IsWrittenUpTo others v.literal :=
  (isShown_literal hplain).isWritten h

theorem HasText.of_isShowable (h : v.isShowable = true) : v.HasText others := fun _ => h

/-! What a value that has a text holds has a text. -/

section inside
variable {items : List Value} {entries : List (Value × Value)}

theorem HasText.of_mem_tuple (h : (tuple items).HasText others) : ∀ v ∈ items, v.HasText others :=
  fun v hv hnot => areShowable_iff.1 (h hnot) v hv

theorem HasText.of_mem_list (h : (list items).HasText others) : ∀ v ∈ items, v.HasText others :=
  fun v hv hnot => areShowable_iff.1 (h hnot) v hv

theorem HasText.of_mem_set (h : (set items).HasText others) : ∀ v ∈ items, v.HasText others :=
  fun v hv hnot => areShowable_iff.1 (h hnot) v hv

theorem HasText.of_mem_map (h : (map entries).HasText others) :
    ∀ entry ∈ entries, entry.1.HasText others ∧ entry.2.HasText others := by
  intro entry hentry
  have hboth := fun hnot => areShowableEntries_iff.1 (h hnot) entry hentry
  exact ⟨fun hnot => (hboth hnot).1, fun hnot => (hboth hnot).2⟩

end inside

/-- A mapping with string keys has a text if its values have. -/
theorem HasText.ofEntries {entries : Entries} (h : ∀ entry ∈ entries, entry.2.HasText others) :
    (Value.ofEntries entries).HasText others :=
  fun hnot => isShowable_ofEntries.2 fun entry hentry => h entry hentry hnot

end Value

end LayerGraph
