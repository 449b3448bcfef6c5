import LayerGraph.Call
import LayerGraph.Proofs.Value.Exact
import Mathlib.Data.List.Forall2

/-! # Argument lists

    An argument list holds every required argument in order, and then every optional one that does
    not have the value that it has anyway (`arguments_written`). How that is decided is told without
    the comparison that decides it: an argument is left out if it is exactly equal to its default
    once everything inside mappings and sets is blurred (`not_isSuppressed`). So of arguments
    without mappings exactly those are left out that are exactly equal to their defaults
    (`isTelling_eq_exactly`), while of mappings more are left out (`arguments_oneInside`).
-/

namespace LayerGraph

/-! ### Data -/

namespace Value

/-- A value that is written in code: scalars, of which the numbers are finite, raw expressions, and
    sequences and mappings of such. -/
inductive IsData : Value → Prop where
  | null : IsData .null
  | bool (b : Bool) : IsData (.bool b)
  | int (n : Int) : IsData (.int n)
  | float (negative : Bool) (magnitude : Number.Magnitude) :
    IsData (.float (.finite negative magnitude))
  | str (s : String) : IsData (.str s)
  | expr (source : String) : IsData (.expr source)
  | tuple {items : List Value} (h : ∀ v ∈ items, IsData v) : IsData (.tuple items)
  | list {items : List Value} (h : ∀ v ∈ items, IsData v) : IsData (.list items)
  | map {entries : List (Value × Value)} (hkeys : ∀ entry ∈ entries, IsData entry.1)
    (hvalues : ∀ entry ∈ entries, IsData entry.2) : IsData (.map entries)

/-- Data has a literal if it is showable, and else holds an integer that is too long. -/
theorem IsData.isShown_literal {v : Value} (h : v.IsData) : IsShown v.isShowable v.literal := by
  suffices hlayout : IsShown v.isShowable (layout ⟨literalLeaf, false⟩ v) from
    hlayout.map String.ofList
  induction h with
  | int n =>
    simp only [isShowable, layout, literalLeaf]
    exact isShown_integerText n
  | tuple _ ih =>
    rw [isShowable, layout]
    exact (isShown_layoutAll ih).map tupleText
  | list _ ih =>
    rw [isShowable, layout]
    exact (isShown_layoutAll ih).map listText
  | map _ _ ihkeys ihvalues =>
    rw [isShowable, layout]
    refine (isShown_layoutEntries fun entry hentry => ?_).map mapText
    exact ⟨ihkeys entry hentry, ihvalues entry hentry⟩
  | _ => exact IsShown.ok _

/-- A walk over a list is shown if every step is. -/
theorem isShown_mapM {α β : Type} {f : α → Except NoText β} {showable : α → Bool} {xs : List α}
    (h : ∀ x ∈ xs, IsShown (showable x) (f x)) : IsShown (xs.all showable) (xs.mapM f) := by
  induction xs with
  | nil => exact IsShown.ok []
  | cons x xs ih =>
    obtain ⟨hx, hxs⟩ := List.forall_mem_cons.1 h
    rw [List.all_cons, List.mapM_cons]
    exact hx.bind fun first => (ih hxs).map (first :: ·)

end Value

namespace Call

/-! ### What is left out -/

/-- Whether an optional argument is to be written: it has no default and is not null, or it is not
    exactly equal to its default where what stands inside mappings and sets is blurred. -/
def isTelling (defaults : Entries) (argument : String × Value) : Bool :=
  match defaults.get? argument.1 with
  | some standard => !argument.2.blurredInside.exactly standard.blurredInside
  | none => !argument.2.exactly .null

theorem not_isSuppressed (defaults : Entries) (argument : String × Value) :
    (!isSuppressed defaults argument) = isTelling defaults argument := by
  unfold isSuppressed isTelling
  cases defaults.get? argument.1 with
  | some standard => simp only [Value.same_eq_exactly]
  | none => cases argument.2 <;> simp [Value.exactly]

section default
variable {defaults : Entries} {argument : String × Value} {standard : Value}
  (hdefault : defaults.get? argument.1 = some standard)
include hdefault

/-- What is exactly equal to its default is left out, also if it is a mapping. -/
theorem isTelling_of_exactly (hexact : argument.2.exactly standard = true) :
    isTelling defaults argument = false := by
  rw [← not_isSuppressed, isSuppressed, hdefault]
  simp only [Value.same_of_exactly hexact, Bool.not_true]

/-- An argument without mappings is written exactly if it is not exactly equal to its default. -/
theorem isTelling_eq_exactly (hvalue : argument.2.isSequential = true)
    (hstandard : standard.isSequential = true) :
    isTelling defaults argument = !argument.2.exactly standard := by
  rw [← not_isSuppressed, isSuppressed, hdefault]
  simp only [Value.same_eq_exactly_of_isSequential hvalue hstandard]

end default

/-! ### What is written -/

/-- An argument is written as its literal, behind its name unless it stands by position. -/
def IsWrittenAs (positional : Bool) (argument : String × Value) (text : String) : Prop :=
  ∃ literal, argument.2.literal = .ok literal ∧
    text = if positional then literal else argument.1 ++ "=" ++ literal

theorem requiredArgument_eq_ok_iff {positional : Bool} {argument : String × Value}
    {text : String} :
    requiredArgument positional argument = .ok text ↔ IsWrittenAs positional argument text := by
  unfold requiredArgument IsWrittenAs
  rw [Result.bind_eq_ok]
  simp only [Pure.pure, Except.pure, Except.ok.injEq, eq_comm]

theorem isShown_requiredArgument (positional : Bool) {argument : String × Value}
    (h : argument.2.IsData) :
    Value.IsShown argument.2.isShowable (requiredArgument positional argument) :=
  h.isShown_literal.map fun literal =>
    if positional then literal else argument.1 ++ "=" ++ literal

/-- An argument list holds every required argument in order, and then every optional one that is
    to be written; it is there unless an integer in what it holds is too long. An optional argument
    that is exactly equal to its default is never written, and one that is not is left out only for
    what stands inside mappings and sets. -/
theorem arguments_written {required optional : Entries} (defaults : Entries) (positional : Bool)
    (hrequired : ∀ a ∈ required, a.2.IsData) (hoptional : ∀ a ∈ optional, a.2.IsData) :
    let told := optional.filter (isTelling defaults)
    Value.IsShown (required.all (·.2.isShowable) && told.all (·.2.isShowable))
        (arguments required optional defaults positional) ∧
      (∀ text, arguments required optional defaults positional = .ok text ↔
        ∃ firsts seconds, List.Forall₂ (IsWrittenAs positional) required firsts ∧
          List.Forall₂ (IsWrittenAs false) told seconds ∧
          text = ", ".intercalate (firsts ++ seconds)) ∧
      ∀ a ∈ optional, ∀ standard, defaults.get? a.1 = some standard →
        (a.2.exactly standard = true → a ∉ told) ∧
        (a.2.isSequential = true → standard.isSequential = true →
          a.2.exactly standard = false → a ∈ told) := by
  intro told
  have htold : optional.filter (!isSuppressed defaults ·) = told :=
    List.filter_congr fun a _ => not_isSuppressed defaults a
  refine ⟨?_, fun text => ?_, fun a ha standard hdefault => ⟨fun hexact => ?_, ?_⟩⟩
  · -- two rows of arguments, each shown as far as its own values can be
    have hkept : ∀ a ∈ told, a.2.IsData := fun a ha => hoptional a (List.mem_filter.1 ha).1
    have hfirst := Value.isShown_mapM fun a ha =>
      isShown_requiredArgument positional (hrequired a ha)
    have hsecond := Value.isShown_mapM fun a ha =>
      isShown_requiredArgument false (hkept a ha)
    rw [arguments, htold]
    exact hfirst.bind fun firsts => hsecond.map fun seconds => ", ".intercalate (firsts ++ seconds)
  · simp only [arguments, htold, Result.bind_eq_ok, Result.mapM_eq_ok_iff_forall₂,
      requiredArgument_eq_ok_iff]
    constructor
    · rintro ⟨firsts, hfirsts, seconds, hseconds, htext⟩
      exact ⟨firsts, seconds, hfirsts, hseconds, (Except.ok.inj htext).symm⟩
    · rintro ⟨firsts, seconds, hfirsts, hseconds, rfl⟩
      exact ⟨firsts, hfirsts, seconds, hseconds, rfl⟩
  · have hsilent := isTelling_of_exactly hdefault hexact
    simp [told, hsilent]
  · intro hvalue hstandard hdiffers
    refine List.mem_filter.2 ⟨ha, ?_⟩
    rw [isTelling_eq_exactly hdefault hvalue hstandard, hdiffers, Bool.not_false]

/-- A mapping that holds a number. -/
def oneInside : Value := .map [(.str "a", .int 1)]

/-- A mapping that holds a truth value in its place. -/
def trueInside : Value := .map [(.str "a", .bool true)]

/-- Inside a mapping a number counts as a truth value, so an argument that is not exactly equal to
    its default is left out. -/
theorem arguments_oneInside :
    oneInside.exactly trueInside = false ∧
      arguments [] [("options", oneInside)] [("options", trueInside)] true = .ok "" := by
  decide +kernel

/-- Beside such a mapping: a tuple with a truth value, and null. -/
def besideOne : Entries :=
  [("options", oneInside), ("betas", .tuple [.int 1, .bool true]), ("weight", .null)]

/-- Their defaults: a tuple with a number, and none for null. -/
def besideTrue : Entries := [("options", trueInside), ("betas", .tuple [.int 1, .int 1])]

/-- Of these only the tuple is written. -/
theorem arguments_written_besideOne :
    arguments [("lr", .int 3)] besideOne besideTrue true = .ok "3, betas=(1, True)" ∧
      ∃ firsts seconds, List.Forall₂ (IsWrittenAs true) [("lr", .int 3)] firsts ∧
        List.Forall₂ (IsWrittenAs false) (besideOne.filter (isTelling besideTrue)) seconds ∧
        "3, betas=(1, True)" = ", ".intercalate (firsts ++ seconds) := by
  have hcode : arguments [("lr", .int 3)] besideOne besideTrue true = .ok "3, betas=(1, True)" := by
    decide +kernel
  have hrequired : ∀ a ∈ [("lr", Value.int 3)], a.2.IsData := by
    simp only [List.forall_mem_singleton]
    exact .int 3
  have hoptional : ∀ a ∈ besideOne, a.2.IsData := by
    simp only [besideOne, oneInside, List.forall_mem_cons]
    refine ⟨.map ?_ ?_, .tuple ?_, .null, nofun⟩
    · exact List.forall_mem_singleton.2 (.str "a")
    · exact List.forall_mem_singleton.2 (.int 1)
    · exact List.forall_mem_cons.2 ⟨.int 1, List.forall_mem_singleton.2 (.bool true)⟩
  exact ⟨hcode, ((arguments_written besideTrue true hrequired hoptional).2.1 _).1 hcode⟩

end Call

end LayerGraph
