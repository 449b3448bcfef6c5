import Mathlib

/-! # Results

    What a computation that may fail answers, in terms of its steps. A sequence succeeds exactly if
    every step does, and fails with the first error on the way. The main statement is about lists: a
    walk over a list fails with the error of the first item that fails (`mapM_eq_error`).
-/

namespace LayerGraph.Result

section steps
variable {ε ε' α β : Type}

theorem bind_eq_ok {x : Except ε α} {f : α → Except ε β} {b : β} :
    x >>= f = .ok b ↔ ∃ a, x = .ok a ∧ f a = .ok b := by
  cases x with
  | error e => simp [Bind.bind, Except.bind]
  | ok a => simp [Bind.bind, Except.bind]

theorem bind_eq_error {x : Except ε α} {f : α → Except ε β} {e : ε} :
    x >>= f = .error e ↔ x = .error e ∨ ∃ a, x = .ok a ∧ f a = .error e := by
  cases x with
  | error e' => simp [Bind.bind, Except.bind]
  | ok a => simp [Bind.bind, Except.bind]

theorem map_eq_ok {x : Except ε α} {f : α → β} {b : β} :
    f <$> x = .ok b ↔ ∃ a, x = .ok a ∧ f a = b := by
  cases x with
  | error e => simp [Functor.map, Except.map]
  | ok a => simp [Functor.map, Except.map]

theorem map_eq_error {x : Except ε α} {f : α → β} {e : ε} :
    f <$> x = .error e ↔ x = .error e := by
  cases x with
  | error e' => simp [Functor.map, Except.map]
  | ok a => simp [Functor.map, Except.map]

theorem eq_ok_of_toOption {x : Except ε α} {a : α} (h : x.toOption = some a) : x = .ok a := by
  cases x with
  | error e => exact absurd h nofun
  | ok a' => exact congrArg Except.ok (Option.some.inj h)

theorem mapError_eq_ok {x : Except ε α} {f : ε → ε'} {a : α} :
    x.mapError f = .ok a ↔ x = .ok a := by
  cases x with
  | error e => simp [Except.mapError]
  | ok a' => simp [Except.mapError]

theorem mapError_eq_error {x : Except ε α} {f : ε → ε'} {e : ε'} :
    x.mapError f = .error e ↔ ∃ e', x = .error e' ∧ f e' = e := by
  cases x with
  | error e' => simp [Except.mapError]
  | ok a => simp [Except.mapError]

/-- What goes on only if a condition does not hold, which is an error of its own. -/
theorem unless_eq_ok {c : Prop} [Decidable c] {e : ε} {rest : Unit → Except ε β} {b : β} :
    (if c then Except.error e >>= rest else rest ()) = .ok b ↔ ¬c ∧ rest () = .ok b := by
  by_cases hc : c
  · simp [hc, Bind.bind, Except.bind]
  · simp [hc]

end steps

/-! ### Walks over lists -/

section walks
variable {ε α β : Type} {f : α → Except ε β}

theorem mapM_cons_eq_ok {x : α} {xs : List α} {ys : List β} :
    (x :: xs).mapM f = .ok ys ↔
      ∃ y rest, f x = .ok y ∧ xs.mapM f = .ok rest ∧ ys = y :: rest := by
  rw [List.mapM_cons, bind_eq_ok]
  constructor
  · rintro ⟨y, hy, hrest⟩
    obtain ⟨rest, hrest, hys⟩ := bind_eq_ok.1 hrest
    exact ⟨y, rest, hy, hrest, (Except.ok.inj hys).symm⟩
  · rintro ⟨y, rest, hy, hrest, rfl⟩
    exact ⟨y, hy, bind_eq_ok.2 ⟨rest, hrest, rfl⟩⟩

/-- A walk succeeds exactly if every item does. -/
theorem mapM_isOk_iff {xs : List α} :
    (∃ ys, xs.mapM f = .ok ys) ↔ ∀ x ∈ xs, ∃ y, f x = .ok y := by
  induction xs with
  | nil => simp [Pure.pure, Except.pure]
  | cons x xs ih =>
    rw [List.forall_mem_cons, ← ih]
    constructor
    · rintro ⟨ys, hys⟩
      obtain ⟨y, rest, hy, hrest, _⟩ := mapM_cons_eq_ok.1 hys
      exact ⟨⟨y, hy⟩, ⟨rest, hrest⟩⟩
    · rintro ⟨⟨y, hy⟩, ⟨rest, hrest⟩⟩
      exact ⟨y :: rest, mapM_cons_eq_ok.2 ⟨y, rest, hy, hrest, rfl⟩⟩

/-- What is done to the answer of every step may be done to all answers in the end. -/
theorem mapM_map_eq_ok {γ : Type} {g : β → γ} {xs : List α} {zs : List γ} :
    (xs.mapM fun x => g <$> f x) = .ok zs ↔ ∃ ys, xs.mapM f = .ok ys ∧ zs = ys.map g := by
  induction xs generalizing zs with
  | nil => simp [Pure.pure, Except.pure, eq_comm]
  | cons x xs ih =>
    simp only [mapM_cons_eq_ok, ih, map_eq_ok]
    constructor
    · rintro ⟨z, rest, ⟨y, hy, rfl⟩, ⟨ys, hys, rfl⟩, rfl⟩
      exact ⟨y :: ys, ⟨y, ys, hy, hys, rfl⟩, rfl⟩
    · rintro ⟨_, ⟨y, ys, hy, hys, rfl⟩, rfl⟩
      exact ⟨g y, ys.map g, ⟨y, hy, rfl⟩, ⟨ys, hys, rfl⟩, rfl⟩

/-- A walk whose steps all succeed gives their answers. -/
theorem mapM_eq_ok_map {xs : List α} {g : α → β} (h : ∀ x ∈ xs, f x = .ok (g x)) :
    xs.mapM f = .ok (xs.map g) := by
  induction xs with
  | nil => rfl
  | cons x xs ih =>
    obtain ⟨hx, hxs⟩ := List.forall_mem_cons.1 h
    exact mapM_cons_eq_ok.2 ⟨g x, xs.map g, hx, ih hxs, rfl⟩

/-- A walk over a list answers item by item. -/
theorem mapM_eq_ok_iff_forall₂ {xs : List α} {ys : List β} :
    xs.mapM f = .ok ys ↔ List.Forall₂ (fun x y => f x = .ok y) xs ys := by
  induction xs generalizing ys with
  | nil => simp [Pure.pure, Except.pure, eq_comm]
  | cons x xs ih =>
    rw [mapM_cons_eq_ok, List.forall₂_cons_left_iff]
    simp only [ih]

/-- What a walk gives are the answers of its steps. -/
theorem mem_of_mapM {xs : List α} {ys : List β} (h : xs.mapM f = .ok ys) {y : β} :
    y ∈ ys ↔ ∃ x ∈ xs, f x = .ok y := by
  induction xs generalizing ys with
  | nil =>
    obtain rfl := Except.ok.inj h
    simp
  | cons x xs ih =>
    obtain ⟨first, rest, hfirst, hrest, rfl⟩ := mapM_cons_eq_ok.1 h
    rw [List.mem_cons, ih hrest, List.exists_mem_cons_iff, hfirst, Except.ok.injEq, eq_comm]

/-- What every answer of a step has, every result of a walk has. -/
theorem forall_mem_of_mapM {P : β → Prop} {xs : List α} {ys : List β} (h : xs.mapM f = .ok ys)
    (hstep : ∀ x ∈ xs, ∀ y, f x = .ok y → P y) : ∀ y ∈ ys, P y := by
  intro y hy
  obtain ⟨x, hx, hanswer⟩ := (mem_of_mapM h).1 hy
  exact hstep x hx y hanswer

/-- A walk over two lists gives the results of the first, then those of the second. -/
theorem mapM_append_eq_ok {xs ys : List α} {zs : List β} :
    (xs ++ ys).mapM f = .ok zs ↔
      ∃ as bs, xs.mapM f = .ok as ∧ ys.mapM f = .ok bs ∧ zs = as ++ bs := by
  rw [List.mapM_append, bind_eq_ok]
  constructor
  · rintro ⟨as, has, hrest⟩
    obtain ⟨bs, hbs, hzs⟩ := bind_eq_ok.1 hrest
    exact ⟨as, bs, has, hbs, (Except.ok.inj hzs).symm⟩
  · rintro ⟨as, bs, has, hbs, rfl⟩
    exact ⟨as, has, bind_eq_ok.2 ⟨bs, hbs, rfl⟩⟩

theorem mapM_append_eq_error {xs ys : List α} {e : ε} :
    (xs ++ ys).mapM f = .error e ↔
      xs.mapM f = .error e ∨ ∃ as, xs.mapM f = .ok as ∧ ys.mapM f = .error e := by
  rw [List.mapM_append, bind_eq_error]
  apply or_congr Iff.rfl
  constructor
  · rintro ⟨as, has, hrest⟩
    rcases bind_eq_error.1 hrest with hys | ⟨bs, _, hpure⟩
    · exact ⟨as, has, hys⟩
    · exact absurd hpure nofun
  · rintro ⟨as, has, hys⟩
    exact ⟨as, has, bind_eq_error.2 (Or.inl hys)⟩

/-- A walk fails with the error of the first item that fails. -/
theorem mapM_eq_error {xs : List α} {e : ε} :
    xs.mapM f = .error e ↔
      ∃ before x after, xs = before ++ x :: after ∧
        (∀ y ∈ before, ∃ b, f y = .ok b) ∧ f x = .error e := by
  constructor
  · induction xs with
    | nil => exact fun h => absurd h nofun
    | cons x xs ih =>
      -- either the first item fails, or it does not and one behind it does
      rw [List.mapM_cons, bind_eq_error]
      rintro (hx | ⟨y, hy, hrest⟩)
      · exact ⟨[], x, xs, rfl, nofun, hx⟩
      · rcases bind_eq_error.1 hrest with hxs | ⟨_, _, hpure⟩
        · obtain ⟨before, z, after, rfl, hbefore, hz⟩ := ih hxs
          exact ⟨x :: before, z, after, rfl, List.forall_mem_cons.2 ⟨⟨y, hy⟩, hbefore⟩, hz⟩
        · exact absurd hpure nofun
  · rintro ⟨before, x, after, rfl, hbefore, hx⟩
    obtain ⟨bs, hbs⟩ := mapM_isOk_iff.2 hbefore
    rw [mapM_append_eq_error]
    refine Or.inr ⟨bs, hbs, ?_⟩
    rw [List.mapM_cons, hx]
    rfl

end walks

end LayerGraph.Result
