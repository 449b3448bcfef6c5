import LayerGraph.Node.Catalog
import Mathlib

/-! # The history of a registry

    A registry is registered with, removed from, and asked. Each *action* leaves an *event* in the
    history: a factory was accepted under a key, a key was removed, or nothing happened that bears
    on who holds a key. The holder of a key is a function of the history alone: it is the factory
    that was accepted first since the key was last removed (`holder?`). A registry *agrees* with its
    history if it finds these holders, and if its entries are the registrations that count, in the
    order in which they were made (`Agrees`). Each action keeps it in agreement (`Agrees.after`), so
    any run of actions does (`Agrees.run`), from the built-in types on (`agrees_of_use`).
-/

namespace LayerGraph.Registry

/-! ### Actions -/

/-- What can be done with a registry. -/
inductive Action where
  | register (factory : Factory) (asked : String)
  | unregister (type : String)
  | find (type : String)
  | resolve (type : Value)

/-- Whether an action removes a key. -/
def Action.removes (key : String) : Action → Bool
  | .unregister type => Text.lower type == key
  | _ => false

/-- The registry after an action. A registration that is refused leaves it as it is. -/
def after (registry : Registry) : Action → Registry
  | .register factory asked =>
    match registry.register factory asked with
    | .ok next => next
    | .error _ => registry
  | .unregister type => registry.unregister type
  | .find _ | .resolve _ => registry

/-- The registry after actions, one by one. -/
def run (registry : Registry) (actions : List Action) : Registry := actions.foldl after registry

theorem run_append (registry : Registry) (actions more : List Action) :
    run registry (actions ++ more) = run (run registry actions) more :=
  List.foldl_append

/-! ### Events -/

/-- What an action did. -/
inductive Event where
  /-- A factory was accepted under a key, perhaps once more. -/
  | accepted (key : String) (factory : Factory)
  | removed (key : String)
  /-- A registration was refused, or the registry was only asked. -/
  | nothing

namespace Event

/-- Whether an event removes a key. -/
def removes (key : String) : Event → Bool
  | .removed other => other == key
  | _ => false

/-- The factory that an event accepts under a key. -/
def accepts? (key : String) : Event → Option Factory
  | .accepted other factory => if other = key then some factory else none
  | _ => none

end Event

/-- The event of an action on a registry. -/
def event (registry : Registry) : Action → Event
  | .register factory asked =>
    match registry.register factory asked with
    | .ok _ => .accepted (Text.lower (keyFor factory asked)) factory
    | .error _ => .nothing
  | .unregister type => .removed (Text.lower type)
  | .find _ | .resolve _ => .nothing

/-- The events of actions, in order. -/
def history (registry : Registry) : List Action → List Event
  | [] => []
  | action :: rest => event registry action :: history (after registry action) rest

/-! ### Holders -/

/-- The factory that holds a key after events, with the number of the event that made it the
    holder: the first acceptance since the key was last removed. -/
def holder? (key : String) (events : List Event) : Option (Factory × Nat) :=
  let since := (events.zipIdx.reverse.takeWhile fun entry => !entry.1.removes key).reverse
  since.findSome? fun entry => (entry.1.accepts? key).map (·, entry.2)

/-- One more event: a removal leaves no holder, and an acceptance makes one if there is none. -/
theorem holder?_concat (key : String) (events : List Event) (e : Event) :
    holder? key (events ++ [e]) =
      if e.removes key then none
      else (holder? key events).or ((e.accepts? key).map (·, events.length)) := by
  unfold holder?
  rw [List.zipIdx_append, List.zipIdx_singleton, List.reverse_append, List.reverse_singleton,
    List.singleton_append, List.takeWhile_cons]
  cases hremoves : e.removes key with
  | true => simp
  | false =>
    simp only [Bool.not_false, if_true, Bool.false_eq_true, if_false, List.reverse_cons]
    rw [List.findSome?_append]
    simp

/-- The event that made a factory the holder of a key lies in the past. -/
theorem lt_length_of_holder? {key : String} {events : List Event} {factory : Factory} {n : Nat}
    (h : holder? key events = some (factory, n)) : n < events.length := by
  obtain ⟨entry, hmem, hentry⟩ := List.exists_of_findSome?_eq_some h
  obtain ⟨_, _, hpair⟩ := Option.map_eq_some_iff.1 hentry
  obtain ⟨_, rfl⟩ := Prod.mk.inj hpair
  have hmem' := List.takeWhile_subset _ (List.mem_reverse.1 hmem)
  obtain ⟨_, hlt, _⟩ := List.mem_zipIdx (List.mem_reverse.1 hmem')
  omega

/-! ### Standing entries -/

/-- The entry that an event with its number stands for, if it is the one that made the holder of
    its key. -/
def standingOf? (events : List Event) (numbered : Event × Nat) : Option (String × Factory) :=
  match numbered.1 with
  | .accepted key factory =>
    if (holder? key events).map (·.2) = some numbered.2 then some (key, factory) else none
  | _ => none

/-- The registrations that count after events, in the order in which they were made. -/
def standing (events : List Event) : List (String × Factory) :=
  events.zipIdx.filterMap (standingOf? events)

/-- One more event takes the entry under the key that it removes, and no other. -/
theorem standingOf?_concat {events : List Event} {numbered : Event × Nat}
    (h : numbered.2 < events.length) (e : Event) :
    standingOf? (events ++ [e]) numbered =
      (standingOf? events numbered).filter fun entry => !e.removes entry.1 := by
  obtain ⟨event, n⟩ := numbered
  cases event with
  | removed | nothing => rfl
  | accepted key factory =>
    simp only [standingOf?]
    rw [holder?_concat]
    cases hremoves : e.removes key with
    | true =>
      -- whether or not the entry counted before, its key has no holder now
      simp only [if_true, Option.map_none, reduceCtorEq, if_false]
      split
      · rw [Option.filter_some, hremoves]
        rfl
      · rfl
    | false =>
      simp only [Bool.false_eq_true, if_false]
      cases hholder : holder? key events with
      | some holder =>
        rw [Option.some_or]
        split
        · rw [Option.filter_some, hremoves]
          rfl
        · rfl
      | none =>
        -- the new event may make a holder, but its number is greater
        have hne : ∀ made, (e.accepts? key).map (·, events.length) = some made → made.2 ≠ n := by
          intro made hmade
          obtain ⟨_, _, rfl⟩ := Option.map_eq_some_iff.1 hmade
          exact Nat.ne_of_gt h
        rw [Option.none_or]
        cases hmade : (e.accepts? key).map (·, events.length) with
        | none => rfl
        | some made => simp [hne made hmade]

theorem standing_concat (events : List Event) (e : Event) :
    standing (events ++ [e]) =
      (standing events).filter (fun entry => !e.removes entry.1) ++
        (standingOf? (events ++ [e]) (e, events.length)).toList := by
  have hearlier : ∀ numbered ∈ events.zipIdx, standingOf? (events ++ [e]) numbered =
      (standingOf? events numbered).filter fun entry => !e.removes entry.1 := by
    intro numbered hmem
    obtain ⟨_, hlt, _⟩ := List.mem_zipIdx hmem
    exact standingOf?_concat (by omega) e
  unfold standing
  rw [List.zipIdx_append, List.zipIdx_singleton, List.filterMap_append, List.filter_filterMap,
    List.filterMap_congr hearlier, Nat.zero_add]
  cases hlast : standingOf? (events ++ [e]) (e, events.length) <;>
    simp [hlast]

/-- An acceptance counts if its key had no holder. -/
theorem standingOf?_accepted (events : List Event) (key : String) (factory : Factory) :
    standingOf? (events ++ [.accepted key factory]) (.accepted key factory, events.length) =
      if holder? key events = none then some (key, factory) else none := by
  simp only [standingOf?]
  rw [holder?_concat]
  cases hholder : holder? key events with
  | none => simp [Event.removes, Event.accepts?]
  | some holder =>
    have hlt : holder.2 < events.length := lt_length_of_holder? hholder
    simp [Event.removes, Nat.ne_of_lt hlt]

/-! ### One step -/

/-- What a registration can do: it is refused without a key or for another holder, it changes
    nothing for the same holder, and it adds an entry at the end if there is no holder. -/
theorem register_cases (registry : Registry) (factory : Factory) (asked : String) :
    (registry.register factory asked = .error .registration ∧
      (keyFor factory asked = "" ∨ ∃ holder,
        registry.find? (keyFor factory asked) = some holder ∧ holder.id ≠ factory.id)) ∨
    (registry.register factory asked = .ok registry ∧ keyFor factory asked ≠ "" ∧ ∃ holder,
      registry.find? (keyFor factory asked) = some holder ∧ holder.id = factory.id) ∨
    (registry.register factory asked =
        .ok (registry ++ [(Text.lower (keyFor factory asked), factory)]) ∧
      keyFor factory asked ≠ "" ∧ registry.find? (keyFor factory asked) = none) := by
  unfold register
  by_cases hkey : keyFor factory asked = ""
  · exact Or.inl ⟨by simp [hkey], Or.inl hkey⟩
  · have hfilled : (keyFor factory asked).isEmpty = false := by simpa using hkey
    cases hfind : registry.find? (keyFor factory asked) with
    | none => exact Or.inr (Or.inr ⟨by simp [hfilled, hfind], hkey, rfl⟩)
    | some holder =>
      by_cases hsame : holder.id = factory.id
      · exact Or.inr (Or.inl ⟨by simp [hfilled, hfind, hsame], hkey, holder, rfl, hsame⟩)
      · exact Or.inl ⟨by simp [hfilled, hfind, hsame], Or.inr ⟨holder, rfl, hsame⟩⟩

/-- The entries after an action: those whose key it does not remove, and behind them the factory
    that is accepted under a key without a holder. -/
theorem after_eq (registry : Registry) (action : Action) :
    registry.after action =
      registry.filter (fun entry => !(event registry action).removes entry.1) ++
        match event registry action with
        | .accepted key factory => if registry.lookup key = none then [(key, factory)] else []
        | _ => [] := by
  have hall : ∀ table : Registry, table.filter (fun _ => !false) = table := by simp
  cases action with
  | find | resolve => simp [after, event, Event.removes]
  | unregister removed =>
    simp only [after, event, Event.removes, unregister, List.append_nil]
    congr 1
    funext entry
    rw [Bool.beq_comm]
  | register factory asked =>
    rw [after, event]
    rcases register_cases registry factory asked with
      ⟨hresult, _⟩ | ⟨hresult, _, holder, hholder, _⟩ | ⟨hresult, _, hnone⟩
    · simp [hresult, Event.removes]
    · have hheld : registry.lookup (Text.lower (keyFor factory asked)) ≠ none := by
        intro hnone
        rw [find?, hnone] at hholder
        cases hholder
      simp [hresult, Event.removes, hheld]
    · have hfree : registry.lookup (Text.lower (keyFor factory asked)) = none := hnone
      simp [hresult, Event.removes, hfree]

/-- Entries that are removed by their keys are found no more, and the others still are. -/
theorem lookup_filter_key (registry : Registry) (gone : String → Bool) (key : String) :
    (registry.filter fun entry => !gone entry.1).lookup key =
      if gone key then none else registry.lookup key := by
  induction registry with
  | nil => simp
  | cons entry rest ih =>
    obtain ⟨held, factory⟩ := entry
    rw [List.filter_cons]
    by_cases hkey : key = held
    · subst hkey
      cases hgone : gone key <;> simp [hgone, ih]
    · have hne : (key == held) = false := beq_false_of_ne hkey
      cases hgone : gone held <;> simp [List.lookup_cons, hne, ih]

/-- Who is found under a key after an action is told by its event: nobody if it removes the key,
    and else the holder so far, or the factory that is accepted if there is none. -/
theorem lookup_after (registry : Registry) (action : Action) (key : String) :
    (registry.after action).lookup key =
      if (event registry action).removes key then none
      else (registry.lookup key).or ((event registry action).accepts? key) := by
  rw [after_eq, List.lookup_append,
    lookup_filter_key registry fun held => (event registry action).removes held]
  cases hevent : event registry action with
  | removed other => by_cases hkey : other = key <;> simp [Event.removes, Event.accepts?, hkey]
  | nothing => simp [Event.removes, Event.accepts?]
  | accepted other factory =>
    simp only [Event.removes, Event.accepts?, Bool.false_eq_true, if_false]
    by_cases hkey : other = key
    · subst hkey
      cases hheld : registry.lookup other <;> simp
    · have hne : (key == other) = false := beq_false_of_ne (Ne.symm hkey)
      rw [if_neg hkey, Option.or_none]
      split
      · rw [List.lookup_cons, hne]
        simp
      · simp

/-! ### Runs -/

/-- What a registry has in common with its history. -/
structure Agrees (registry : Registry) (events : List Event) : Prop where
  /-- It finds the holder of each key. -/
  lookup : ∀ key, registry.lookup key = (holder? key events).map (·.1)
  /-- Its entries are the registrations that count, in order. -/
  entries : registry = standing events
  /-- No key has two entries. -/
  nodup : (registry.map (·.1)).Nodup

theorem Agrees.nil : Agrees [] [] := ⟨fun _ => rfl, rfl, List.nodup_nil⟩

/-- An action keeps a registry and its history in agreement. -/
theorem Agrees.after {registry : Registry} {events : List Event} (h : Agrees registry events)
    (action : Action) : Agrees (registry.after action) (events ++ [event registry action]) := by
  have hholder : ∀ key, registry.lookup key = none ↔ holder? key events = none := by
    intro key
    rw [h.lookup, Option.map_eq_none_iff]
  refine ⟨?_, ?_, ?_⟩
  · intro key
    rw [lookup_after, holder?_concat, h.lookup]
    cases (event registry action).removes key with
    | true => rfl
    | false => cases holder? key events <;> simp [Function.comp_def]
  · rw [after_eq, standing_concat, ← h.entries]
    cases hevent : event registry action with
    | removed | nothing => simp [standingOf?]
    | accepted key factory =>
      rw [standingOf?_accepted]
      simp only [hholder]
      split <;> rfl
  · rw [after_eq, List.map_append, List.nodup_append]
    have hkept : ((registry.filter fun entry => !(event registry action).removes entry.1).map
        (·.1)).Nodup := h.nodup.sublist (List.Sublist.map _ List.filter_sublist)
    cases hevent : event registry action with
    | removed | nothing => simpa [hevent] using hkept
    | accepted key factory =>
      rw [hevent] at hkept
      dsimp only
      split
      · next hfree =>
        -- the new key is none of the old ones, since it was not found
        refine ⟨hkept, by simp, ?_⟩
        intro old hold new hnew
        obtain ⟨entry, hentry, rfl⟩ := List.mem_map.1 hold
        obtain rfl : new = key := by simpa using hnew
        have hne := List.lookup_eq_none_iff.1 hfree entry (List.mem_filter.1 hentry).1
        exact fun same => by simp [same] at hne
      · exact ⟨hkept, by simp, by simp⟩

/-- A registry that has been through actions still agrees with its history. -/
theorem Agrees.run {registry : Registry} {events : List Event} (h : Agrees registry events)
    (actions : List Action) :
    Agrees (registry.run actions) (events ++ history registry actions) := by
  induction actions generalizing registry events with
  | nil => simpa [Registry.run, history] using h
  | cons action rest ih =>
    have hrest := ih (h.after action)
    rw [List.append_assoc] at hrest
    exact hrest

/-- Whoever holds a key keeps it as long as nobody removes it. -/
theorem lookup_run_of_held {registry : Registry} {key : String} {factory : Factory}
    (h : registry.lookup key = some factory) {actions : List Action}
    (hkept : ∀ action ∈ actions, action.removes key = false) :
    (registry.run actions).lookup key = some factory := by
  induction actions generalizing registry with
  | nil => exact h
  | cons action rest ih =>
    obtain ⟨hfirst, hrest⟩ := List.forall_mem_cons.1 hkept
    refine ih ?_ hrest
    have hevent : (event registry action).removes key = false := by
      cases action with
      | unregister type => exact hfirst
      | find | resolve => rfl
      | register factory asked =>
        rw [event]
        split <;> rfl
    rw [lookup_after, hevent, h]
    rfl

/-- A type that is removed and registered again stands last. -/
theorem run_again (registry : Registry) (factory : Factory) {asked : String}
    (h : keyFor factory asked ≠ "") :
    registry.run [.unregister (keyFor factory asked), .register factory asked] =
      registry.filter (fun entry => !(entry.1 == Text.lower (keyFor factory asked))) ++
        [(Text.lower (keyFor factory asked), factory)] := by
  have hgone : (registry.unregister (keyFor factory asked)).find? (keyFor factory asked) =
      none := by
    rw [find?_unregister, if_pos rfl]
  show (registry.unregister (keyFor factory asked)).after (.register factory asked) = _
  rcases register_cases (registry.unregister (keyFor factory asked)) factory asked with
    ⟨_, hempty | ⟨holder, hholder, _⟩⟩ | ⟨_, _, holder, hholder, _⟩ | ⟨hresult, _, _⟩
  · exact absurd hempty h
  · rw [hgone] at hholder
    exact absurd hholder nofun
  · rw [hgone] at hholder
    exact absurd hholder nofun
  · rw [after, hresult]
    rfl

/-! ### The registry that is started with -/

/-- The registration of all built-in types. -/
def discovery : List Action := Node.factories.map fun factory => .register factory ""

/-- Factories with keys of their own that nobody holds are all accepted, in order. -/
theorem run_register (registry : Registry) (factories : List Factory)
    (hfilled : ∀ factory ∈ factories, factory.typeKey ≠ "")
    (hnodup : (factories.map fun factory => Text.lower factory.typeKey).Nodup)
    (hfree : ∀ factory ∈ factories, registry.find? factory.typeKey = none) :
    registry.run (factories.map fun factory => .register factory "") =
      registry ++ factories.map fun factory => (Text.lower factory.typeKey, factory) := by
  induction factories generalizing registry with
  | nil => simp [run]
  | cons factory rest ih =>
    obtain ⟨hfirst, hrest⟩ := List.forall_mem_cons.1 hfilled
    obtain ⟨hnone, hothers⟩ := List.forall_mem_cons.1 hfree
    rw [List.map_cons, List.nodup_cons] at hnodup
    have hstep : registry.after (.register factory "") =
        registry ++ [(Text.lower factory.typeKey, factory)] := by
      rcases register_cases registry factory "" with
        ⟨_, hempty | ⟨holder, hholder, _⟩⟩ | ⟨_, _, holder, hholder, _⟩ | ⟨hresult, _, _⟩
      · exact absurd hempty hfirst
      · exact absurd (hnone.symm.trans hholder) nofun
      · exact absurd (hnone.symm.trans hholder) nofun
      · rw [after, hresult]
        rfl
    rw [List.map_cons, run, List.foldl_cons, hstep]
    refine (ih _ hrest hnodup.2 fun other hother => ?_).trans (by simp)
    have hne : Text.lower other.typeKey ≠ Text.lower factory.typeKey := by
      intro same
      exact hnodup.1 (List.mem_map.2 ⟨other, hother, same⟩)
    rw [find?_append, hothers other hother, Option.none_or, if_neg hne]

/-- The registry of the built-in types is what registering them one by one gives. -/
theorem run_discovery : run [] discovery = Node.registry := by
  have hfilled : ∀ factory ∈ Node.factories, factory.typeKey ≠ "" := by decide
  have hnodup : (Node.factories.map fun factory => Text.lower factory.typeKey).Nodup := by
    decide
  have hrun := run_register [] Node.factories hfilled hnodup fun _ _ => rfl
  rwa [List.nil_append] at hrun

/-- A registry that has been used since it was started agrees with its whole history. -/
theorem agrees_of_use (actions : List Action) :
    Agrees (run Node.registry actions) (history [] (discovery ++ actions)) := by
  have h := Agrees.nil.run (discovery ++ actions)
  rwa [run_append, run_discovery, List.nil_append] at h

end LayerGraph.Registry
