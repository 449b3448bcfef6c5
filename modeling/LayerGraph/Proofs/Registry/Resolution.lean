import LayerGraph.Proofs.Registry.History
import LayerGraph.Proofs.Result
import LayerGraph.Proofs.Value.Showable

/-! # Resolution

    What a registry answers when a plugin is asked for: a plugin, the error that the type is
    unknown, the factory's own error, or the error that the factory made no plugin (`Answers`).
    Together with the history this says what a registry does through any run, from the built-in
    types on (`keeps_holders`).
-/

namespace LayerGraph.Registry

/-! ### Answers -/

/-- What is answered when a plugin is asked for under a type that is given as a value. -/
inductive Answers (registry : Registry) (asked : Value) : Except Failure Plugin → Prop where
  | plugin {type : String} {factory : Factory} {plugin : Plugin} (text : asked.text? = some type)
      (held : registry.find? type = some factory) (made : factory.make = .ok (some plugin)) :
      Answers registry asked (.ok plugin)
  | unknown {type : String} (text : asked.text? = some type)
      (free : registry.find? type = none) :
      Answers registry asked (refuse (.unknownNodeType type))
  /-- What is no string is known to no registry. -/
  | noString {shown : String} (text : asked.text? = none) (display : asked.display = .ok shown) :
      Answers registry asked (refuse (.unknownNodeType shown))
  /-- An integer that is too long keeps what is no string from being named. -/
  | tooLong (text : asked.text? = none) (long : asked.isShowable = false) :
      Answers registry asked (.error (.noText .integerTooLong))
  | refused {type : String} {factory : Factory} {error : GraphError}
      (text : asked.text? = some type) (held : registry.find? type = some factory)
      (made : factory.make = .error (.refused error)) :
      Answers registry asked (refuse error)
  | raised {type className words : String} {factory : Factory} (text : asked.text? = some type)
      (held : registry.find? type = some factory)
      (made : factory.make = .error (.raised className words)) :
      Answers registry asked (refuse (.pluginResolution type (.raised className words)))
  /-- What a web service has an answer to is an exception like any other here. -/
  | answered {type className words : String} {status : Fin 1000} {content : Option Value}
      {factory : Factory} (text : asked.text? = some type)
      (held : registry.find? type = some factory)
      (made : factory.make = .error (.answered className words status content)) :
      Answers registry asked (refuse (.pluginResolution type (.raised className words)))
  | notPlugin {type : String} {factory : Factory} (text : asked.text? = some type)
      (held : registry.find? type = some factory) (made : factory.make = .ok none) :
      Answers registry asked (refuse (.pluginResolution type .notPlugin))

theorem resolve_of_free {registry : Registry} {type : String}
    (h : registry.find? type = none) : registry.resolve type = .error (.unknownNodeType type) := by
  unfold resolve
  rw [h]

/-- A type that is held is answered with what its factory makes. -/
theorem resolve_of_held {registry : Registry} {type : String} {factory : Factory}
    (h : registry.find? type = some factory) :
    registry.resolve type =
      match factory.make with
      | .ok (some plugin) => .ok plugin
      | .ok none => .error (.pluginResolution type .notPlugin)
      | .error (.refused error) => .error error
      | .error (.raised className words) =>
        .error (.pluginResolution type (.raised className words))
      | .error (.answered className words _ _) =>
        .error (.pluginResolution type (.raised className words)) := by
  unfold resolve
  split
  · next hfree => exact absurd (h.symm.trans hfree) nofun
  · next holder hheld =>
    obtain rfl := Option.some.inj (h.symm.trans hheld)
    rfl

theorem answers_resolveValue (registry : Registry) (asked : Value) :
    registry.Answers asked (registry.resolveValue asked) := by
  unfold resolveValue
  cases htext : asked.text? with
  | some type =>
    dsimp only
    cases hfind : registry.find? type with
    | none =>
      rw [resolve_of_free hfind]
      exact .unknown htext hfind
    | some factory =>
      rw [resolve_of_held hfind]
      cases hmake : factory.make with
      | ok made =>
        cases made with
        | some plugin => exact .plugin htext hfind hmake
        | none => exact .notPlugin htext hfind hmake
      | error fault =>
        cases fault with
        | refused error => exact .refused htext hfind hmake
        | raised className words => exact .raised htext hfind hmake
        | answered className words status content => exact .answered htext hfind hmake
  | none =>
    dsimp only
    cases hshowable : asked.isShowable with
    | true =>
      obtain ⟨shown, hdisplay⟩ := asked.isShown_display.exists_ok hshowable
      rw [hdisplay]
      exact .noString htext hdisplay
    | false =>
      rw [asked.isShown_display.eq_error hshowable]
      exact .tooLong htext hshowable

/-! ### Registries in use -/

theorem register_eq_refused_iff (registry : Registry) (factory : Factory) (asked : String) :
    registry.register factory asked = .error .registration ↔
      keyFor factory asked = "" ∨ ∃ holder,
        registry.find? (keyFor factory asked) = some holder ∧ holder.id ≠ factory.id := by
  rcases register_cases registry factory asked with
    ⟨hresult, hrefused⟩ | ⟨hresult, hkey, holder, hholder, hsame⟩ | ⟨hresult, hkey, hnone⟩
  · exact ⟨fun _ => hrefused, fun _ => hresult⟩
  · refine ⟨fun h => ?_, ?_⟩
    · cases hresult.symm.trans h
    · rintro (hempty | ⟨other, hother, hne⟩)
      · exact absurd hempty hkey
      · obtain rfl := Option.some.inj (hholder.symm.trans hother)
        exact absurd hsame hne
  · refine ⟨fun h => ?_, ?_⟩
    · cases hresult.symm.trans h
    · rintro (hempty | ⟨other, hother, -⟩)
      · exact absurd hempty hkey
      · cases hnone.symm.trans hother

/-- A registration without a key, or under one that is held, adds nothing. -/
theorem after_register_of_held {registry : Registry} {factory : Factory} {asked : String}
    (h : keyFor factory asked = "" ∨ ∃ holder,
      registry.find? (keyFor factory asked) = some holder) :
    registry.after (.register factory asked) = registry := by
  rcases register_cases registry factory asked with ⟨hresult, -⟩ | ⟨hresult, -⟩ |
    ⟨-, hkey, hnone⟩
  · rw [after, hresult]
  · rw [after, hresult]
  · rcases h with hempty | ⟨other, hother⟩
    · exact absurd hempty hkey
    · cases hnone.symm.trans hother

/-- A factory that makes nothing. -/
def idleFactory : Factory := ⟨100, "Echo", .ok none⟩

/-- A factory that fails. -/
def brokenFactory : Factory := ⟨101, "ECHO", .error (.raised "RuntimeError" "broken")⟩

/-- A type changes hands: it is refused to a second factory until the first one is removed. -/
def handover : List Action :=
  [.register idleFactory "", .register brokenFactory "echo", .unregister "eCHO",
   .register brokenFactory ""]

/-- The least integer that is too long to be written. -/
def longInteger : Value := .int (Nat.pow 10 integerDigitLimit)

end LayerGraph.Registry
