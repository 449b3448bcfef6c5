import LayerGraph.Node.Catalog
import LayerGraph.Proofs.Node.Templates
import LayerGraph.Proofs.Parts
import LayerGraph.Proofs.Rendering
import LayerGraph.Proofs.Setting.Given
import LayerGraph.Proofs.Value.Literal
import LayerGraph.Proofs.Value.Same

/-! # Calls tell their settings

    The code of a constructor node is one call, and it tells all its settings: two settings with the
    same code are equal field by field (`settings_same_of_code_eq`). An argument list is read from
    the front. Arguments by position are all there, so they are compared one by one. Of the
    arguments by name each side writes only those that differ from their defaults; their names are
    all different, so the same text names the same arguments, and an argument that is in neither
    text has its default in both.

    What a node type must be like for this is collected in `ConstructorNode.IsLegible`: its call
    feeds every setting to an argument, and what is inserted as code is a name.
-/

namespace LayerGraph

/-! ### Rows of texts -/

/-- Two rows that are the same up to the parenthesis that closes are the same behind another item,
    if they are not told apart by being empty. -/
theorem Value.restText_congr {ts us : List (List Char)} (hempty : ts = [] ↔ us = [])
    (h : Text.join [',', ' '] ts ++ [')'] = Text.join [',', ' '] us ++ [')']) :
    restText ')' ts = restText ')' us := by
  cases ts with
  | nil => rw [hempty.1 rfl]
  | cons t ts =>
    cases us with
    | nil => exact absurd (hempty.2 rfl) nofun
    | cons u us =>
      rw [join_cons_close, join_cons_close] at h
      rw [restText, restText, h]

/-- A number within the bounds passes the check as it is. -/
theorem Shape.check_number {bounds : List Bound} {x : Number.Binary64}
    (h : ∀ bound ∈ bounds, bound.admitsFloat x = true) :
    (Shape.number bounds).check (.float x) = .ok (.float x) :=
  only_eq_ok.2 (numberOf_eq_ok.2 ⟨x, rfl, rfl, h⟩)

/-! ### Argument lists -/

namespace Call

theorem requiredArgument_eq_ok {positional : Bool} {argument : String × Value} {text : String} :
    requiredArgument positional argument = .ok text ↔
      ∃ literal, argument.2.codeText = .ok literal ∧
        text.toList = if positional then literal else argument.1.toList ++ '=' :: literal := by
  unfold requiredArgument Value.literal
  rw [Result.bind_eq_ok]
  constructor
  · rintro ⟨_, hliteral, htext⟩
    obtain ⟨literal, hcode, rfl⟩ := Result.map_eq_ok.1 hliteral
    obtain rfl := Except.ok.inj htext
    exact ⟨literal, hcode, by cases positional <;> simp⟩
  · rintro ⟨literal, hliteral, htext⟩
    refine ⟨.ofList literal, Result.map_eq_ok.2 ⟨literal, hliteral, rfl⟩, congrArg Except.ok ?_⟩
    apply String.toList_inj.1
    rw [htext]
    cases positional <;> simp

section rows
variable {defaults settings others : Entries}

/-- Arguments by position are told apart one by one. -/
theorem positional_inj {arguments : List Argument}
    (hapart : ∀ a ∈ arguments, (a.fed settings).2.AreToldApart (a.fed others).2)
    {ps qs : List String}
    (hps : (arguments.map (·.fed settings)).mapM (requiredArgument true) = .ok ps)
    (hqs : (arguments.map (·.fed others)).mapM (requiredArgument true) = .ok qs)
    {r s : List (List Char)}
    (h : Value.restText ')' (ps.map String.toList ++ r) =
      Value.restText ')' (qs.map String.toList ++ s)) :
    (∀ a ∈ arguments, (a.fed settings).2 = (a.fed others).2) ∧
      Value.restText ')' r = Value.restText ')' s := by
  induction arguments generalizing ps qs with
  | nil =>
    obtain rfl := Except.ok.inj hps
    obtain rfl := Except.ok.inj hqs
    exact ⟨nofun, h⟩
  | cons a arguments ih =>
    obtain ⟨ha, hlater⟩ := List.forall_mem_cons.1 hapart
    obtain ⟨p, ps, hp, hmore, rfl⟩ := Result.mapM_cons_eq_ok.1 hps
    obtain ⟨q, qs, hq, hothers, rfl⟩ := Result.mapM_cons_eq_ok.1 hqs
    obtain ⟨t, ht, hpt⟩ := requiredArgument_eq_ok.1 hp
    obtain ⟨u, hu, hqu⟩ := requiredArgument_eq_ok.1 hq
    have hfirst : t ++ Value.restText ')' (ps.map String.toList ++ r) =
        u ++ Value.restText ')' (qs.map String.toList ++ s) := by
      simpa [Value.restText, hpt, hqu] using h
    obtain ⟨hsame, hrest⟩ := ha t u _ _ ht hu (Value.endsItem_restText (by decide) _)
      (Value.endsItem_restText (by decide) _) hfirst
    obtain ⟨hall, hend⟩ := ih hlater hmore hothers hrest
    exact ⟨List.forall_mem_cons.2 ⟨hsame, hall⟩, hend⟩

/-- The texts of the arguments by name that are not left out. -/
def named (defaults settings : Entries) (arguments : List Argument) :
    Except NoText (List String) :=
  ((arguments.map (·.fed settings)).filter (!isSuppressed defaults ·)).mapM (requiredArgument false)

theorem named_cons_of_suppressed {a : Argument}
    (h : isSuppressed defaults (a.fed settings) = true) (arguments : List Argument) :
    named defaults settings (a :: arguments) = named defaults settings arguments := by
  rw [named, List.map_cons, List.filter_cons_of_neg (by rw [h]; decide)]
  rfl

theorem named_cons_eq_ok {a : Argument} (h : isSuppressed defaults (a.fed settings) = false)
    {arguments : List Argument} {texts : List String}
    (htexts : named defaults settings (a :: arguments) = .ok texts) :
    ∃ literal text rest, (a.fed settings).2.codeText = .ok literal ∧
      named defaults settings arguments = .ok rest ∧ texts = text :: rest ∧
      text.toList = a.name.toList ++ '=' :: literal := by
  rw [named, List.map_cons, List.filter_cons_of_pos (by rw [h]; decide)] at htexts
  obtain ⟨text, rest, htext, hrest, rfl⟩ := Result.mapM_cons_eq_ok.1 htexts
  obtain ⟨literal, hliteral, hlist⟩ := requiredArgument_eq_ok.1 htext
  exact ⟨literal, text, rest, hliteral, hrest, rfl, hlist⟩

/-- Each text begins with the name of its argument. -/
theorem exists_name_of_mem_named {arguments : List Argument} {texts : List String}
    (h : named defaults settings arguments = .ok texts) :
    ∀ text ∈ texts, ∃ a ∈ arguments, ∃ literal, text.toList = a.name.toList ++ '=' :: literal := by
  refine Result.forall_mem_of_mapM h fun argument hargument text htext => ?_
  obtain ⟨a, ha, rfl⟩ := List.mem_map.1 (List.mem_filter.1 hargument |>.1)
  obtain ⟨literal, _, hlist⟩ := requiredArgument_eq_ok.1 htext
  exact ⟨a, ha, literal, hlist⟩

/-- A row of arguments by name is empty only if there are none. -/
theorem join_eq_nil_iff {arguments : List Argument} {texts : List String}
    (h : named defaults settings arguments = .ok texts) :
    Text.join [',', ' '] (texts.map String.toList) = [] ↔ texts = [] := by
  constructor
  · intro hnil
    cases texts with
    | nil => rfl
    | cons text rest =>
      obtain ⟨a, _, literal, htext⟩ := exists_name_of_mem_named h text List.mem_cons_self
      have hlast := Value.join_cons_close ')' text.toList (rest.map String.toList)
      rw [← List.map_cons, hnil, htext] at hlast
      -- the name ends with a sign that is no parenthesis
      have hsign : '=' ∈ [] ++ [')'] := hlast ▸ by simp
      exact absurd hsign (by decide)
  · rintro rfl
    rfl

/-- No row of other arguments goes on with the name of this one. -/
theorem restText_ne_named {a : Argument} {arguments : List Argument}
    (hsign : ∀ b ∈ a :: arguments, '=' ∉ b.name.toList)
    (hnew : a.name ∉ arguments.map (·.name)) {texts : List String}
    (htexts : named defaults settings arguments = .ok texts) {text : String} {literal : List Char}
    (htext : text.toList = a.name.toList ++ '=' :: literal) (rest : List (List Char)) :
    Value.restText ')' (text.toList :: rest) ≠ Value.restText ')' (texts.map String.toList) := by
  intro h
  obtain ⟨ha, hlater⟩ := List.forall_mem_cons.1 hsign
  cases texts with
  | nil => exact absurd (List.cons.inj h).1 (by decide)
  | cons other texts =>
    obtain ⟨b, hb, foreign, hother⟩ := exists_name_of_mem_named htexts other List.mem_cons_self
    have hnames : a.name.toList ++ '=' :: (literal ++ Value.restText ')' rest) =
        b.name.toList ++ '=' :: (foreign ++ Value.restText ')' (texts.map String.toList)) := by
      simpa [Value.restText, htext, hother] using h
    have hsame := (Text.append_cons_inj ha (hlater b hb) hnames).1
    exact hnew (String.toList_inj.1 hsame ▸ List.mem_map_of_mem hb)

theorem isSuppressed_cases {argument : String × Value}
    (h : isSuppressed defaults argument = true) :
    (∃ d, defaults.get? argument.1 = some d ∧ argument.2.same d = true) ∨
      (defaults.get? argument.1 = none ∧ argument.2 = .null) := by
  unfold isSuppressed at h
  split at h
  · next d hd => exact Or.inl ⟨d, hd, h⟩
  · next hnone =>
    split at h
    · next hnull => exact Or.inr ⟨hnone, hnull⟩
    · exact absurd h nofun

/-- Whether an argument has the same value in two calls, or is left out of both. -/
def Agrees (defaults settings others : Entries) (a : Argument) : Prop :=
  (a.fed settings).2 = (a.fed others).2 ∨
    (isSuppressed defaults (a.fed settings) = true ∧ isSuppressed defaults (a.fed others) = true)

/-- Arguments by name agree if their texts do. -/
theorem named_inj {arguments : List Argument} (hnames : (arguments.map (·.name)).Nodup)
    (hsign : ∀ a ∈ arguments, '=' ∉ a.name.toList)
    (hapart : ∀ a ∈ arguments, isSuppressed defaults (a.fed settings) = false →
      isSuppressed defaults (a.fed others) = false →
      (a.fed settings).2.AreToldApart (a.fed others).2)
    {ps qs : List String} (hps : named defaults settings arguments = .ok ps)
    (hqs : named defaults others arguments = .ok qs)
    (h : Value.restText ')' (ps.map String.toList) = Value.restText ')' (qs.map String.toList)) :
    ∀ a ∈ arguments, Agrees defaults settings others a := by
  induction arguments generalizing ps qs with
  | nil => exact nofun
  | cons a arguments ih =>
    obtain ⟨ha, hlater⟩ := List.forall_mem_cons.1 hapart
    obtain ⟨hnew, hdistinct⟩ := List.nodup_cons.1 hnames
    have hsigns := (List.forall_mem_cons.1 hsign).2
    rw [List.forall_mem_cons]
    -- the argument is in both texts or in neither, or it sets them apart
    cases hfirst : isSuppressed defaults (a.fed settings) with
    | true =>
      rw [named_cons_of_suppressed hfirst] at hps
      cases hsecond : isSuppressed defaults (a.fed others) with
      | true =>
        rw [named_cons_of_suppressed hsecond] at hqs
        exact ⟨Or.inr ⟨hfirst, hsecond⟩, ih hdistinct hsigns hlater hps hqs h⟩
      | false =>
        obtain ⟨_, q, qs, _, _, rfl, hq⟩ := named_cons_eq_ok hsecond hqs
        exact absurd h.symm (restText_ne_named hsign hnew hps hq _)
    | false =>
      obtain ⟨t, p, ps, ht, hmore, rfl, hp⟩ := named_cons_eq_ok hfirst hps
      cases hsecond : isSuppressed defaults (a.fed others) with
      | true =>
        rw [named_cons_of_suppressed hsecond] at hqs
        exact absurd h (restText_ne_named hsign hnew hqs hp _)
      | false =>
        obtain ⟨u, q, qs, hu, hothers, rfl, hq⟩ := named_cons_eq_ok hsecond hqs
        have hliteral : t ++ Value.restText ')' (ps.map String.toList) =
            u ++ Value.restText ')' (qs.map String.toList) := by
          simpa [Value.restText, hp, hq] using h
        obtain ⟨hsame, hrest⟩ := ha hfirst hsecond t u _ _ ht hu
          (Value.endsItem_restText (by decide) _) (Value.endsItem_restText (by decide) _) hliteral
        exact ⟨Or.inl hsame, ih hdistinct hsigns hlater hmore hothers hrest⟩

/-- Two calls with the same argument list have the same arguments by position, and arguments by name
    that agree. -/
theorem arguments_inj {required optional : List Argument}
    (hrequired : ∀ a ∈ required, (a.fed settings).2.AreToldApart (a.fed others).2)
    (hnames : (optional.map (·.name)).Nodup) (hsign : ∀ a ∈ optional, '=' ∉ a.name.toList)
    (hoptional : ∀ a ∈ optional, isSuppressed defaults (a.fed settings) = false →
      isSuppressed defaults (a.fed others) = false →
      (a.fed settings).2.AreToldApart (a.fed others).2) {text : String}
    (h : arguments (required.map (·.fed settings)) (optional.map (·.fed settings)) defaults true =
      .ok text)
    (hother : arguments (required.map (·.fed others)) (optional.map (·.fed others)) defaults true =
      .ok text) :
    (∀ a ∈ required, (a.fed settings).2 = (a.fed others).2) ∧
      ∀ a ∈ optional, Agrees defaults settings others a := by
  obtain ⟨first, hfirst, h⟩ := Result.bind_eq_ok.1 h
  obtain ⟨second, hsecond, h⟩ := Result.bind_eq_ok.1 h
  obtain ⟨first', hfirst', hother⟩ := Result.bind_eq_ok.1 hother
  obtain ⟨second', hsecond', hother⟩ := Result.bind_eq_ok.1 hother
  have htexts := congrArg String.toList ((Except.ok.inj h).trans (Except.ok.inj hother).symm)
  rw [String.toList_intercalate, String.toList_intercalate, ← Text.join_eq_intercalate,
    ← Text.join_eq_intercalate] at htexts
  -- Both rows end with a bracket, so they can be compared from the left once it is known that
  -- neither is empty without the other.
  have hempty : (first ++ second).map String.toList = [] ↔
      (first' ++ second').map String.toList = [] := by
    cases required with
    | cons a required =>
      obtain ⟨_, _, _, _, rfl⟩ := Result.mapM_cons_eq_ok.1 hfirst
      obtain ⟨_, _, _, _, rfl⟩ := Result.mapM_cons_eq_ok.1 hfirst'
      simp
    | nil =>
      obtain rfl : [] = first := Except.ok.inj hfirst
      obtain rfl : [] = first' := Except.ok.inj hfirst'
      rw [List.map_eq_nil_iff, List.map_eq_nil_iff, List.nil_append, List.nil_append,
        ← join_eq_nil_iff hsecond, ← join_eq_nil_iff hsecond']
      exact htexts ▸ Iff.rfl
  have hrows := Value.restText_congr hempty (congrArg (· ++ [')']) htexts)
  rw [List.map_append, List.map_append] at hrows
  obtain ⟨hall, hrest⟩ := positional_inj hrequired hfirst hfirst' hrows
  exact ⟨hall, named_inj hnames hsign hoptional hsecond hsecond' hrest⟩

end rows

end Call

/-! ### Legible node types -/

deriving instance DecidableEq for Shape

namespace ConstructorNode

/-- A node type whose call tells its settings: each of them is fed to an argument or names the
    variable, and a setting that is inserted as code is a row of names, or is the one that holds
    code of any kind. -/
structure IsLegible (node : ConstructorNode) : Prop where
  positional : node.positional = true
  callee : ' ' ∉ node.callee.toList
  keys : node.schema.keys.Nodup
  bounds : ∀ field ∈ node.schema, field.shape.boundsNumbers = true
  target : ∃ field ∈ node.schema, field.key = "variableName" ∧ field.shape = .optional .name
  names : (node.optional.map (·.name)).Nodup
  signs : ∀ a ∈ node.optional, '=' ∉ a.name.toList
  required : ∀ a ∈ node.required, ∃ field ∈ node.schema, field.key = a.key ∧
    (a.raw = true → a.key = "params" ∨ field.shape = .dottedName)
  optional : ∀ a ∈ node.optional, ∃ field ∈ node.schema, field.key = a.key ∧
    (a.raw = true → field.shape = .optional .dottedName ∧
      (node.suppressed.get? a.name).isNone = true)
  fed : ∀ field ∈ node.schema, field.key ≠ "variableName" →
    ∃ a ∈ node.required ++ node.optional, a.key = field.key

theorem isLegible_of_mem_constructors : ∀ node ∈ Node.constructors, node.IsLegible := by
  intro node hnode
  -- each condition is checked for the whole list
  constructor <;> revert node
  all_goals decide

/-! ### The variable in front of a call -/

/-- What is assigned to is nothing, or a name with a blank behind it. -/
theorem assignment_cases {settings : Entries} {v : Value} (h : (Shape.optional .name).Fits v)
    (hv : settings.get? "variableName" = some v) :
    (v = .null ∧ assignment settings = "") ∨
      ∃ name, v = .str name ∧ Text.isName name = true ∧
        (assignment settings).toList = name.toList ++ [' ', '=', ' '] := by
  unfold assignment
  rw [hv]
  rcases h with rfl | ⟨name, rfl, hname⟩
  · exact Or.inl ⟨rfl, rfl⟩
  · have hfull : name.isEmpty = false := by
      rw [← Bool.not_eq_true, String.isEmpty_iff]
      rintro rfl
      exact absurd hname (by decide)
    refine Or.inr ⟨name, rfl, hname, ?_⟩
    simp [hfull]

/-- Whether a variable is assigned to, and which one, is told in front of the call. -/
theorem assignment_inj {settings others : Entries} {v w : Value}
    (hv : settings.get? "variableName" = some v) (hw : others.get? "variableName" = some w)
    (hfits : (Shape.optional .name).Fits v) (hfits' : (Shape.optional .name).Fits w)
    {callee : String} (hcallee : ' ' ∉ callee.toList) {r s : List Char}
    (h : (assignment settings).toList ++ (callee.toList ++ '(' :: r) =
      (assignment others).toList ++ (callee.toList ++ '(' :: s)) : v = w ∧ r = s := by
  have hopen {name : String} (hname : Text.isName name = true) (r s : List Char) :
      name.toList ++ ' ' :: r ≠ callee.toList ++ '(' :: s :=
    Text.append_cons_ne (by decide) (Text.not_mem_of_isName hname (by decide)) hcallee r s
  rcases assignment_cases hfits hv with ⟨rfl, hnone⟩ | ⟨name, rfl, hname, htext⟩
  · rcases assignment_cases hfits' hw with ⟨rfl, hnone'⟩ | ⟨name', rfl, hname', htext'⟩
    · rw [hnone, hnone'] at h
      exact ⟨rfl, (List.cons.inj (List.append_cancel_left (List.append_cancel_left h))).2⟩
    · rw [hnone, htext', List.append_assoc] at h
      exact absurd h.symm (hopen hname' _ _)
  · rcases assignment_cases hfits' hw with ⟨rfl, hnone'⟩ | ⟨name', rfl, hname', htext'⟩
    · rw [hnone', htext, List.append_assoc] at h
      exact absurd h (hopen hname _ _)
    · rw [htext, htext', List.append_assoc, List.append_assoc] at h
      obtain ⟨hsame, hrest⟩ := Text.append_cons_inj (Text.not_mem_of_isName hname (by decide))
        (Text.not_mem_of_isName hname' (by decide)) h
      refine ⟨congrArg Value.str (String.toList_inj.1 hsame), ?_⟩
      exact (List.cons.inj (List.append_cancel_left (List.append_cancel_left hrest))).2

/-- The code of a call in its parts. -/
theorem emitValid_eq_ok {node : ConstructorNode} {settings : Entries} {code : String}
    (h : node.emitValid settings = .ok code) :
    ∃ arguments, Call.arguments (node.required.map (·.fed settings))
        (node.optional.map (·.fed settings)) node.suppressed node.positional = .ok arguments ∧
      code.toList = (assignment settings).toList ++
        (node.callee.toList ++ '(' :: (arguments.toList ++ [')'])) := by
  obtain ⟨arguments, harguments, hcode⟩ := Result.bind_eq_ok.1 h
  refine ⟨arguments, Result.mapError_eq_ok.1 harguments, ?_⟩
  rw [renderSource_text segments _ (by simp [Entries.get?, List.lookup])] at hcode
  obtain rfl := Except.ok.inj hcode
  simp [Segment.filled, Entries.text, Entries.get?, List.lookup]

theorem emitValid_of_emit {node : ConstructorNode} {given : Value} {inside : Inside}
    {settings : Entries} {code : String}
    (hsettings : node.schema.parseValue node.typeKey given = .ok settings)
    (hcode : node.emit given inside = .ok code) : node.emitValid settings = .ok code := by
  obtain ⟨_, _, hcode⟩ := Result.bind_eq_ok.1 hcode
  obtain ⟨parsed, hparsed, hcode⟩ := Result.bind_eq_ok.1 hcode
  obtain ⟨_, _, hcode⟩ := Result.bind_eq_ok.1 hcode
  obtain rfl := Except.ok.inj (hparsed.symm.trans hsettings)
  exact hcode

/-! ### Settings and arguments -/

theorem fed_eq {a : Argument} {settings : Entries} {v : Value}
    (hv : settings.get? a.key = some v) :
    (a.fed settings).2 = if a.raw then Argument.asCode v else v := by
  simp [Argument.fed, hv]

theorem asCode_inj {v w : Value} (hv : v.IsConstant) (hw : w.IsConstant)
    (h : Argument.asCode v = Argument.asCode w) : v = w := by
  cases hv <;> cases hw <;> simp_all [Argument.asCode]

theorem asCode_areToldApart {v w : Value} (hv : Shape.dottedName.Fits v)
    (hw : Shape.dottedName.Fits w) : (Argument.asCode v).AreToldApart (Argument.asCode w) := by
  obtain ⟨s, rfl, hs⟩ := hv
  obtain ⟨t, rfl, ht⟩ := hw
  have hplain {s : String} (hs : ∀ part ∈ Shape.dottedParts s, Text.isName part = true) :
      ∀ c ∈ s.toList, c ∉ Value.itemEnds := by
    intro c hc hmark
    -- the marks stand in no name, and none of them is a dot
    have hmarks : Value.itemEnds.all (fun d => !Text.isIdentifierPart d && d != '.') = true := by
      decide
    have hnone := List.all_eq_true.1 hmarks c hmark
    rw [Bool.and_eq_true, Bool.not_eq_true', bne_iff_ne] at hnone
    exact Text.not_mem_of_dottedParts hs hnone.1 hnone.2 hc
  exact .expr (hplain hs) (hplain ht)

section fields
variable {node : ConstructorNode} (hnode : node.IsLegible) {settings others : Entries}
  (hfits : node.schema.Fits settings) (hfits' : node.schema.Fits others)
include hnode hfits hfits'

/-- What is fed to an argument by position is told apart, except that code is given. -/
theorem required_areToldApart (hparams : settings.get? "params" = others.get? "params") :
    ∀ a ∈ node.required, (a.fed settings).2.AreToldApart (a.fed others).2 := by
  intro a ha
  obtain ⟨field, hfield, hkey, hraw⟩ := hnode.required a ha
  obtain ⟨v, hv, hvfits⟩ := hfits.get? hnode.keys hfield
  obtain ⟨w, hw, hwfits⟩ := hfits'.get? hnode.keys hfield
  rw [hkey] at hv hw
  rw [fed_eq hv, fed_eq hw]
  cases hcode : a.raw with
  | false =>
    exact Value.layout_append_inj (Shape.isConstant_of_fits hvfits).isLiteral w
      (Shape.isConstant_of_fits hwfits).isLiteral
  | true =>
    rcases hraw hcode with hgiven | hdotted
    · rw [hgiven] at hv hw
      obtain rfl := Option.some.inj (hv.symm.trans (hparams.trans hw))
      exact .self _
    · rw [hdotted] at hvfits hwfits
      exact asCode_areToldApart hvfits hwfits

/-- What is fed to an argument by name is told apart, unless it is left out. -/
theorem optional_areToldApart :
    ∀ a ∈ node.optional, Call.isSuppressed node.suppressed (a.fed settings) = false →
      Call.isSuppressed node.suppressed (a.fed others) = false →
      (a.fed settings).2.AreToldApart (a.fed others).2 := by
  intro a ha hwritten hwritten'
  obtain ⟨field, hfield, hkey, hraw⟩ := hnode.optional a ha
  obtain ⟨v, hv, hvfits⟩ := hfits.get? hnode.keys hfield
  obtain ⟨w, hw, hwfits⟩ := hfits'.get? hnode.keys hfield
  rw [hkey] at hv hw
  cases hcode : a.raw with
  | false =>
    rw [fed_eq hv, fed_eq hw, hcode]
    exact Value.layout_append_inj (Shape.isConstant_of_fits hvfits).isLiteral w
      (Shape.isConstant_of_fits hwfits).isLiteral
  | true =>
    obtain ⟨hdotted, hdefault⟩ := hraw hcode
    rw [hdotted] at hvfits hwfits
    -- null would be left out
    have hname {settings : Entries} {v : Value} (hv : settings.get? a.key = some v)
        (hfits : (Shape.optional .dottedName).Fits v)
        (hwritten : Call.isSuppressed node.suppressed (a.fed settings) = false) :
        Shape.dottedName.Fits v := by
      rcases hfits with rfl | hname
      · have hnull : a.fed settings = (a.name, .null) :=
          Prod.ext rfl ((fed_eq hv).trans (by rw [hcode]; rfl))
        rw [hnull, Call.isSuppressed, Option.isNone_iff_eq_none.1 hdefault] at hwritten
        exact absurd hwritten nofun
      · exact hname
    rw [fed_eq hv, fed_eq hw, hcode]
    exact asCode_areToldApart (hname hv hvfits hwritten) (hname hw hwfits hwritten')

end fields

section agreement
variable {node : ConstructorNode} {settings others : Entries} {a : Argument} {v w : Value}
  (hv : settings.get? a.key = some v) (hw : others.get? a.key = some w)
  (hvconstant : v.IsConstant) (hwconstant : w.IsConstant)
include hv hw hvconstant hwconstant

theorem eq_of_fed_eq (h : (a.fed settings).2 = (a.fed others).2) : v = w := by
  rw [fed_eq hv, fed_eq hw] at h
  cases hcode : a.raw with
  | false => simpa [hcode] using h
  | true => exact asCode_inj hvconstant hwconstant (by simpa [hcode] using h)

/-- A setting is the same on both sides if the argument that it is fed to agrees. -/
theorem same_of_agrees (hraw : a.raw = true → (node.suppressed.get? a.name).isNone = true)
    (hself : v.same v = true) (h : Call.Agrees node.suppressed settings others a) :
    v.same w = true := by
  rcases h with heq | ⟨hleft, hleft'⟩
  · exact eq_of_fed_eq hv hw hvconstant hwconstant heq ▸ hself
  · rcases Call.isSuppressed_cases hleft with ⟨d, hd, hsame⟩ | ⟨hnone, hnull⟩
    · -- both are left out for the default, so both are equal to it
      have hplain : a.raw = false := by
        rw [← Bool.not_eq_true]
        intro hcode
        rw [show node.suppressed.get? a.name = some d from hd] at hraw
        exact absurd (hraw hcode) nofun
      rcases Call.isSuppressed_cases hleft' with ⟨d', hd', hsame'⟩ | ⟨hnone, _⟩
      · obtain rfl := Option.some.inj (hd.symm.trans hd')
        rw [fed_eq hv, hplain] at hsame
        rw [fed_eq hw, hplain] at hsame'
        exact hvconstant.same_of_same hwconstant hsame hsame'
      · exact absurd (hd.symm.trans hnone) nofun
    · rcases Call.isSuppressed_cases hleft' with ⟨d, hd, _⟩ | ⟨_, hnull'⟩
      · exact absurd (hnone.symm.trans hd) nofun
      · exact eq_of_fed_eq hv hw hvconstant hwconstant (hnull.trans hnull'.symm) ▸ hself

end agreement

/-- Of a legible node type, validated settings with the same code are equal field by field, if the
    code that they hold is. -/
theorem IsLegible.same_of_emitValid {node : ConstructorNode} (hnode : node.IsLegible)
    {settings others : Entries} (hfits : node.schema.Fits settings)
    (hfits' : node.schema.Fits others) (hparams : settings.get? "params" = others.get? "params")
    {code : String} (hcode : node.emitValid settings = .ok code)
    (hcode' : node.emitValid others = .ok code) :
    ∀ field ∈ node.schema, ∃ v w, settings.get? field.key = some v ∧
      others.get? field.key = some w ∧ v.same w = true := by
  obtain ⟨arguments, harguments, htext⟩ := emitValid_eq_ok hcode
  obtain ⟨arguments', harguments', htext'⟩ := emitValid_eq_ok hcode'
  rw [hnode.positional] at harguments harguments'
  -- first the variable is read, then the argument list
  obtain ⟨target, htarget, hkey, hshape⟩ := hnode.target
  obtain ⟨x, hx, hxfits⟩ := hfits.get? hnode.keys htarget
  obtain ⟨y, hy, hyfits⟩ := hfits'.get? hnode.keys htarget
  rw [hkey] at hx hy
  rw [hshape] at hxfits hyfits
  obtain ⟨rfl, hlist⟩ :=
    assignment_inj hx hy hxfits hyfits hnode.callee (htext.symm.trans htext')
  obtain rfl := String.toList_inj.1 (List.append_cancel_right hlist)
  obtain ⟨hrequired, hoptional⟩ := Call.arguments_inj
    (required_areToldApart hnode hfits hfits' hparams) hnode.names hnode.signs
    (optional_areToldApart hnode hfits hfits') harguments harguments'
  intro field hfield
  obtain ⟨v, hv, hvfits⟩ := hfits.get? hnode.keys hfield
  obtain ⟨w, hw, hwfits⟩ := hfits'.get? hnode.keys hfield
  refine ⟨v, w, hv, hw, ?_⟩
  have hself : v.same v = true := Shape.same_self_of_fits (hnode.bounds field hfield) hvfits
  have hvconstant := Shape.isConstant_of_fits hvfits
  have hwconstant := Shape.isConstant_of_fits hwfits
  by_cases hvariable : field.key = "variableName"
  · rw [hvariable] at hv hw
    obtain rfl := Option.some.inj (hx.symm.trans hv)
    obtain rfl := Option.some.inj (hy.symm.trans hw)
    exact hself
  · obtain ⟨a, ha, hfed⟩ := hnode.fed field hfield hvariable
    rw [← hfed] at hv hw
    rcases List.mem_append.1 ha with hposition | hname
    · exact eq_of_fed_eq hv hw hvconstant hwconstant (hrequired a hposition) ▸ hself
    · obtain ⟨_, _, _, hraw⟩ := hnode.optional a hname
      exact same_of_agrees hv hw hvconstant hwconstant (fun hcode => (hraw hcode).2) hself
        (hoptional a hname)

end ConstructorNode

namespace Node

open Number (Binary64)

/-- No setting of a built-in constructor node is dropped: settings with the same code are equal in
    every field, where floating point numbers are compared as numbers.

    A setting that is not in the text has its default, and what is in the text can be read in one
    way only. The parameters that an optimizer trains are code of any kind, so these are taken to be
    the same on both sides. -/
theorem settings_same_of_code_eq :
    ∀ node ∈ constructors, ∀ (given given' : Value) (inside inside' : Inside)
      (settings settings' : Entries) (code : String),
      node.schema.parseValue node.typeKey given = .ok settings →
      node.schema.parseValue node.typeKey given' = .ok settings' →
      settings.get? "params" = settings'.get? "params" →
      node.emit given inside = .ok code → node.emit given' inside' = .ok code →
      ∀ field ∈ node.schema, ∃ v w, settings.get? field.key = some v ∧
        settings'.get? field.key = some w ∧ v.same w = true := by
  intro node hnode given given' inside inside' settings settings' code hsettings hsettings' hparams
    hcode hcode'
  have hvalid := ConstructorNode.emitValid_of_emit hsettings hcode
  have hvalid' := ConstructorNode.emitValid_of_emit hsettings' hcode'
  exact (ConstructorNode.isLegible_of_mem_constructors node hnode).same_of_emitValid
    (Schema.fits_of_parseValue hsettings) (Schema.fits_of_parseValue hsettings') hparams
    hvalid hvalid'

/-- A loss of which only the label smoothing is given. -/
def smoothing (x : Binary64) : Value := .ofEntries [("labelSmoothing", .float x)]

/-- Its validated settings. -/
def smoothed (x : Binary64) : Entries :=
  [("variableName", .str "loss_fn"), ("weight", .null), ("ignoreIndex", .int (-100)),
   ("reduction", .str "mean"), ("labelSmoothing", .float x)]

theorem parseValue_smoothing {x : Binary64} (hx : probability.check (.float x) = .ok (.float x)) :
    crossEntropyLoss.schema.parseValue crossEntropyLoss.typeKey (smoothing x) =
      .ok (smoothed x) := by
  have hkey : "labelSmoothing" ∈ crossEntropyLoss.schema.keys := by decide
  refine Schema.parseValue_of_checked _ (List.forall_mem_singleton.2 hkey) rfl ?_
  exact .cons ⟨rfl, by cbv⟩ (.cons ⟨rfl, rfl⟩ (.cons ⟨rfl, rfl⟩
    (.cons ⟨rfl, rfl⟩ (.cons ⟨rfl, hx⟩ .nil))))

/-- A label smoothing of zero is left out, whatever its sign. -/
theorem emit_smoothing {x : Binary64} (hx : probability.check (.float x) = .ok (.float x))
    (hzero : x.eq .zero = true) {inside : Inside} (hinside : inside.given = false) :
    crossEntropyLoss.emit (smoothing x) inside = .ok "loss_fn = torch.nn.CrossEntropyLoss()" := by
  have hchild : refuseChild crossEntropyLoss.typeKey inside = .ok () :=
    refuseChild_eq_ok.2 hinside
  have hsame : (Value.float x).same (decimal 0 0) = true :=
    Value.same_float_iff.2 ⟨.zero, rfl, hzero⟩
  unfold ConstructorNode.emit
  rw [parseValue_smoothing hx, hchild]
  simp [ConstructorNode.checkRule, crossEntropyLoss, ConstructorNode.emitValid, Call.arguments,
    Call.isSuppressed, Argument.fed, Argument.asCode, smoothed, Entries.get?, List.lookup, hsame,
    Bind.bind, Except.bind, pure, Except.pure, orNoText, Except.mapError]
  rw [renderSource_text ConstructorNode.segments _ (by simp [Entries.get?, List.lookup])]
  rfl

/-- The two zeros are two settings with the same code, and they are the same number. -/
theorem settings_same_of_code_eq_signedZero :
    smoothed .zero ≠ smoothed (.finite true .zero) ∧
      ∀ field ∈ crossEntropyLoss.schema, ∃ v w, (smoothed .zero).get? field.key = some v ∧
        (smoothed (.finite true .zero)).get? field.key = some w ∧ v.same w = true := by
  have hplus : probability.check (.float .zero) = .ok (.float .zero) :=
    Shape.check_number (by decide +kernel)
  have hminus : probability.check (.float (.finite true .zero)) =
      .ok (.float (.finite true .zero)) := Shape.check_number (by decide +kernel)
  have hnothing : (Child.none.inside fun _ => .ok relu.plugin).given = false := rfl
  refine ⟨by simp [smoothed, Binary64.zero], ?_⟩
  exact settings_same_of_code_eq crossEntropyLoss (by simp [constructors]) _ _ _ _ _ _ _
    (parseValue_smoothing hplus) (parseValue_smoothing hminus) rfl
    (emit_smoothing hplus rfl hnothing) (emit_smoothing hminus rfl hnothing)

end Node

end LayerGraph
