import LayerGraph.Proofs.Node.Builtins
import LayerGraph.Proofs.Node.Chaining
import LayerGraph.Proofs.Node.Statements
import LayerGraph.Proofs.Setting.Normal
import LayerGraph.Proofs.Setting.Repair

/-! # Signatures of methods

    The code of a data set and of a module is a class, and the settings name the parameters of its
    methods. A signature is read back from the line that begins a method (`signature?_header`). The
    parameters in the code are those that were given, all of them and in their order, behind the
    `self` that the template of a module adds. Each is checked to be a name, but they are never
    compared with each other. So a method has the same parameter twice exactly if it was given
    twice, or `self` was given to a module, and that is never refused (`signatures_as_given`).
-/

namespace LayerGraph

/-! ### Rows of names -/

namespace Text

/-- Cutting a row at its commas leaves a space in front of each text but the first. -/
theorem pieces_commas {first : List Char} {rest : List (List Char)} (hfirst : ',' ∉ first)
    (hrest : ∀ text ∈ rest, ',' ∉ text) :
    pieces ',' (join [',', ' '] (first :: rest)) = first :: rest.map (' ' :: ·) := by
  induction rest generalizing first with
  | nil =>
    show pieces ',' first = [first]
    rw [pieces, cut_of_not_mem hfirst]
  | cons second rest ih =>
    obtain ⟨hsecond, hothers⟩ := List.forall_mem_cons.1 hrest
    have hspace : ',' ∉ ' ' :: second := by simp [hsecond]
    rw [join_cons_cons, List.append_assoc]
    show pieces ',' (first ++ ',' :: ' ' :: join [',', ' '] (second :: rest)) = _
    rw [pieces_append_cons hfirst, ← join_cons_head, ih hspace hothers]
    rfl

/-- A name with blanks in front of it is the name if these are cut off. -/
theorem trim_append_name {blanks : List Char} (hblanks : ∀ c ∈ blanks, isBlank c = true)
    {name : String} (hname : isName name = true) : trim (blanks ++ name.toList) = name.toList := by
  have hsolid : ∀ c ∈ name.toList, isBlank c = false := fun c hc =>
    isBlank_of_isIdentifierPart (isIdentifierPart_of_isName hname c hc)
  show trimWhile isBlank (blanks ++ name.toList) = name.toList
  rw [trimWhile_append_left hblanks]
  exact trimWhile_of_ends (fun c hc => hsolid c (List.mem_of_mem_head? hc))
    fun c hc => hsolid c (List.mem_of_getLast? hc)

end Text

/-! ### A setting that is replaced -/

/-- An entry that is written is new, and the others are those that were there. -/
theorem Entries.mem_set {entries : Entries} {key : String} {value : Value}
    {entry : String × Value} (h : entry ∈ entries.set key value) :
    entry.1 = key ∨ entry ∈ entries := by
  unfold set at h
  split at h
  · obtain ⟨old, hold, rfl⟩ := List.mem_map.1 h
    by_cases hkey : old.1 = key
    · rw [if_pos (beq_iff_eq.2 hkey)]
      exact .inl hkey
    · rw [if_neg (mt beq_iff_eq.1 hkey)]
      exact .inr hold
  · rcases List.mem_append.1 h with hold | hnew
    · exact .inr hold
    · rw [List.mem_singleton.1 hnew]
      exact .inl rfl

/-- If a setting is given anew, with a value that passes its check, this setting changes and no
    other one. -/
theorem Schema.parseValue_update {schema : Schema} {nodeType : String} {given settings : Entries}
    (hkeys : schema.keys.Nodup) (hdistinct : given.keys.Nodup)
    (h : schema.parseValue nodeType (.ofEntries given) = .ok settings) {field : SettingField}
    (hfield : field ∈ schema) {v w : Value} (hnull : v ≠ .null)
    (hcheck : field.shape.check v = .ok w) :
    schema.parseValue nodeType (.ofEntries (given.set field.key v)) =
      .ok (settings.set field.key w) := by
  have hupdated := Entries.nodup_keys_set hdistinct field.key v
  refine parseValue_of_agree hkeys h hfield hnull hcheck ?_ (fun key hne => ?_) fun entry hentry =>
    Entries.mem_set hentry
  · rw [get?_merge hupdated, Entries.get?_set_self, Option.some_or]
  · rw [get?_merge hupdated, get?_merge hdistinct, Entries.get?_set_of_ne hne]

theorem Entries.texts_set_self (settings : Entries) (key : String) (names : List String) :
    (settings.set key (Node.Dataset.names names)).texts key = names := by
  unfold texts
  rw [get?_set_self]
  simp [Node.Dataset.names, List.filterMap_map, Function.comp_def, Value.text?]

theorem Entries.texts_set_of_ne {key other : String} (hne : other ≠ key) (settings : Entries)
    (v : Value) : (settings.set key v).texts other = settings.texts other := by
  unfold texts
  rw [get?_set_of_ne hne]

/-- A list of names passes the check of a setting with names. -/
theorem Shape.check_names {names : List String} (h : ∀ name ∈ names, Text.isName name = true) :
    (Shape.sequence .name).check (Node.Dataset.names names) = .ok (Node.Dataset.names names) := by
  refine check_of_fits rfl ⟨names.map .str, rfl, List.forall_mem_map.2 fun name hname => ?_⟩
  exact ⟨name, rfl, h name hname⟩

namespace Node

open Fragment (Block isBelow indentation stack)
open Text (lines isBlankText)

/-! ### Reading signatures -/

/-- The names in a row of parameters. -/
def parameters (text : List Char) : List String :=
  if isBlankText text then []
  else (Text.pieces ',' text).map fun piece => String.ofList (Text.trim piece)

/-- The name and the parameters of a method of a class, read from its first line. -/
def signature? (line : List Char) : Option (String × List String) :=
  if "    def ".toList.isPrefixOf line then
    let method := line.drop "    def ".toList.length
    let behind := (method.dropWhile (· != '(')).drop 1
    some (String.ofList (method.takeWhile (· != '(')), parameters (behind.takeWhile (· != ')')))
  else none

/-- The signatures of the methods of a class. -/
def signatures (code : String) : List (String × List String) :=
  (lines code.toList).filterMap signature?

/-- The names in a row of names are those that it was made of. -/
theorem parameters_commas {names : List String} (h : ∀ name ∈ names, Text.isName name = true) :
    parameters (", ".intercalate names).toList = names := by
  have hseparator : ", ".toList = [',', ' '] := rfl
  rw [String.toList_intercalate, ← Text.join_eq_intercalate, hseparator]
  cases names with
  | nil => rfl
  | cons first rest =>
    obtain ⟨hfirst, hrest⟩ := List.forall_mem_cons.1 h
    have hcomma : ∀ name, Text.isName name = true → ',' ∉ name.toList := fun name hname =>
      Text.not_mem_of_isName hname (by decide)
    have htrim : ∀ blanks : List Char, (∀ c ∈ blanks, Text.isBlank c = true) →
        ∀ name, Text.isName name = true →
          String.ofList (Text.trim (blanks ++ name.toList)) = name := by
      intro blanks hblanks name hname
      rw [Text.trim_append_name hblanks hname, String.ofList_toList]
    -- a row with a name begins with the first letter of this name
    have hsolid :
        isBlankText (Text.join [',', ' '] ((first :: rest).map String.toList)) = false := by
      obtain ⟨c, cs, hcs, -⟩ := Text.exists_of_isName hfirst
      have hc : Text.isBlank c = false := Text.isBlank_of_isIdentifierPart
        (Text.isIdentifierPart_of_isName hfirst c (hcs ▸ List.mem_cons_self))
      rw [List.map_cons, hcs, Text.join_cons_head]
      show (Text.isBlank c && _) = false
      rw [hc, Bool.false_and]
    unfold parameters
    rw [hsolid, if_neg Bool.false_ne_true, List.map_cons,
      Text.pieces_commas (hcomma first hfirst)
        (List.forall_mem_map.2 fun name hname => hcomma name (hrest name hname)),
      List.map_cons, List.map_map, List.map_map]
    congr 1
    · exact htrim [] (List.forall_mem_nil _) first hfirst
    · have hrow : rest.map (fun name => String.ofList (Text.trim ([' '] ++ name.toList))) =
          rest.map id := List.map_congr_left fun name hname =>
        htrim [' '] (List.forall_mem_singleton.2 (by decide)) name (hrest name hname)
      rw [List.map_id] at hrow
      exact hrow

/-- A method is read back from its first line. -/
theorem signature?_header {m : Method} (hname : '(' ∉ m.name.toList)
    (hparams : ')' ∉ m.params.toList) :
    signature? m.header.toList = some (m.name, parameters m.params.toList) := by
  have hbefore : ∀ c ∈ m.name.toList, (c != '(') = true := fun c hc => by
    rw [bne_iff_ne]
    exact fun same => hname (same ▸ hc)
  have hinside : ∀ c ∈ m.params.toList, (c != ')') = true := fun c hc => by
    rw [bne_iff_ne]
    exact fun same => hparams (same ▸ hc)
  have hfront : "    def ".toList.isPrefixOf m.header.toList = true := by
    rw [Method.header_toList, List.isPrefixOf_iff_prefix]
    exact List.prefix_append _ _
  have hrest : m.header.toList.drop "    def ".toList.length =
      m.name.toList ++ '(' :: (m.params ++ "):").toList := by
    rw [Method.header_toList, List.drop_left]
  have hclose : (m.params ++ "):").toList = m.params.toList ++ ')' :: [':'] := by
    rw [String.toList_append]
    rfl
  unfold signature?
  rw [if_pos hfront]
  dsimp only
  rw [hrest, List.takeWhile_append_of_pos hbefore, List.takeWhile_cons_of_neg (by decide),
    List.dropWhile_append_of_pos hbefore, List.dropWhile_cons_of_neg (by decide),
    List.drop_one, List.tail_cons, hclose, List.takeWhile_append_of_pos hinside,
    List.takeWhile_cons_of_neg (by decide), List.append_nil, List.append_nil, String.ofList_toList]

/-- A line that belongs to a method is no first line of one. -/
theorem signature?_of_isBelow {header line : List Char} (hheader : indentation header = 4)
    (h : isBelow header line = true) : signature? line = none := by
  unfold signature?
  rw [if_neg]
  intro hfront
  obtain ⟨rest, rfl⟩ := List.isPrefixOf_iff_prefix.1 hfront
  have hsolid : isBlankText ("    def ".toList ++ rest) = false := by
    rw [Text.isBlankText_append]
    rfl
  have hwidth : indentation ("    def ".toList ++ rest) = 4 := rfl
  unfold isBelow at h
  rw [hsolid, hheader, hwidth] at h
  exact absurd h (by decide)

/-- A line without an indentation is no first line of a method. -/
theorem signature?_of_head?_ne {line : List Char} (h : line.head? ≠ some ' ') :
    signature? line = none := by
  unfold signature?
  rw [if_neg]
  intro hfront
  obtain ⟨rest, rfl⟩ := List.isPrefixOf_iff_prefix.1 hfront
  exact h rfl

/-- Methods that have names, and names for their parameters. -/
def Method.IsReadable (m : Method) : Prop := '(' ∉ m.name.toList ∧ ')' ∉ m.params.toList

theorem Method.filterMap_block {m : Method} (h : m.IsReadable) {gap : List (List Char)}
    (hgap : ∀ line ∈ gap, isBlankText line = true) :
    (m.block gap).all.filterMap signature? = [(m.name, parameters m.params.toList)] := by
  have hstands := m.standsAt_block hgap
  have hinner : (m.block gap).inner.filterMap signature? = [] :=
    List.filterMap_eq_nil_iff.2 fun line hline =>
      signature?_of_isBelow hstands.width_eq (hstands.below line hline)
  unfold Block.all
  rw [List.filterMap_cons, Method.header_block, signature?_header h.1 h.2, hinner]

/-- The signatures of a class are those of its methods, whatever these do. -/
theorem Method.filterMap_blocks {methods : List Method} (h : ∀ m ∈ methods, m.IsReadable) :
    ((Method.blocks methods).flatMap Block.all).filterMap signature? =
      methods.map fun m => (m.name, parameters m.params.toList) := by
  induction methods using Method.blocks.induct with
  | case1 => rfl
  | case2 last =>
    have hlast := @Method.filterMap_block last (List.forall_mem_singleton.1 h) []
      (List.forall_mem_nil _)
    rw [Method.blocks, List.flatMap_singleton, hlast]
    rfl
  | case3 first second rest ih =>
    obtain ⟨hfirst, hothers⟩ := List.forall_mem_cons.1 h
    have hgap : ∀ line ∈ [[]], isBlankText line = true := List.forall_mem_singleton.2 rfl
    rw [Method.blocks, List.flatMap_cons, List.filterMap_append,
      Method.filterMap_block hfirst hgap, ih hothers]
    rfl

/-! ### Headers -/

/-- The header of a method in the template of a class: the name of the method, the parameters that
    the template has for it, and the key under which the settings name the others. -/
structure Header where
  method : String
  own : List String
  key : String

namespace Header

/-- The parameters of a method. -/
def names (header : Header) (settings : Entries) : List String :=
  header.own ++ settings.texts header.key

/-- The template has names, and under its key the settings have a list of names. -/
structure IsSound (header : Header) (schema : Schema) : Prop where
  method : '(' ∉ header.method.toList
  own : ∀ name ∈ header.own, Text.isName name = true
  distinct : header.own.Nodup
  field : ∃ field ∈ schema, field.key = header.key ∧ field.shape = .sequence .name

theorem isSound_of_mem {headers : List Header} {schema : Schema}
    (hnames : ∀ header ∈ headers, '(' ∉ header.method.toList ∧
      (∀ name ∈ header.own, Text.isName name = true) ∧ header.own.Nodup)
    (hfields : ∀ header ∈ headers, ∃ field ∈ schema,
      field.key = header.key ∧ field.shape = .sequence .name) :
    ∀ header ∈ headers, header.IsSound schema := by
  intro header hheader
  obtain ⟨hmethod, hown, hdistinct⟩ := hnames header hheader
  exact ⟨hmethod, hown, hdistinct, hfields header hheader⟩

/-- All parameters are names. -/
theorem IsSound.isName {header : Header} {schema : Schema} (h : header.IsSound schema)
    (hkeys : schema.keys.Nodup) {settings : Entries} (hfits : schema.Fits settings) :
    ∀ name ∈ header.names settings, Text.isName name = true := by
  obtain ⟨field, hfield, hkey, hshape⟩ := h.field
  refine List.forall_mem_append.2 ⟨h.own, fun name hname => ?_⟩
  exact Schema.isName_of_mem_texts hfits hkeys hfield hkey hshape hname

/-- Parameters are repeated only where the settings repeat one, or name one of the template's. -/
theorem IsSound.nodup_iff {header : Header} {schema : Schema} (h : header.IsSound schema)
    (settings : Entries) : (header.names settings).Nodup ↔
      (settings.texts header.key).Nodup ∧
        ∀ name ∈ header.own, name ∉ settings.texts header.key := by
  unfold names
  rw [List.nodup_append]
  constructor
  · intro ⟨_, hdistinct, hapart⟩
    exact ⟨hdistinct, fun name hown hgiven => hapart name hown name hgiven rfl⟩
  · intro ⟨hdistinct, hapart⟩
    exact ⟨h.distinct, hdistinct, fun name hown other hother same =>
      hapart name hown (same ▸ hother)⟩

/-- The parameters as they stand in the header. -/
def row (header : Header) (settings : Entries) : String :=
  ", ".intercalate (header.names settings)

theorem IsSound.not_mem_row {header : Header} {schema : Schema} (h : header.IsSound schema)
    (hkeys : schema.keys.Nodup) {settings : Entries} (hfits : schema.Fits settings) :
    ')' ∉ (header.row settings).toList := by
  unfold row
  rw [String.toList_intercalate, ← Text.join_eq_intercalate]
  refine Text.not_mem_join (by decide) (List.forall_mem_map.2 fun name hname => ?_)
  exact Text.not_mem_of_isName (h.isName hkeys hfits name hname) (by decide)

end Header

/-- The signatures of methods with these headers. -/
def signaturesOf (headers : List Header) (settings : Entries) : List (String × List String) :=
  headers.map fun header => (header.method, header.names settings)

/-- The signatures of a class with these headers are what the template and the settings say. -/
theorem signatures_of_lines {headers : List Header} {schema : Schema} {settings : Entries}
    (hkeys : schema.keys.Nodup) (hfits : schema.Fits settings)
    (hsound : ∀ header ∈ headers, header.IsSound schema) {methods : List Method}
    (hmethods : methods.map (fun m => (m.name, m.params)) =
      headers.map fun header => (header.method, header.row settings))
    {top : List Char} (htop : top.head? ≠ some ' ') {code : String}
    (hlines : lines code.toList = top :: (Method.blocks methods).flatMap Block.all) :
    signatures code = signaturesOf headers settings := by
  have hreadable : ∀ m ∈ methods, m.IsReadable := by
    intro m hm
    have hpair : (m.name, m.params) ∈
        headers.map fun header => (header.method, header.row settings) :=
      hmethods ▸ List.mem_map_of_mem hm
    obtain ⟨header, hheader, hsame⟩ := List.mem_map.1 hpair
    obtain ⟨hname, hparams⟩ := Prod.mk.inj hsame
    have hown := hsound header hheader
    exact ⟨hname ▸ hown.method, hparams ▸ hown.not_mem_row hkeys hfits⟩
  have hread : (methods.map fun m => (m.name, m.params)).map
        (fun pair => (pair.1, parameters pair.2.toList)) =
      methods.map fun m => (m.name, parameters m.params.toList) := List.map_map
  unfold signatures
  rw [hlines, List.filterMap_cons, signature?_of_head?_ne htop]
  dsimp only
  rw [Method.filterMap_blocks hreadable, ← hread, hmethods, List.map_map]
  refine List.map_congr_left fun header hheader => Prod.ext rfl ?_
  exact parameters_commas ((hsound header hheader).isName hkeys hfits)

/-! ### Classes -/

/-- A plugin whose code is a class with these headers, and that accepts settings whatever names they
    have for the parameters of a method, if it has any parameters. -/
structure HasHeaders (plugin : Plugin) (headers : List Header) : Prop where
  keys : plugin.info.schema.keys.Nodup
  sound : ∀ header ∈ headers, header.IsSound plugin.info.schema
  methods : (headers.map (·.method)).Nodup
  rows : (headers.map (·.key)).Nodup
  signatures_eq : ∀ given inside settings code,
    plugin.info.schema.parseValue plugin.info.typeKey given = .ok settings →
      plugin.emit given inside = .ok code → signatures code = signaturesOf headers settings
  parses : ∀ given inside code, plugin.emit given inside = .ok code →
    ∃ settings, plugin.info.schema.parseValue plugin.info.typeKey given = .ok settings
  accepts : ∀ given inside settings code,
    plugin.info.schema.parseValue plugin.info.typeKey given = .ok settings →
      plugin.emit given inside = .ok code → ∀ header ∈ headers, ∀ names : List String,
        header.own ++ names ≠ [] → ∀ other,
          plugin.info.schema.parseValue plugin.info.typeKey other =
              .ok (settings.set header.key (Dataset.names names)) →
            ∃ renamed, plugin.emit other inside = .ok renamed

namespace Dataset

/-- The methods of a data set get all their parameters from the settings. -/
def headers : List Header :=
  [⟨"__init__", [], "constructorParams"⟩, ⟨"__len__", [], "lenParams"⟩,
   ⟨"__getitem__", [], "getitemParams"⟩]

theorem isSound_of_mem_headers : ∀ header ∈ headers, header.IsSound schema :=
  Header.isSound_of_mem (by decide) (by simp [headers, schema, withStandard])

theorem hasHeaders : HasHeaders plugin headers where
  keys := by decide
  sound := isSound_of_mem_headers
  methods := by decide
  rows := by decide
  signatures_eq := by
    intro given inside settings code hsettings h
    obtain ⟨-, parsed, hparsed, hvalid⟩ := emit_eq_ok.1 h
    obtain rfl := Except.ok.inj (hparsed.symm.trans hsettings)
    obtain ⟨-, rfl⟩ := emitValid_eq_ok.1 hvalid
    exact signatures_of_lines (by decide) (Schema.fits_of_parseValue hsettings)
      isSound_of_mem_headers rfl (by simp) (lines_code hsettings)
  parses := by
    intro given inside code h
    obtain ⟨-, settings, hsettings, -⟩ := emit_eq_ok.1 h
    exact ⟨settings, hsettings⟩
  accepts := by
    intro given inside settings code hsettings h header hheader names hnames other hother
    obtain ⟨hgiven, parsed, hparsed, hvalid⟩ := emit_eq_ok.1 h
    obtain rfl := Except.ok.inj (hparsed.symm.trans hsettings)
    obtain ⟨hfilled, -⟩ := emitValid_eq_ok.1 hvalid
    have hown : ∀ header ∈ headers, header.own = [] := by decide
    rw [hown header hheader, List.nil_append] at hnames
    refine ⟨_, emit_eq_ok.2 ⟨hgiven, _, hother, emitValid_eq_ok.2 ⟨fun key hkey => ?_, rfl⟩⟩⟩
    by_cases hsame : key = header.key
    · rw [hsame, Entries.texts_set_self]
      exact hnames
    · rw [Entries.texts_set_of_ne hsame]
      exact hfilled key hkey

end Dataset

namespace Module

/-- The methods of a module get the module itself from the template. -/
def headers : List Header :=
  [⟨"__init__", ["self"], "constructorParams"⟩, ⟨"forward", ["self"], "forwardParams"⟩]

theorem isSound_of_mem_headers : ∀ header ∈ headers, header.IsSound schema :=
  Header.isSound_of_mem (by decide) (by simp [headers, schema, withStandard])

/-- Whether there are statements for `forward` depends on the data flow alone. -/
theorem exists_forward_of_text_eq {settings other : Entries} {names : List String} {flow : String}
    (htext : other.text "dataFlow" = settings.text "dataFlow")
    (h : forward settings names = .ok flow) : ∃ flow, forward other names = .ok flow := by
  rw [forward_eq] at h ⊢
  rw [htext]
  split at h
  · next hblank =>
    rw [if_pos hblank]
    exact ⟨_, rfl⟩
  · next hsolid =>
    rw [if_neg hsolid]
    exact ⟨flow, h⟩

theorem hasHeaders : HasHeaders plugin headers where
  keys := by decide
  sound := isSound_of_mem_headers
  methods := by decide
  rows := by decide
  signatures_eq := by
    intro given inside settings code hsettings h
    obtain ⟨_, bound, flow, -, -, -, rfl⟩ := exists_of_emit hsettings h
    exact signatures_of_lines (by decide) (Schema.fits_of_parseValue hsettings)
      isSound_of_mem_headers rfl (by simp) (lines_code hsettings bound flow)
  parses := by
    intro given inside code h
    obtain ⟨settings, hsettings, -⟩ := Result.bind_eq_ok.1 h
    exact ⟨settings, hsettings⟩
  accepts := by
    intro given inside settings code hsettings h header hheader names _ other hother
    obtain ⟨parts, bound, flow, hparts, hbound, hflow, -⟩ := exists_of_emit hsettings h
    have hkeys : ∀ header ∈ headers, "dataFlow" ≠ header.key := by decide
    have htext : (settings.set header.key (Dataset.names names)).text "dataFlow" =
        settings.text "dataFlow" := by
      unfold Entries.text
      rw [Entries.get?_set_of_ne (hkeys header hheader)]
    obtain ⟨renamed, hrenamed⟩ := exists_forward_of_text_eq htext hflow
    have hemit := emit_eq hother hparts hbound
    rw [hrenamed] at hemit
    exact ⟨_, hemit⟩

end Module

/-! ### Signatures as given -/

/-- The node types whose code is a class, with the headers of its methods. -/
def classes : List (Plugin × List Header) :=
  [(Dataset.plugin, Dataset.headers), (Module.plugin, Module.headers)]

theorem hasHeaders_of_mem_classes {plugin : Plugin} {headers : List Header}
    (h : (plugin, headers) ∈ classes) : HasHeaders plugin headers := by
  rcases List.mem_cons.1 h with hfirst | h
  · obtain ⟨rfl, rfl⟩ := Prod.mk.inj hfirst
    exact Dataset.hasHeaders
  · obtain ⟨rfl, rfl⟩ := Prod.mk.inj (List.mem_singleton.1 h)
    exact Module.hasHeaders

/-- Naming the parameters of one method anew changes its signature and no other one. -/
theorem signaturesOf_set {plugin : Plugin} {headers : List Header} (h : HasHeaders plugin headers)
    {header : Header} (hheader : header ∈ headers) (settings : Entries) (names : List String) :
    signaturesOf headers (settings.set header.key (Dataset.names names)) =
      (signaturesOf headers settings).map fun signature =>
        if signature.1 = header.method then (header.method, header.own ++ names)
        else signature := by
  unfold signaturesOf
  rw [List.map_map]
  refine List.map_congr_left fun other hother => ?_
  by_cases hsame : other = header
  · subst hsame
    rw [Function.comp_apply, if_pos rfl, Header.names, Entries.texts_set_self]
  · have hmethod : other.method ≠ header.method := fun heq =>
      hsame (List.inj_on_of_nodup_map h.methods hother hheader heq)
    have hkey : other.key ≠ header.key := fun heq =>
      hsame (List.inj_on_of_nodup_map h.rows hother hheader heq)
    rw [Function.comp_apply, if_neg hmethod, Header.names, Header.names,
      Entries.texts_set_of_ne hkey]

/-- With other names for the parameters of one method there is code again, with these parameters in
    this method and all others as they were. -/
theorem HasHeaders.exists_renamed {plugin : Plugin} {headers : List Header}
    (h : HasHeaders plugin headers) {given : Entries} {inside : Inside} {code : String}
    (hdistinct : given.keys.Nodup) (hcode : plugin.emit (.ofEntries given) inside = .ok code)
    (header : Header) (hheader : header ∈ headers) (names : List String)
    (hnames : ∀ name ∈ names, Text.isName name = true) (hsome : header.own ++ names ≠ []) :
    ∃ renamed, plugin.emit (.ofEntries (given.set header.key (Dataset.names names))) inside =
        .ok renamed ∧
      signatures renamed = (signatures code).map fun signature =>
        if signature.1 = header.method then (header.method, header.own ++ names)
        else signature := by
  obtain ⟨settings, hsettings⟩ := h.parses _ inside code hcode
  obtain ⟨field, hfield, hkey, hshape⟩ := (h.sound header hheader).field
  have hupdated := Schema.parseValue_update h.keys hdistinct hsettings hfield
    (v := Dataset.names names) nofun (hshape ▸ Shape.check_names hnames)
  rw [hkey] at hupdated
  obtain ⟨renamed, hrenamed⟩ := h.accepts _ inside settings code hsettings hcode header hheader
    names hsome _ hupdated
  refine ⟨renamed, hrenamed, ?_⟩
  rw [h.signatures_eq _ inside _ renamed hupdated hrenamed,
    h.signatures_eq _ inside settings code hsettings hcode, signaturesOf_set h hheader]

/-- The signatures in the code of a data set and of a module have the parameters that were given.

    If there is code, then the settings are valid, and each method of the class has the parameters
    of its template and those in the settings, all of them in their order. All are names; and they
    are pairwise distinct exactly if those in the settings are and none of them is `self` where the
    template has it. Whatever names are given for one method instead, with as many repetitions as
    there may be, there is code again, with these parameters in this method and all others as they
    were. Only a data set with no name at all for a method is excepted. -/
theorem signatures_as_given {plugin : Plugin} {headers : List Header}
    (hclass : (plugin, headers) ∈ classes) :
    (∀ given inside code, plugin.emit given inside = .ok code →
      ∃ settings, plugin.info.schema.parseValue plugin.info.typeKey given = .ok settings ∧
        signatures code = headers.map (fun header =>
          (header.method, header.own ++ settings.texts header.key)) ∧
        (∀ signature ∈ signatures code, ∀ name ∈ signature.2, Text.isName name = true) ∧
        ((∀ signature ∈ signatures code, signature.2.Nodup) ↔
          ∀ header ∈ headers, (settings.texts header.key).Nodup ∧
            ∀ name ∈ header.own, name ∉ settings.texts header.key)) ∧
    (∀ given inside code, given.keys.Nodup → plugin.emit (.ofEntries given) inside = .ok code →
      ∀ header ∈ headers, ∀ names, (∀ name ∈ names, Text.isName name = true) →
        header.own ++ names ≠ [] →
          ∃ renamed, plugin.emit (.ofEntries (given.set header.key (Dataset.names names))) inside =
              .ok renamed ∧
            signatures renamed = (signatures code).map fun signature =>
              if signature.1 = header.method then (header.method, header.own ++ names)
              else signature) := by
  have h := hasHeaders_of_mem_classes hclass
  constructor
  · intro given inside code hcode
    obtain ⟨settings, hsettings⟩ := h.parses given inside code hcode
    have hsignatures := h.signatures_eq given inside settings code hsettings hcode
    have hfits := Schema.fits_of_parseValue hsettings
    refine ⟨settings, hsettings, hsignatures, ?_, ?_⟩
    · rw [hsignatures]
      refine List.forall_mem_map.2 fun header hheader => ?_
      exact (h.sound header hheader).isName h.keys hfits
    · rw [hsignatures]
      unfold signaturesOf
      rw [List.forall_mem_map]
      refine forall₂_congr fun header hheader => ?_
      exact (h.sound header hheader).nodup_iff settings
  · intro given inside code hdistinct hcode header hheader names hnames hsome
    exact h.exists_renamed hdistinct hcode header hheader names hnames hsome

/-- What a module without layers holds. -/
def nothingInside : Inside := Child.none.inside registry.resolve

/-- A module without layers and without settings. -/
theorem exists_plainModule : ∃ code, Module.emit (.ofEntries []) nothingInside = .ok code ∧
    signatures code = [("__init__", ["self"]), ("forward", ["self", "x"])] := by
  have hcode : Module.emit (.ofEntries []) nothingInside = .ok _ :=
    Module.emit_chain Module.parseValue_none rfl rfl rfl
  exact ⟨_, hcode, Module.hasHeaders.signatures_eq _ _ _ _ Module.parseValue_none hcode⟩

/-- A data set without settings. -/
theorem exists_plainDataset : ∃ code, Dataset.emit (.ofEntries []) nothingInside = .ok code ∧
    signatures code =
      [("__init__", ["self"]), ("__len__", ["self"]), ("__getitem__", ["self", "idx"])] := by
  have hsettings : Dataset.schema.parseValue Dataset.typeKey (.ofEntries []) =
      .ok [("className", .str "CustomDataset"), ("constructorParams", Dataset.names ["self"]),
        ("initCode", .str ""), ("lenParams", Dataset.names ["self"]), ("lenCode", .str ""),
        ("getitemParams", Dataset.names ["self", "idx"]), ("getitemCode", .str "")] := by
    cbv
  have hfilled : ∀ key ∈ Dataset.parameterKeys, Entries.texts
      [("className", .str "CustomDataset"), ("constructorParams", Dataset.names ["self"]),
        ("initCode", .str ""), ("lenParams", Dataset.names ["self"]), ("lenCode", .str ""),
        ("getitemParams", Dataset.names ["self", "idx"]), ("getitemCode", .str "")] key ≠ [] := by
    decide
  have hnothing : nothingInside.given = false := rfl
  have hcode : Dataset.emit (.ofEntries []) nothingInside = .ok _ :=
    emit_eq_ok.2 ⟨hnothing, _, hsettings, Dataset.emitValid_eq_ok.2 ⟨hfilled, rfl⟩⟩
  exact ⟨_, hcode, Dataset.hasHeaders.signatures_eq _ nothingInside _ _ hsettings hcode⟩

/-- A name that is given twice for `forward` stands there twice. -/
theorem signatures_as_given_twice : ∃ code,
    Module.emit (.ofEntries [("forwardParams", Dataset.names ["x", "y", "x"])]) nothingInside =
        .ok code ∧
      signatures code = [("__init__", ["self"]), ("forward", ["self", "x", "y", "x"])] := by
  obtain ⟨plain, hplain, hsignatures⟩ := exists_plainModule
  have hclass : (Module.plugin, Module.headers) ∈ classes := by simp [classes]
  have hempty : (Entries.keys []).Nodup := List.nodup_nil
  obtain ⟨code, hcode, hrenamed⟩ := (signatures_as_given hclass).2 [] nothingInside plain
    hempty hplain ⟨"forward", ["self"], "forwardParams"⟩ (by simp [Module.headers])
    ["x", "y", "x"] (by decide) (by decide)
  refine ⟨code, hcode, ?_⟩
  rw [hrenamed, hsignatures]
  rfl

/-- A `self` that is given to a module, and parameters that are given twice, are accepted and stand
    in one signature. -/
theorem emit_repeatedParameter :
    (∃ code, Module.emit (.ofEntries [("constructorParams", Dataset.names ["self"])])
        nothingInside = .ok code ∧
      signatures code = [("__init__", ["self", "self"]), ("forward", ["self", "x"])]) ∧
    (∃ code, Module.emit (.ofEntries [("forwardParams", Dataset.names ["x", "x"])])
        nothingInside = .ok code ∧
      signatures code = [("__init__", ["self"]), ("forward", ["self", "x", "x"])]) ∧
    ∃ code, Dataset.emit (.ofEntries [("lenParams", Dataset.names ["self", "self"])])
        nothingInside = .ok code ∧
      signatures code = [("__init__", ["self"]), ("__len__", ["self", "self"]),
        ("__getitem__", ["self", "idx"])] := by
  obtain ⟨module, hmodule, hmethods⟩ := exists_plainModule
  obtain ⟨dataset, hdataset, hthree⟩ := exists_plainDataset
  have hempty : (Entries.keys []).Nodup := List.nodup_nil
  refine ⟨?init, ?forward, ?len⟩
  case init =>
    have hrenamed := Module.hasHeaders.exists_renamed hempty hmodule
      ⟨"__init__", ["self"], "constructorParams"⟩ (by simp [Module.headers]) ["self"] (by decide)
      (by decide)
    rw [hmethods] at hrenamed
    exact hrenamed
  case forward =>
    have hrenamed := Module.hasHeaders.exists_renamed hempty hmodule
      ⟨"forward", ["self"], "forwardParams"⟩ (by simp [Module.headers]) ["x", "x"] (by decide)
      (by decide)
    rw [hmethods] at hrenamed
    exact hrenamed
  case len =>
    have hrenamed := Dataset.hasHeaders.exists_renamed hempty hdataset
      ⟨"__len__", [], "lenParams"⟩ (by simp [Dataset.headers]) ["self", "self"] (by decide)
      (by decide)
    rw [hthree] at hrenamed
    exact hrenamed

end Node

end LayerGraph
