import LayerGraph.Mismatch
import LayerGraph.Value.Literal

/-! # Errors

    Why a graph yields no program. Each error is a cause; its kind, its words and the object that
    callers are shown are functions of it. The kinds that the submitted graph is to blame for are
    the *user* kinds. A `Failure` is an error or one of the few faults that are nobody's input.
-/

namespace LayerGraph

/-! ### Reasons -/

/-- What keeps the statements of a data flow from being read. -/
inductive FlowFault where
  | openBracket (line : Nat)
  | openString (line column : Nat)
  | looseIndent (line : Nat)
deriving DecidableEq, Repr

/-- The words for a fault of a data flow. -/
def FlowFault.text : FlowFault → String
  | .openBracket line => s!"('EOF in multi-line statement', ({line}, 0))"
  | .openString line column => s!"('EOF in multi-line string', ({line}, {column}))"
  | .looseIndent line =>
    s!"unindent does not match any outer indentation level (<tokenize>, line {line})"

/-- Why the value of a setting is refused. -/
inductive Reason where
  | mismatch (fault : Mismatch)
  | unrecognized
  | notSettings
  | childRefused
  | groupsDoNotDivide
  | endBeforeStart
  | paddingTooLarge
  | nesterovAlone
  | noParameter
  | noVariable
  | manyLines
  /-- A child asks for a name that cannot be an attribute; `shown` quotes it. -/
  | childName (index : Nat) (shown : String)
  | duplicateAttribute (name : String)
  | notExpression (index : Nat) (type : String)
  | unreadable (fault : FlowFault)
  | undefinedLayer (name : String) (line : Nat)
  | assignsLayer (name : String) (line : Nat)
  /-- A reason of a plugin that is not built in. -/
  | other (text : String)
deriving DecidableEq, Repr

/-- The words for a reason. -/
def Reason.text : Reason → String
  | .mismatch fault => fault.text
  | .unrecognized => "unrecognized setting"
  | .notSettings => "settings must be an object"
  | .childRefused => "this node does not accept child layers"
  | .groupsDoNotDivide => "inChannels and outChannels must both be divisible by groups"
  | .endBeforeStart => "endDim must not come before startDim"
  | .paddingTooLarge => "padding should be at most half of kernelSize"
  | .nesterovAlone => "Nesterov momentum requires a momentum and zero dampening"
  | .noParameter => "a method needs at least the 'self' parameter"
  | .noVariable => "at least one variable is required"
  | .manyLines => "condition must be a single line"
  | .childName index shown => s!"child {index} has an invalid variableName: {shown}"
  | .duplicateAttribute name => s!"duplicate layer attribute {Text.quoted name}"
  | .notExpression index type => s!"child {index} ({type}) is not a single-expression layer"
  | .unreadable fault => s!"cannot be tokenized: {fault.text}"
  | .undefinedLayer name line => s!"undefined layer 'self.{name}' at line {line}"
  | .assignsLayer name line =>
    s!"cannot assign to layer attribute {Text.quoted name} at line {line}"
  | .other text => text

/-- What is wrong with the text of a template. -/
inductive TemplateFault where
  | loneOpen
  | loneClose
  | openInName
  | expectedClose
  | endInConversion
  | noColonAfterConversion
  | unmatchedInSpec
  | badPlaceholder (name : String)
  | hasSpec (name : String)
  | other (text : String)
deriving DecidableEq, Repr

/-- The words for a fault of a template. -/
def TemplateFault.text : TemplateFault → String
  | .loneOpen => "Single '\x7b' encountered in format string"
  | .loneClose => "Single '\x7d' encountered in format string"
  | .openInName => "unexpected '\x7b' in field name"
  | .endInConversion => "end of string while looking for conversion specifier"
  | .noColonAfterConversion => "expected ':' after conversion specifier"
  | .expectedClose => "expected '\x7d' before end of string"
  | .unmatchedInSpec => "unmatched '\x7b' in format spec"
  | .badPlaceholder name => "invalid placeholder \x7b" ++ name ++ "\x7d"
  | .hasSpec name => "format spec not allowed in \x7b" ++ name ++ "\x7d"
  | .other text => text

/-- Why a graph document is refused. -/
inductive GraphFault where
  /-- The document is of a type that cannot hold layers. -/
  | notGraph (typeName : String)
  /-- A layer is malformed at a path of keys. -/
  | layer (path : List String) (fault : Mismatch)
  /-- A child handed to a plugin is malformed. -/
  | child (fault : Mismatch)
  /-- A graph file cannot be read; `detail` says where and why, if that is known. -/
  | unreadable (file : String) (detail : Option String)
  /-- A graph file has an ending that says nothing about its format. -/
  | unknownEnding (shown : String)
  | other (text : String)
deriving DecidableEq, Repr

/-- The words for a fault of a document. -/
def GraphFault.text : GraphFault → String
  | .notGraph typeName => s!"Model graph must be an object or an array, got {typeName}"
  | .layer path fault => "Malformed layer (" ++ ".".intercalate path ++ "): " ++ fault.text
  | .child fault => s!"Malformed child layer: {fault.text}"
  | .unreadable file none => s!"Could not parse {file}"
  | .unreadable file (some detail) => s!"Could not parse {file}: {detail}"
  | .unknownEnding shown =>
    s!"Unsupported graph file type {Text.quoted shown}, expected .json, .yaml or .yml"
  | .other text => text

/-- Why the factory of a plugin gave no plugin. -/
inductive FactoryFault where
  /-- It failed with an exception of this class and these words. -/
  | raised (className words : String)
  | notPlugin
  | other (text : String)
deriving DecidableEq, Repr

/-- The words for a fault of a factory. -/
def FactoryFault.text : FactoryFault → String
  | .raised className words => s!"{className}: {words}"
  | .notPlugin => "factory did not return a node plugin"
  | .other text => text

/-! ### Errors -/

/-- The kinds of errors that callers are told apart. -/
inductive ErrorKind where
  | unknownNodeType
  | missingRequiredSetting
  | invalidSettingValue
  | pluginResolution
  | invalidGraph
  | internal
deriving DecidableEq, Repr

namespace ErrorKind

/-- The name of a kind. -/
def text : ErrorKind → String
  | .unknownNodeType => "unknown_node_type"
  | .missingRequiredSetting => "missing_required_setting"
  | .invalidSettingValue => "invalid_setting_value"
  | .pluginResolution => "plugin_resolution_error"
  | .invalidGraph => "invalid_graph"
  | .internal => "internal_error"

/-- Whether the submitted graph is to blame, so that the error may be shown as it is. -/
def isUser : ErrorKind → Bool
  | .unknownNodeType | .missingRequiredSetting | .invalidSettingValue | .invalidGraph => true
  | .pluginResolution | .internal => false

end ErrorKind

/-- Why a graph yields no program. -/
inductive GraphError where
  | unknownNodeType (type : String)
  | missingRequired (nodeType : String) (keys : List String)
  | invalidSetting (nodeType key : String) (reason : Reason)
  | pluginResolution (nodeType : String) (fault : FactoryFault)
  /-- A template is malformed, or values for placeholders are missing. -/
  | template (name : String) (missing : List String) (fault : Option TemplateFault)
  | invalidGraph (fault : GraphFault) (nodeType key : Option String)
  /-- Any other defect, with its words. -/
  | internal (words : String) (nodeType key : Option String)
deriving DecidableEq, Repr

namespace GraphError

/-- The kind of an error. -/
def kind : GraphError → ErrorKind
  | .unknownNodeType _ => .unknownNodeType
  | .missingRequired .. => .missingRequiredSetting
  | .invalidSetting .. => .invalidSettingValue
  | .pluginResolution .. => .pluginResolution
  | .template .. => .internal
  | .invalidGraph .. => .invalidGraph
  | .internal .. => .internal

/-- The part of a template's message that lists placeholders without a value. -/
def missingText (missing : List String) : String :=
  if missing.isEmpty then "" else " has unresolved placeholders: " ++ ", ".intercalate missing

/-- The part of a template's message that says what is wrong with its text. -/
def detailText (fault : Option TemplateFault) : String :=
  match fault with
  | some fault => if fault.text.isEmpty then "" else s!" ({fault.text})"
  | none => ""

/-- The message of an error. -/
def message : GraphError → String
  | .unknownNodeType type => s!"Unknown node type: {Text.quoted type}"
  | .missingRequired nodeType keys =>
    s!"Missing required settings for {nodeType}: " ++ ", ".intercalate keys
  | .invalidSetting nodeType key reason => s!"Invalid value for {nodeType}.{key}: {reason.text}"
  | .pluginResolution nodeType fault =>
    s!"Could not resolve plugin for {Text.quoted nodeType}: {fault.text}"
  | .template name missing fault =>
    s!"Template {Text.quoted name}" ++ missingText missing ++ detailText fault
  | .invalidGraph fault _ _ => fault.text
  | .internal words _ _ => words

/-- The node type that an error is about. -/
def nodeType? : GraphError → Option String
  | .unknownNodeType type => some type
  | .missingRequired nodeType _ => some nodeType
  | .invalidSetting nodeType _ _ => some nodeType
  | .pluginResolution nodeType _ => some nodeType
  | .template .. => none
  | .invalidGraph _ nodeType _ => nodeType
  | .internal _ nodeType _ => nodeType

/-- The setting that an error is about. Of several missing settings none is singled out. -/
def key? : GraphError → Option String
  | .missingRequired _ [key] => some key
  | .invalidSetting _ key _ => some key
  | .invalidGraph _ _ key => key
  | .internal _ _ key => key
  | _ => none

/-- The settings that are missing, for an error that lists them. -/
def keys? : GraphError → Option (List String)
  | .missingRequired _ keys => some keys
  | _ => none

/-- An error as the object that callers are shown. -/
def toEntries (e : GraphError) : Entries :=
  [("kind", .str e.kind.text), ("message", .str e.message)]
    ++ (e.nodeType?.map fun nodeType => ("nodeType", Value.str nodeType)).toList
    ++ (e.key?.map fun key => ("key", Value.str key)).toList
    ++ (e.keys?.map fun keys => ("keys", Value.list (keys.map .str))).toList

/-- The status of an answer that reports the error. -/
def status (e : GraphError) : Nat :=
  if e.kind.isUser then 422 else if e.kind = .pluginResolution then 502 else 500

end GraphError

/-! ### Error objects -/

/-- An object that tells an error of a kind with a message, whatever else it tells. -/
structure TellsError (entries : Entries) (kind message : String) : Prop where
  kind : entries.get? "kind" = some (.str kind)
  message : entries.get? "message" = some (.str message)

theorem tellsError_cons (kind message : String) (more : Entries) :
    TellsError (("kind", .str kind) :: ("message", .str message) :: more) kind message where
  kind := rfl
  message := rfl

/-- An error tells its kind and its message, whatever else it is about. -/
theorem GraphError.tellsError (error : GraphError) :
    TellsError error.toEntries error.kind.text error.message := by
  unfold toEntries
  rw [List.append_assoc, List.append_assoc]
  exact tellsError_cons _ _ _

/-! ### Failures -/

/-- Why a scalar of a graph file is not of the type that it is said to be. -/
inductive ScalarFault where
  /-- A number without any character behind its sign. -/
  | emptyNumber
  /-- A text is no integer to that base. -/
  | notInteger (text : String) (base : Nat)
  | integerTooLong
  | notNumber
  /-- A number with so many places that one of them is beyond all numbers. -/
  | tooManyPlaces
  | notTruthValue
  | notTime
  /-- A date or time is given under the key for a value, where it is not looked for. -/
  | timeUnderKey
  /-- A date or time of day that does not exist. -/
  | noSuchTime
  /-- The number of an escape is no character's. -/
  | noSuchCharacter
deriving DecidableEq, Repr

/-- Why a file cannot be read or written. -/
inductive FileFault where
  | notFound
  | isFolder
  /-- The path leads through a file as if it were a folder. -/
  | notFolder
  /-- Another fault, with the number and the words that the system has for it. -/
  | other (code : Nat) (words : String)
deriving DecidableEq, Repr

namespace FileFault

/-- The number that the system gives a fault. -/
def number : FileFault → Nat
  | .notFound => 2
  | .isFolder => 21
  | .notFolder => 20
  | .other code _ => code

/-- The words for a fault. -/
def text : FileFault → String
  | .notFound => "No such file or directory"
  | .isFolder => "Is a directory"
  | .notFolder => "Not a directory"
  | .other _ words => words

/-- The words for a fault of the file under a path. -/
def message (fault : FileFault) (path : String) : String :=
  s!"[Errno {fault.number}] {fault.text}: {Text.quoted path}"

end FileFault

/-- Why an operation gives no answer: an error of the graph, or a fault of its own. -/
inductive Failure where
  | graph (error : GraphError)
  | noText (cause : NoText)
  /-- A plugin renders without having a template. -/
  | noTemplate (className : String)
  /-- A layer was expected and none was given. -/
  | noLayer
  /-- A plugin or a factory raised an exception that nobody caught. -/
  | raised (className words : String)
  /-- A plugin or a factory raised an exception that a web service has an answer to, with this
      status and, if it is allowed one, this content. -/
  | answered (status : Fin 1000) (content : Option Value)
  /-- Something that is no plugin was asked for what plugins have. -/
  | notPlugin
  /-- Values for a template are not under names. -/
  | notNames
  /-- A factory is registered under no key, or under one that another factory holds. -/
  | registration
  /-- Settings to be merged are neither a mapping nor a sequence of pairs. -/
  | notMergeable
  /-- An item of settings to be merged is a sequence of another length than two. -/
  | notPair
  | unknownFormatter (name : String)
  | scalar (fault : ScalarFault)
  | file (fault : FileFault) (path : String)
  /-- The bytes of a file are no text. -/
  | notText
  /-- What is read holds a surrogate without its partner. Such a text is not within the theory,
      which leaves open what becomes of it. -/
  | loneSurrogate
  /-- What is read is nested too deeply for the stack. -/
  | stackExhausted
  /-- A date lies outside the calendar. -/
  | noSuchDate
  /-- A line of a log is no entry. -/
  | notEntry
  /-- The times of two log entries cannot be compared. -/
  | incomparableTimes
  /-- A key has no form in a log. -/
  | badKey
  /-- What a node type tells about itself has no form in an answer. -/
  | notSendable

/-- The words for a failure, where it has words of its own. -/
def Failure.words? : Failure → Option String
  | .graph error => some error.message
  | .noText (.unsupported typeName) => some s!"Unsupported parameter type: {typeName}"
  | .noTemplate className => some s!"{className} declares no template"
  | .raised _ words => some words
  | .unknownFormatter name => some s!"Unknown code formatter: {Text.quoted name}"
  | .scalar (.notInteger text base) =>
    some s!"invalid literal for int() with base {base}: {Text.quoted text}"
  | .file fault path => some (fault.message path)
  | _ => none

/-- Fails with an error of the graph. -/
def refuse {α : Type} (e : GraphError) : Except Failure α := .error (.graph e)

/-- Passes on a text, or the failure to write one. -/
def orNoText {α : Type} (text : Except NoText α) : Except Failure α := text.mapError .noText

end LayerGraph
