import LayerGraph.Text.Digit
import LayerGraph.Text.Lines

/-! # Command line

    The words of a command line as arguments. A word that begins with a dash is an option, unless
    it is a single dash, looks like a negative number or has a blank in it; behind two dashes no
    word is one. A long option may be shortened as long as it is clear which one is meant, and its
    value may follow an equals sign. Short options may share a word, and a value may follow in it.
-/

namespace LayerGraph.Command

/-! ### Options -/

/-- What can be asked for by an option. -/
inductive Flag where
  | help
  | output
  | imports
  | format
deriving DecidableEq, Repr

/-- The spellings of the options. -/
def spellings : List (String × Flag) :=
  [("-h", .help), ("--help", .help), ("-o", .output), ("--output", .output),
   ("--imports", .imports), ("--format", .format)]

/-- Whether an option has a value. -/
def Flag.takesValue : Flag → Bool
  | .output | .format => true
  | .help | .imports => false

/-- The formatters that may be asked for. -/
def formatters : List String := ["none", "black"]

/-- A value in the word of an option. -/
structure Attached where
  text : String
  /-- Whether an equals sign stands before it. -/
  marked : Bool
deriving DecidableEq, Repr

/-- An option as it is spelled in a word, perhaps with its value. -/
structure Spelled where
  flag : Flag
  /-- Whether the spelling begins with a single dash. -/
  short : Bool
  value : Option Attached
deriving DecidableEq, Repr

/-- What a word is. -/
inductive Word where
  | argument (text : String)
  | option (spelled : Spelled)
  /-- A word that looks like an option but is none. -/
  | unknown (text : String)
  /-- The two dashes behind which no word is an option. -/
  | separator
deriving DecidableEq, Repr

/-! ### Reading a word -/

/-- Whether a spelling begins with a single dash. -/
def isShort (spelling : String) : Bool := spelling.toList[1]? != some '-'

/-- A word at its first equals sign. -/
def splitAtEquals (word : List Char) : Option (String × String) :=
  match word.dropWhile (· != '=') with
  | [] => none
  | _ :: behind => some (String.ofList (word.takeWhile (· != '=')), String.ofList behind)

/-- Whether a word looks like a negative number. -/
def looksNegative : List Char → Bool
  | '-' :: cs =>
    let isDigit (c : Char) : Bool := (Text.digitValue? c).isSome
    match cs.dropWhile isDigit with
    | [] => !cs.isEmpty
    | '.' :: fraction => !fraction.isEmpty && fraction.all isDigit
    | _ => false
  | _ => false

/-- The options that a long word may be short for. -/
def longCandidates (word : List Char) : List Spelled :=
  let found (start : List Char) (value : Option Attached) : List Spelled :=
    (spellings.filter fun entry => start.isPrefixOf entry.1.toList).map fun entry =>
      ⟨entry.2, isShort entry.1, value⟩
  match splitAtEquals word with
  | some (start, value) => found start.toList (some ⟨value, true⟩)
  | none => found word none

/-- The options that a word with a single dash may begin with. -/
def shortCandidates (word : List Char) : List Spelled :=
  spellings.filterMap fun entry =>
    if entry.1.toList = word.take 2 then
      some ⟨entry.2, true, some ⟨String.ofList (word.drop 2), false⟩⟩
    else if word.isPrefixOf entry.1.toList then some ⟨entry.2, isShort entry.1, none⟩
    else none

/-- An option that is spelled out, perhaps with its value behind an equals sign. -/
def spelledOut? (word : List Char) : Option Spelled :=
  match spellings.lookup (String.ofList word) with
  | some flag => some ⟨flag, isShort (String.ofList word), none⟩
  | none =>
    (splitAtEquals word).bind fun (start, value) =>
      (spellings.lookup start).map fun flag => ⟨flag, isShort start, some ⟨value, true⟩⟩

/-- What a word is. A word that may be short for several options is nothing. -/
def readWord (text : String) : Option Word :=
  let word := text.toList
  if word.head? ≠ some '-' ∨ word.length = 1 then some (.argument text)
  else
    match spelledOut? word with
    | some spelled => some (.option spelled)
    | none =>
      match if isShort text then shortCandidates word else longCandidates word with
      | [single] => some (.option single)
      | _ :: _ :: _ => none
      | [] =>
        if looksNegative word || word.contains ' ' then some (.argument text)
        else some (.unknown text)

/-- What the words of a command line are. -/
def readWords : List String → Option (List Word)
  | [] => some []
  | "--" :: rest => some (.separator :: rest.map .argument)
  | text :: rest => do
    let word ← readWord text
    let others ← readWords rest
    return word :: others

/-! ### Arguments -/

/-- What the command is told to do. -/
structure Arguments where
  graph : String
  /-- The file for the code; without one the code is shown. -/
  output : Option String := none
  imports : Bool := false
  formatter : String
deriving DecidableEq, Repr

/-- Why a command line leads to no run. -/
inductive Refusal where
  /-- Help was asked for. -/
  | help
  /-- The words make no sense. -/
  | misuse
deriving DecidableEq, Repr

/-- The exit code of a command line that leads to no run. -/
def Refusal.exitCode : Refusal → Nat
  | .help => 0
  | .misuse => 2

/-- What has been read of a command line. -/
structure Draft where
  graph : Option String := none
  output : Option String := none
  imports : Bool := false
  formatter : String
  /-- Whether there were words that are of no use. -/
  surplus : Bool := false
deriving DecidableEq, Repr

/-- The options of a word with their values, whether the word has letters that are none, and the
    words after it. -/
structure Taken where
  options : List (Flag × Option String)
  surplus : Bool
  rest : List Word

/-- An option without a value in its word. If it takes one, that is the next word. -/
def takeAlone (flag : Flag) (rest : List Word) : Except Refusal Taken :=
  if flag.takesValue then
    match rest with
    | .argument text :: more => .ok ⟨[(flag, some text)], false, more⟩
    | _ => .error .misuse
  else .ok ⟨[(flag, none)], false, rest⟩

/-- An option with a value behind an equals sign. -/
def takeMarked (flag : Flag) (value : String) (rest : List Word) : Except Refusal Taken :=
  if flag.takesValue then .ok ⟨[(flag, some value)], false, rest⟩ else .error .misuse

/-- A short option with further letters in its word: its value, or more short options. -/
def takeLetters (flag : Flag) (rest : List Word) : List Char → Except Refusal Taken
  | [] => .error .misuse
  | c :: more =>
    if flag.takesValue then .ok ⟨[(flag, some (String.ofList (c :: more)))], false, rest⟩
    else if c = '-' then .error .misuse
    else
      match spellings.lookup (String.ofList ['-', c]) with
      | none => .ok ⟨[(flag, none)], true, rest⟩
      | some next => do
        let taken ← match more with
          | [] => takeAlone next rest
          | '=' :: value => takeMarked next (String.ofList value) rest
          | _ => takeLetters next rest more
        return { taken with options := (flag, none) :: taken.options }

/-- The options of a word. -/
def takeOptions (spelled : Spelled) (rest : List Word) : Except Refusal Taken :=
  match spelled.value with
  | none => takeAlone spelled.flag rest
  | some value =>
    if value.marked || !spelled.short then takeMarked spelled.flag value.text rest
    else takeLetters spelled.flag rest value.text.toList

/-- Puts options into a draft, in order. -/
def Draft.apply (draft : Draft) : List (Flag × Option String) → Except Refusal Draft
  | [] => .ok draft
  | (.help, _) :: _ => .error .help
  | (.imports, _) :: rest => { draft with imports := true }.apply rest
  | (.output, value) :: rest => { draft with output := value }.apply rest
  | (.format, value) :: rest =>
    match value.filter formatters.contains with
    | some name => { draft with formatter := name }.apply rest
    | none => .error .misuse

/-- Reads words into a draft. The first argument is the graph, also behind two dashes, and two
    dashes right behind it do not count. The number bounds the steps. -/
def Draft.read : Nat → Draft → List Word → Except Refusal Draft
  | 0, draft, _ => .ok draft
  | _ + 1, draft, [] => .ok draft
  | fuel + 1, draft, .unknown _ :: rest => { draft with surplus := true }.read fuel rest
  | fuel + 1, draft, .option spelled :: rest => do
    let taken ← takeOptions spelled rest
    let next ← draft.apply taken.options
    { next with surplus := next.surplus || taken.surplus }.read fuel taken.rest
  | fuel + 1, draft, .argument text :: rest =>
    if draft.graph.isSome then { draft with surplus := true }.read fuel rest
    else
      match rest with
      | .separator :: more => { draft with graph := some text }.read fuel more
      | _ => { draft with graph := some text }.read fuel rest
  | fuel + 1, draft, .separator :: rest =>
    match draft.graph, rest with
    | none, .argument text :: more => { draft with graph := some text }.read fuel more
    | _, _ => { draft with surplus := true }.read fuel rest

/-- The arguments of a finished draft. -/
def Draft.arguments (draft : Draft) : Except Refusal Arguments :=
  match draft.graph with
  | some graph =>
    if draft.surplus then .error .misuse
    else .ok ⟨graph, draft.output, draft.imports, draft.formatter⟩
  | none => .error .misuse

/-- The arguments on a command line. -/
def Arguments.read (formatter : String) (words : List String) : Except Refusal Arguments := do
  match readWords words with
  | none => throw .misuse
  | some words =>
    let draft ← Draft.read (words.length + 1) { formatter := formatter } words
    draft.arguments

end LayerGraph.Command
