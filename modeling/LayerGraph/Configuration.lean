import LayerGraph.Error
import LayerGraph.Fragment
import LayerGraph.Number.Reading
import LayerGraph.Text.Case

/-! # Configuration

    What the environment decides: how much is logged and for how long, how finished code is
    formatted, whether programs carry their import lines, and which web pages may call the service.
    A variable that is not set has its standard value.
-/

namespace LayerGraph

/-- The name of the program. -/
def appName : String := "Model DESIGNER Translator"

/-- The version of the program. -/
def appVersion : String := "1.0.0"

/-- What the environment decides. -/
structure Configuration where
  /-- The least level that is logged. -/
  logLevel : String := "INFO"
  /-- The number of days for which logs are kept. -/
  retentionDays : Int := 30
  /-- The name of the formatter for finished code. -/
  formatter : String := "none"
  /-- Whether programs carry their import lines unless a request says otherwise. -/
  includeImports : Bool := false
  /-- The web pages that may call the service. -/
  origins : List String
deriving DecidableEq, Repr

namespace Configuration

/-- The pages of the editor. -/
def standardOrigins : List String :=
  ["http://localhost:5173", "http://localhost:5174", "http://127.0.0.1:5173",
   "http://127.0.0.1:5174"]

/-- The folder of the logs, inside the folder of all data. -/
def logsFolder : String := "logs"

/-- The configuration of an empty environment. -/
def standard : Configuration := { origins := standardOrigins }

/-- A text without the blanks at its ends, in small letters. -/
def plainWord (text : String) : String := Text.lower (String.ofList (Text.trim text.toList))

/-- The words that switch something on. -/
def switchWords : List String := ["1", "true", "yes"]

/-- A number of days. -/
def daysOf (text : String) : Except Failure Int :=
  match Number.integer? text with
  | some n =>
    if integerDigitLimit < text.length then .error (.noText .integerTooLong) else .ok n
  | none => .error (.scalar (.notInteger text 10))

/-- The items of a list with commas. Empty items do not count. -/
def itemsOf (text : String) : List String :=
  (((Text.pieces ',' text.toList).map Text.trim).filter (!·.isEmpty)).map String.ofList

/-- The configuration that an environment gives. -/
def ofEnvironment (environment : List (String × String)) : Except Failure Configuration := do
  let retentionDays ← ((environment.lookup "LOG_RETENTION_DAYS").map daysOf).getD
    (.ok standard.retentionDays)
  return {
    logLevel := ((environment.lookup "LOG_LEVEL").map Text.upper).getD standard.logLevel
    retentionDays := retentionDays
    formatter := ((environment.lookup "CODE_FORMATTER").map plainWord).getD standard.formatter
    includeImports :=
      ((environment.lookup "INCLUDE_IMPORTS").map fun text =>
        switchWords.contains (plainWord text)).getD standard.includeImports
    origins := ((environment.lookup "CORS_ORIGINS").map itemsOf).getD standard.origins }

/-! ### Formatters -/

/-- The formatter of a name. The empty name and `none` leave the code as it is; no other formatter
    is part of the program. -/
def formatterNamed (name : String) : Except Failure (Option Fragment.Formatter) :=
  let choice := plainWord name
  if choice = "" ∨ choice = "none" then .ok none else .error (.unknownFormatter choice)

/-- The formatter that is asked for, or else the configured one. -/
def formatterFor (configuration : Configuration) (name : Option String) :
    Except Failure (Option Fragment.Formatter) :=
  formatterNamed (name.getD configuration.formatter)

/-- By its name, no formatter is asked for. -/
theorem formatterNamed_none : formatterNamed "none" = .ok none := by
  have hword : plainWord "none" = "none" := by decide
  simp [formatterNamed, hword]

theorem formatterFor_standard : standard.formatterFor none = .ok none := formatterNamed_none

end Configuration

end LayerGraph
