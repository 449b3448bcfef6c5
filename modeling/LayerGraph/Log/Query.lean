import LayerGraph.Json.Reader
import LayerGraph.Log.Sorting
import LayerGraph.Log.Store
import LayerGraph.Stack
import LayerGraph.Text.Blank

/-! # Looking up log entries

    A query gathers the entries of the last days, keeps those it asks for, orders them by time, the
    newest first, and answers a part of them. Entries of the same time stay in the order in which
    they were gathered: by category, then from the newest day back, then as written. Lines that are
    no JSON are passed over.
-/

namespace LayerGraph.Log

open Time (Date)

/-- Which entries are looked up, and which part of them is answered. -/
structure Query where
  /-- The category, if it is one of the known ones; otherwise all of them. -/
  category : Option String := none
  level : Option String := none
  component : Option String := none
  /-- How many entries are answered at most. -/
  limit : Int := 100
  /-- How many entries are passed over. -/
  offset : Int := 0
  /-- How many days back from today count, today included. -/
  days : Int := 7

/-! ### Lines -/

/-- The lines of a text. Behind the last line end there is a line only if something stands there. -/
def linesOf (text : String) : List (List Char) :=
  let lines := Text.lines (Text.unifyBreaks text.toList)
  if lines.getLast? = some [] then lines.dropLast else lines

/-- The entry that a line is; nothing if it is blank or no JSON. -/
def readLine [Stack] (line : List Char) : Except Failure (Option Value) :=
  let content := Text.trim line
  if content.isEmpty then .ok none
  else if Stack.isTooSmallFor content then .error .stackExhausted
  else
    match Json.read content with
    | .ok entry => .ok (some entry)
    | .error (.fault _ _) => .ok none
    | .error .integerTooLong => .error (.noText .integerTooLong)
    | .error .loneSurrogate => .error .loneSurrogate

/-! ### Conditions -/

/-- The member of an entry under a key, null if it has none. What is no object has no members. -/
def member (entry : Value) (key : String) : Except Failure (Option Value) :=
  match entry with
  | .map members => .ok (Value.member? key members)
  | _ => .error .notEntry

/-- Whether an entry has a text under a key. The empty text is not asked for. -/
def hasText (key : String) (asked : Option String) (entry : Value) : Except Failure Bool :=
  match asked.filter (!·.isEmpty) with
  | none => .ok true
  | some text => do return ((← member entry key).getD .null).equals (.str text)

namespace Query

/-- The categories that a query is about. -/
def folders (query : Query) : List String :=
  match query.category with
  | some category => if categories.contains category then [category] else categories
  | none => categories

/-- Whether a query asks for an entry. -/
def wants (query : Query) (entry : Value) : Except Failure Bool := do
  if ← hasText "level" query.level entry then hasText "component" query.component entry
  else return false

/-- The entries among lines that a query asks for. -/
def entriesIn [Stack] (query : Query) : List (List Char) → Except Failure (List Value)
  | [] => .ok []
  | line :: rest => do
    match ← readLine line with
    | none => query.entriesIn rest
    | some entry =>
      let wanted ← query.wants entry
      let others ← query.entriesIn rest
      return if wanted then entry :: others else others

/-- The days that a query is about, today first. -/
def dates (query : Query) (today : Date) : Except Failure (List Date) :=
  match Date.lastDays? query.days.toNat today with
  | some dates => .ok dates
  | none => .error .noSuchDate

end Query

/-- The time of an entry. An entry without a time has the empty text. -/
def timeOf (entry : Value) : Except Failure Value := do
  return (← member entry "timestamp").getD (.str "")

/-! ### Parts of a list -/

/-- A place in a list of a given length; a negative one counts from the end. -/
def placeIn (length : Nat) (place : Int) : Nat :=
  min length (if place < 0 then place + length else place).toNat

/-- The part of a list between two places. -/
def slice {α : Type} (items : List α) (first last : Int) : List α :=
  let start := placeIn items.length first
  (items.drop start).take (placeIn items.length last - start)

namespace Store
variable [Stack] [Sorting]

/-- All entries that a query asks for, in the order in which they are gathered. -/
def gather (store : Store) (query : Query) : Except Failure (List Value) := do
  let dates ← query.dates store.now.date
  let texts := query.folders.flatMap fun folder =>
    dates.filterMap fun date => store.text? folder (fileName folder date)
  let found ← texts.mapM fun text => query.entriesIn (linesOf text)
  return found.flatten

/-- Entries in order of their times, the newest first. -/
def sorted (entries : List Value) : Except Failure (List Value) := do
  let timed ← entries.mapM fun entry => do return (← timeOf entry, entry)
  return (← Sorting.sort timed).map (·.2)

/-- The answer to a query. -/
def lookup (store : Store) (query : Query) : Except Failure (List Value) := do
  let entries ← sorted (← store.gather query)
  return slice entries query.offset (query.offset + query.limit)

end Store

end LayerGraph.Log
