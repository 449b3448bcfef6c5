import LayerGraph.Error
import LayerGraph.Json.Writer
import LayerGraph.Log.Event
import LayerGraph.Text.Case
import LayerGraph.Text.Lines

/-! # Log store

    Every category has a folder with a file for each day, and every entry is a line of JSON in the
    file of its day. Events below the least level are not written down. Categories are written with
    the same folder if they differ only by steps that stay where they are, as `./system` and
    `system` do.
-/

namespace LayerGraph.Log

open Time (Date Instant)

/-! ### Files -/

/-- A file of the store. -/
structure File where
  folder : String
  name : String
  text : String
deriving DecidableEq, Repr

/-- The ending of the names of log files. -/
def fileEnding : String := ".jsonl"

/-- The name of a category's file for a day. -/
def fileName (category : String) (date : Date) : String :=
  category ++ "-" ++ date.stamp ++ fileEnding

/-- The folder that the entries of a category go to. It has the category's name, without any steps
    in front that stay where they are. The file's name repeats the category, so a category that
    leads elsewhere names a file inside a folder that is not there. -/
def homeOf? (category : String) : Option String :=
  match Text.pieces '/' category.toList with
  | [_] => some category
  | ['.'] :: rest =>
    if rest.dropLast.all fun step => step == [] || step == ['.'] then
      rest.getLast?.map String.ofList
    else none
  | _ => none

/-! ### Stores -/

/-- The files of all logs, the least level that is told, and the time. -/
structure Store where
  files : List File
  minLevel : String
  now : Instant

namespace Store

/-- A store without files. -/
def empty (minLevel : String) (now : Instant) : Store := ⟨[], minLevel, now⟩

/-- The text of a file. -/
def text? (store : Store) (folder name : String) : Option String :=
  (store.files.find? fun file => file.folder == folder && file.name == name).map (·.text)

/-- Puts a text into a file, which is made if it is not there. -/
def put (store : Store) (folder name text : String) : Store :=
  if (store.text? folder name).isSome then
    { store with files := store.files.map fun file =>
        if file.folder == folder && file.name == name then { file with text := text } else file }
  else { store with files := store.files ++ [⟨folder, name, text⟩] }

/-- Adds a line to a file. -/
def addLine (store : Store) (folder name line : String) : Store :=
  store.put folder name ((store.text? folder name).getD "" ++ line ++ "\n")

/-- Sets the least level that is told. -/
def setMinLevel (store : Store) (level : String) : Store :=
  { store with minLevel := Text.upper level }

/-! ### Writing -/

/-- The line of an entry. -/
def lineOf (entry : Entries) : Except Failure String :=
  (Json.write (.ofEntries entry)).mapError fun
    | .badKey => .badKey
    | .noText cause => .noText cause

/-- Writes an event down, unless its level is too low. Answers the entry that was written. An event
    whose category has no folder of its own is not written down. -/
def record (store : Store) (event : Event) : Except Failure (Store × Option Entries) :=
  if passes event.level store.minLevel then do
    let entry := event.entry store.now
    let line ← lineOf entry
    let date := store.now.date
    match homeOf? event.category with
    | some home => return (store.addLine home (fileName home date) line, some entry)
    | none => throw (.file .notFound (fileName event.category date))
  else .ok (store, none)

end Store

end LayerGraph.Log
