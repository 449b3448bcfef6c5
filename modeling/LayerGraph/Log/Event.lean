import LayerGraph.Time.Instant
import LayerGraph.Value

/-! # Log events

    What happens is told by *events*. An event becomes an *entry* of a log when a time is put to it.
-/

namespace LayerGraph.Log

open Time (Instant)

/-! ### Levels -/

/-- The rank of a level. An unknown level counts like the second. -/
def rank (level : String) : Nat :=
  match level with
  | "DEBUG" => 0
  | "INFO" => 1
  | "WARNING" => 2
  | "ERROR" => 3
  | _ => 1

/-- Whether an event of a level is told when `least` is the least level to be told. -/
def passes (level least : String) : Bool := decide (rank least ≤ rank level)

/-! ### Categories -/

/-- The category of what the program as a whole does. -/
def system : String := "system"

/-- The category of what is done with graphs. -/
def graphs : String := "translation"

/-- The category of what plugins do. -/
def plugins : String := "plugin"

/-- The categories whose entries are looked up and cleared, in this order. -/
def categories : List String := [system, graphs, plugins]

/-! ### Events and entries -/

/-- Something that happened. -/
structure Event where
  category : String
  level : String
  message : String
  /-- Further facts; facts that count as false are none. -/
  data : Value := .null
  /-- The part of the program that tells it; the empty name is none. -/
  component : Option String := none

namespace Event

/-- The facts of an event. -/
def facts (event : Event) : Value := if event.data.truthy then event.data else .map []

/-- What an entry says besides its time. -/
def fields (event : Event) : Entries :=
  [("category", .str event.category), ("level", .str event.level), ("message", .str event.message),
   ("data", event.facts)] ++
    ((event.component.filter (!·.isEmpty)).map fun name => ("component", Value.str name)).toList

/-- The entry of an event at a time. -/
def entry (event : Event) (now : Instant) : Entries :=
  ("timestamp", .str now.text) :: event.fields

end Event

end LayerGraph.Log
