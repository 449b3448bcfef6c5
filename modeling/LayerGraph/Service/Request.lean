import LayerGraph.Json.Encoding
import LayerGraph.Setting.Shape
import LayerGraph.Stack

/-! # Requests for programs

    A request for the program of a graph is a JSON object with the graph and perhaps a choice
    whether the program carries its import lines. The first thing that is wrong with it is told,
    with the path of keys to it.
-/

namespace LayerGraph.Service

/-- A request as it comes in, with those of its headers that count. -/
structure Request where
  method : String
  address : String
  /-- The bytes that are sent. -/
  body : List UInt8 := []
  contentType : String := "application/json"
  /-- The web page that sends it, if a browser says so. -/
  origin : Option String := none
  /-- The method that a browser asks leave for before it sends the request itself. -/
  askedMethod : Option String := none

/-- What is asked for when a program is. -/
structure Order where
  graph : Value
  /-- Whether the program is to carry its import lines, if it is said. -/
  includeImports : Option Bool

/-- Why a request for a program is refused. -/
inductive OrderFault where
  /-- The text is no JSON, from this place on. -/
  | notJson (offset : Nat)
  /-- The bytes are no text, or the text has a number that is too long to be read or is nested too
      deeply. -/
  | unreadable
  /-- The text holds a surrogate without its partner. -/
  | loneSurrogate
  | mismatch (path : List String) (fault : Mismatch)
deriving DecidableEq, Repr

/-- The message for a refused request. -/
def malformed (path : List String) (words : String) : String :=
  let place := ".".intercalate path
  if place.isEmpty then s!"Malformed request: {words}" else s!"Malformed request ({place}): {words}"

namespace Order

/-- Whether a content type is that of JSON. -/
def isJson (contentType : String) : Bool :=
  let plain := (Text.trim (contentType.toList.takeWhile (· != ';'))).map Char.toLower
  match Text.pieces '/' plain with
  | [main, sub] =>
    main == "application".toList && (sub == "json".toList || "+json".toList.isSuffixOf sub)
  | _ => false

section reading
variable [Stack]

/-- The value that is sent, if any. Null is as good as nothing. -/
def content (bytes : List UInt8) : Except OrderFault (Option Value) :=
  match Json.decode bytes with
  | .error .broken => .error .unreadable
  | .error .loneSurrogate => .error .loneSurrogate
  | .ok text =>
    if Stack.isTooSmallFor text then .error .unreadable
    else
      match Json.read text with
      | .ok .null => .ok none
      | .ok v => .ok (some v)
      | .error (.fault _ remaining) => .error (.notJson (text.length - remaining))
      | .error .integerTooLong => .error .unreadable
      | .error .loneSurrogate => .error .loneSurrogate

/-- What is sent, if anything is. What is no JSON is no object either. -/
def received (request : Request) : Except OrderFault (Option Value) :=
  if request.body.isEmpty then .ok none
  else if isJson request.contentType then content request.body
  else .ok (some (.bytes request.body))

end reading

/-- The graph among the members of a request. -/
def graphIn (members : List (Value × Value)) : Except OrderFault Value :=
  match Value.member? "graph" members with
  | none => .error (.mismatch ["graph"] .missing)
  | some (.map entries) => .ok (.map entries)
  | some (.list items) => .ok (.list items)
  | some _ => .error (.mismatch ["graph", "dict[str,any]"] .notMapping)

/-- The keys under which the choice of import lines may stand; the first one prevails. -/
def choiceKeys : List String := ["includeImports", "include_imports"]

/-- The choice of import lines among the members of a request. -/
def choiceIn (members : List (Value × Value)) : Except OrderFault (Option Bool) :=
  match choiceKeys.findSome? fun key => (Value.member? key members).map (key, ·) with
  | none => .ok none
  | some (_, .null) => .ok none
  | some (key, v) =>
    match Shape.booleanOf v with
    | .ok (.bool b) => .ok (some b)
    | .ok _ => .ok none
    | .error fault => .error (.mismatch [key] fault)

/-- What a request asks for. -/
def ofRequest [Stack] (request : Request) : Except OrderFault Order := do
  match ← received request with
  | none => throw (.mismatch [] .missing)
  | some (.map members) =>
    let graph ← graphIn members
    let includeImports ← choiceIn members
    return ⟨graph, includeImports⟩
  | some _ => throw (.mismatch [] .notObject)

end Order

/-- Whether what a request asks for is left open: a text in it is none that the theory knows. -/
def Request.IsOpen [Stack] (request : Request) : Prop :=
  Order.ofRequest request = .error .loneSurrogate

end LayerGraph.Service
