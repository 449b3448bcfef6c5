import LayerGraph.Configuration
import LayerGraph.Log.Retention
import LayerGraph.Program
import LayerGraph.Registry
import LayerGraph.Service.Request
import LayerGraph.Service.Route

/-! # Service

    The program as a web service: it answers requests for programs of graphs and for the catalog of
    node types, and tells in its log what it did. A refused graph is answered with its error. The
    defect of a plugin is told in the log only; the caller learns no more than that there was one.
    Any other failure *escapes*, unless it comes with an answer of its own: the service itself has
    no words for it and tells nothing of it in the log, and the caller gets a bare answer.

    A browser may ask beforehand whether a web page is allowed to send a request. Such a question
    is answered in front of everything else, the log included.
-/

namespace LayerGraph

/-- The service with its node types and its configuration. -/
structure Service where
  registry : Registry
  configuration : Configuration

namespace Service

open Log (Event Store)

/-! ### Answers -/

/-- What is sent back. -/
inductive Content where
  | json (v : Value)
  | text (s : String)
  /-- A page of the documentation, whatever it says. -/
  | page (path : String)

/-- An answer to a request. -/
structure Answer where
  status : Nat
  content : Content

/-- An answer, and what happened on the way to it. -/
structure Reply where
  answer : Answer
  events : List Event := []

/-- An answer with an object. -/
def Answer.object (status : Nat) (entries : Entries) : Answer :=
  ⟨status, .json (.ofEntries entries)⟩

/-- An answer with nothing but a detail. -/
def Answer.detail (status : Nat) (words : String) : Answer :=
  .object status [("detail", .str words)]

/-- The answer to a failure that escapes. -/
def Answer.failure : Answer := ⟨500, .text "Internal Server Error"⟩

/-- The answer that a failure comes with, if it does. -/
def Answer.own? : Failure → Option Answer
  | .answered status content => some ⟨status, (content.map .json).getD (.text "")⟩
  | _ => none

/-- What is told of a graph that was not turned into a program. -/
def rejection (error : GraphError) (level words : String) : Event :=
  { category := Log.graphs
    level := level
    message := words ++ error.message
    data := .ofEntries [("error", .ofEntries error.toEntries)]
    component := some "controller" }

/-- The answer for an error. Of a defect only the kind is told. -/
def Answer.ofError (error : GraphError) : Answer :=
  if error.status = 500 then
    .object 500 [("kind", .str ErrorKind.internal.text),
      ("message", .str "Internal error while generating code")]
  else .object error.status error.toEntries

/-- The reply for an error. -/
def Reply.ofError (error : GraphError) : Reply :=
  { answer := .ofError error
    events :=
      if error.status = 500 then [rejection error "ERROR" "Internal translation failure: "]
      else [rejection error "WARNING" "Translation rejected: "] }

/-- The reply to a request that is no order. -/
def replyToFault (fault : OrderFault) : Except Failure Reply :=
  let refused (words : String) : Reply :=
    ⟨.object 422 [("kind", .str ErrorKind.invalidGraph.text), ("message", .str words)], []⟩
  match fault with
  | .notJson offset => .ok (refused (malformed [toString offset] "JSON decode error"))
  | .mismatch path mismatch => .ok (refused (malformed path mismatch.text))
  | .unreadable => .ok ⟨.detail 400 "There was an error parsing the body", []⟩
  | .loneSurrogate => .error .loneSurrogate

/-! ### Programs -/

/-- The number of lines of code. -/
def lineCount (code : String) : Nat :=
  if code.isEmpty then 0 else code.toList.count '\n' + 1

/-- A program as it is sent back. -/
def programEntries (program : Program) : Entries :=
  [("code", .str program.code), ("imports", NodeInfo.textList program.imports),
   ("dependencies", NodeInfo.textList program.dependencies)]

/-- The reply with a program of so many layers. -/
def Reply.ofProgram (layers : Nat) (program : Program) : Reply :=
  { answer := .object 200 (programEntries program)
    events :=
      [{ category := Log.graphs
         level := "INFO"
         message := "Graph translated"
         data := .ofEntries [("layers", .int layers), ("lines", .int (lineCount program.code))]
         component := some "controller" }] }

/-- The layers and the program of an order. -/
def fulfil [Stack] (service : Service) (order : Order) :
    Except Failure (List Layer × Program) := do
  let layers ← Document.layersWithin order.graph
  let formatter ← service.configuration.formatterFor none
  let includeImports := order.includeImports.getD service.configuration.includeImports
  let program ← Program.ofLayers service.registry.resolve layers includeImports formatter
  return (layers, program)

/-- The reply to a request for a program. -/
def translate [Stack] (service : Service) (request : Request) : Except Failure Reply :=
  match Order.ofRequest request with
  | .error fault => replyToFault fault
  | .ok order =>
    match service.fulfil order with
    | .ok (layers, program) => .ok (.ofProgram layers.length program)
    | .error (.graph error) => .ok (.ofError error)
    | .error failure => .error failure

/-! ### Other routes -/

/-- What the service is. -/
def homeEntries : Entries :=
  [("app", .str appName), ("version", .str appVersion), ("docs", .str "/docs"),
   ("redoc", .str "/redoc")]

mutual

/-- Whether JSON has a form for a value. It has none for a number that is infinite or none, and an
    integer can be too long to be written. -/
def isSendable : Value → Bool
  | .null | .bool _ | .str _ | .expr _ => true
  | .int n => (integerText n).toOption.isSome
  | .float x => x.units?.isSome
  | .tuple items => areSendable items
  | .list items => areSendable items
  | .map entries => haveSendable entries
  | .bytes _ | .set _ | .foreign _ => false

/-- Whether JSON has a form for all values. -/
def areSendable : List Value → Bool
  | [] => true
  | v :: rest => isSendable v && areSendable rest

/-- Whether JSON has a form for all entries. -/
def haveSendable : List (Value × Value) → Bool
  | [] => true
  | (key, v) :: rest => key.text?.isSome && isSendable v && haveSendable rest

end

/-- The reply with a value, if it can be sent. -/
def send (v : Value) : Except Failure Reply :=
  if isSendable v then .ok ⟨⟨200, .json v⟩, []⟩ else .error .notSendable

/-- What a plugin tells about its node type. -/
def infoOf : Option Plugin → Except Failure Value
  | some plugin => .ok (.ofEntries plugin.info.toEntries)
  | none => .error .notPlugin

/-- The catalog of all node types. It is missing as a whole if one of them cannot be shown. -/
def catalog (service : Service) : Except Failure Reply := do
  let products ← service.registry.products
  let infos ← products.mapM infoOf
  send (.list infos)

/-- What a node type tells about itself. -/
def nodeType (service : Service) (type : String) : Except Failure Reply :=
  match service.registry.find? type with
  | none => .ok ⟨.detail 404 s!"Plugin not found: {type}", []⟩
  | some factory => do
    let info ← infoOf (← Registry.call factory)
    send info

/-! ### Requests -/

/-- The methods that a web page may be given leave for. -/
def allowedMethods : List String := ["DELETE", "GET", "HEAD", "OPTIONS", "PATCH", "POST", "PUT"]

/-- Whether a web page may call the service. -/
def admits (service : Service) (origin : String) : Bool :=
  service.configuration.origins.contains "*" || service.configuration.origins.contains origin

/-- The answer to a browser that asks whether a web page may send a request; nothing for a request
    that is none of these questions. -/
def preflight? (service : Service) (request : Request) : Option Answer :=
  match request.origin, request.askedMethod with
  | some origin, some method =>
    if request.method = "OPTIONS" then
      let denied := (if service.admits origin then [] else ["origin"]) ++
        (if allowedMethods.contains method then [] else ["method"])
      if denied.isEmpty then some ⟨200, .text "OK"⟩
      else some ⟨400, .text ("Disallowed CORS " ++ ", ".intercalate denied)⟩
    else none
  | _, _ => none

section answering
variable [Stack]

/-- The reply of a route. -/
def onRoute (service : Service) (request : Request) : Route → Except Failure Reply
  | .home => .ok ⟨.object 200 homeEntries, []⟩
  | .program => service.translate request
  | .catalog => service.catalog
  | .nodeType type => service.nodeType type
  | .page path => .ok ⟨⟨200, .page path⟩, []⟩

/-- The reply at a path. A path that leads on to another is answered so, and it is up to the caller
    to follow. -/
def atPath (service : Service) (request : Request) (path : String) : Except Failure Reply :=
  match Route.at? path with
  | some route =>
    if route.methods.contains request.method then service.onRoute request route
    else .ok ⟨.detail 405 "Method Not Allowed", []⟩
  | none =>
    if (Route.redirect? path).isSome then .ok ⟨⟨307, .text ""⟩, []⟩
    else .ok ⟨.detail 404 "Not Found", []⟩

/-- The reply to a request, with the answers that failures come with. -/
def reply (service : Service) (request : Request) : Except Failure Reply :=
  match service.atPath request (pathOf request.address) with
  | .ok reply => .ok reply
  | .error failure =>
    match Answer.own? failure with
    | some answer => .ok ⟨answer, []⟩
    | none => .error failure

/-- The paths whose requests are not told in the log. -/
def silentPaths : List String := ["/docs", "/redoc", "/openapi.json", "/favicon.ico"]

/-- What is told of an answered request. -/
def requestEvents (request : Request) (status : Nat) : List Event :=
  let path := toldPath (pathOf request.address)
  if silentPaths.contains path then []
  else
    [{ category := Log.system
       level := "INFO"
       message := s!"{request.method} {path}"
       data := .ofEntries [("status", .int status)] }]

/-- What becomes of a request: an answer and what happened, or a failure that escapes. -/
def outcome (service : Service) (request : Request) : Except Failure Reply :=
  match service.preflight? request with
  | some answer => .ok ⟨answer, []⟩
  | none => do
    let reply ← service.reply request
    return { reply with events := reply.events ++ requestEvents request reply.answer.status }

/-- Answers a request. One that asks for the head of an answer only is sent no content. -/
def handle (service : Service) (request : Request) : Reply :=
  let reply := (service.outcome request).toOption.getD ⟨.failure, []⟩
  if request.method = "HEAD" then { reply with answer := ⟨reply.answer.status, .text ""⟩ }
  else reply

end answering

/-! ### Start -/

/-- What is told when the service starts. -/
def startEvent (service : Service) : Event :=
  { category := Log.system
    level := "INFO"
    message := "Plugins discovered: \x7b'nodes': " ++ toString service.registry.length ++ "\x7d" }

/-- What is told of removed logs. -/
def pruneEvent (count : Nat) : Event :=
  { category := Log.system, level := "INFO", message := s!"Removed {count} expired log files" }

/-- Starts the service: sets the least level that is told, tells the number of node types and
    removes the logs that are too old. The store is what is left of it if a step fails. -/
def start (service : Service) (store : Store) : Store × Except Failure Unit :=
  let levelled := store.setMinLevel service.configuration.logLevel
  match levelled.record service.startEvent with
  | .error failure => (levelled, .error failure)
  | .ok (told, _) =>
    match told.prune service.configuration.retentionDays with
    | .error failure => (told, .error failure)
    | .ok (pruned, count) =>
      if count = 0 then (pruned, .ok ())
      else
        match pruned.record (pruneEvent count) with
        | .error failure => (pruned, .error failure)
        | .ok (final, _) => (final, .ok ())

end Service

end LayerGraph
