import LayerGraph.Text.Digit
import LayerGraph.Text.Lines
import LayerGraph.Text.Utf8

/-! # Routes

    The paths that the service answers, and the methods that each of them answers. A path with a
    slash at its end leads on to the one without, if that is one of them.
-/

namespace LayerGraph.Service

/-- What is asked for. -/
inductive Route where
  /-- What the service is. -/
  | home
  /-- The program of a graph. -/
  | program
  /-- All node types. -/
  | catalog
  | nodeType (type : String)
  /-- A page of the documentation. -/
  | page (path : String)
deriving DecidableEq, Repr

namespace Route

/-- The steps to the routes below the first. -/
def programSteps : List String := ["", "api", "translate"]

/-- The steps to the catalog. -/
def catalogSteps : List String := programSteps ++ ["plugins"]

/-- The steps of a path. -/
def stepsOf (path : String) : List String := (Text.pieces '/' path.toList).map String.ofList

/-- The pages of the documentation. -/
def pages : List String := ["/openapi.json", "/docs", "/docs/oauth2-redirect", "/redoc"]

/-- A path without a line end behind it. Where a path is fixed, one does not count. -/
def withoutBreak (path : String) : String :=
  if path.toList.getLast? = some '\n' then String.ofList path.toList.dropLast else path

/-- The route at a path. -/
def at? (path : String) : Option Route :=
  let fixed := withoutBreak path
  let steps := stepsOf path
  if fixed = "/" then some home
  else if pages.contains fixed then some (page fixed)
  else if stepsOf fixed = programSteps then some program
  else if stepsOf fixed = catalogSteps then some catalog
  else if steps.dropLast = catalogSteps then
    (steps.getLast?.filter (!·.isEmpty)).map nodeType
  else none

/-- The methods that a route answers. -/
def methods : Route → List String
  | program => ["POST"]
  | page _ => ["GET", "HEAD"]
  | _ => ["GET"]

/-- A path without the slashes at its end. -/
def withoutSlash (path : String) : String :=
  String.ofList ((path.toList.reverse.dropWhile (· == '/')).reverse)

/-- The path that a path with a slash at its end leads on to. -/
def redirect? (path : String) : Option String :=
  if path.toList.getLast? = some '/' ∧ path ≠ "/" ∧ (at? path).isNone ∧
      (at? (withoutSlash path)).isSome then
    some (withoutSlash path)
  else none

end Route

/-! ### Addresses -/

/-- The bytes of a path, in which a byte may be written as a percent sign and two digits. -/
def pathBytes : List Char → List UInt8
  | [] => []
  | '%' :: a :: b :: rest =>
    match Text.hexValue? a, Text.hexValue? b with
    | some high, some low => UInt8.ofNat (16 * high + low) :: pathBytes rest
    | _, _ => '%'.toUInt8 :: pathBytes (a :: b :: rest)
  | c :: rest => c.toString.toUTF8.toList ++ pathBytes rest

/-- The path of an address: what stands before a question mark or number sign. It begins with a
    slash even if that is left out. -/
def pathOf (address : String) : String :=
  let before := address.toList.takeWhile fun c => !(c == '?' || c == '#')
  let written := if before.head? = some '/' then before else '/' :: before
  String.ofList (Text.decodeReplacing (pathBytes written))

/-- A path as the log tells it. It is read as an address once more, where tabs and line ends do not
    count. -/
def toldPath (path : String) : String :=
  let kept := path.toList.filter fun c => !(c == '\t' || c == '\r' || c == '\n')
  String.ofList (kept.takeWhile fun c => !(c == '?' || c == '#'))

end LayerGraph.Service
