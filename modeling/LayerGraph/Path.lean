import LayerGraph.Text.Case
import LayerGraph.Text.Lines

/-! # Paths

    The way to a file through folders. Empty steps and steps to the folder itself do not count, so
    `./a//b/` is the path `a/b`; a step to the folder above is kept.
-/

namespace LayerGraph

/-- A way to a file or folder. -/
structure Path where
  /-- Whether it begins at the root of all folders, and not where the program runs. -/
  absolute : Bool
  steps : List String
deriving DecidableEq, Repr

namespace Path

/-- The path that a text spells. -/
def ofText (text : String) : Path :=
  let steps := (Text.pieces '/' text.toList).filter fun step => step ≠ [] ∧ step ≠ ['.']
  ⟨text.toList.head? = some '/', steps.map String.ofList⟩

/-- The usual text of a path. A path without steps is the folder itself. -/
def text (path : Path) : String :=
  if path.absolute then "/" ++ "/".intercalate path.steps
  else if path.steps.isEmpty then "."
  else "/".intercalate path.steps

/-- The last step. -/
def name (path : Path) : String := path.steps.getLast?.getD ""

/-- The part of a name from its last point on. A point at either end of the name does not count. -/
def endingOf (name : List Char) : List Char :=
  let behind := (name.reverse.takeWhile (· != '.')).reverse
  let before := name.length - behind.length
  if behind.isEmpty || decide (before ≤ 1) then [] else '.' :: behind

/-- The ending of the name in small letters. -/
def ending (path : Path) : String := Text.lower (String.ofList (endingOf path.name.toList))

end Path

end LayerGraph
