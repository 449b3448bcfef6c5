import LayerGraph.Error
import LayerGraph.Path

/-! # Folders

    The files that a program finds where it runs. A folder is there as long as a file is in it.
    Nothing is found above the folder or outside it.
-/

namespace LayerGraph

/-- Files under the steps that lead to them. -/
abbrev Folder := List (List String × List UInt8)

namespace Folder

/-- What a path leads to. -/
inductive Target where
  | file (content : List UInt8)
  | folder
deriving Repr

/-- Whether some file lies below these steps. The folder itself is always there. -/
def hasFolder (folder : Folder) (steps : List String) : Bool :=
  steps.isEmpty || folder.any fun entry => steps.isPrefixOf entry.1 && entry.1 != steps

/-- What lies at the end of these steps, from a place that has been reached. -/
def walk (folder : Folder) : List String → List String → Except FileFault (List String × Target)
  | place, [] =>
    match folder.lookup place with
    | some content => .ok (place, .file content)
    | none => if folder.hasFolder place then .ok (place, .folder) else .error .notFound
  | place, step :: rest =>
    if (folder.lookup place).isSome then .error .notFolder
    else if !folder.hasFolder place then .error .notFound
    else if step = ".." then
      if place.isEmpty then .error .notFound else folder.walk place.dropLast rest
    else folder.walk (place ++ [step]) rest

/-- What a path leads to. -/
def find (folder : Folder) (path : Path) : Except FileFault (List String × Target) :=
  if path.absolute then if path.steps.isEmpty then .ok ([], .folder) else .error .notFound
  else folder.walk [] path.steps

/-- The content of a file. -/
def read (folder : Folder) (path : Path) : Except FileFault (List UInt8) :=
  match folder.find path with
  | .ok (_, .file content) => .ok content
  | .ok (_, .folder) => .error .isFolder
  | .error fault => .error fault

/-- Puts a file under steps, in place of one that is there. -/
def set (folder : Folder) (steps : List String) (content : List UInt8) : Folder :=
  if folder.any (·.1 == steps) then
    folder.map fun entry => if entry.1 == steps then (steps, content) else entry
  else folder ++ [(steps, content)]

/-- Writes a file. The folder that it is to be in has to be there. -/
def write (folder : Folder) (path : Path) (content : List UInt8) : Except FileFault Folder :=
  match folder.find path with
  | .ok (steps, .file _) => .ok (folder.set steps content)
  | .ok (_, .folder) => .error .isFolder
  | .error .notFound =>
    match folder.find { path with steps := path.steps.dropLast } with
    | .ok (steps, .folder) => .ok (folder.set (steps ++ [path.name]) content)
    | .ok (_, .file _) => .error .notFolder
    | .error fault => .error fault
  | .error fault => .error fault

end Folder

end LayerGraph
