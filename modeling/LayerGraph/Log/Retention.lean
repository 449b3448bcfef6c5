import LayerGraph.Log.Query

/-! # Removing logs

    Logs are removed all at once, or those that are older than the retention allows. Whether a file
    is too old is told by the day in its name, as text. Only files in the folders of the known
    categories are removed.
-/

namespace LayerGraph.Log

/-- The part of a file's name that tells the day, if the file is one of the category. -/
def stampOf? (category name : String) : Option String := do
  let behind ← (category ++ "-").toList.isPrefixOf? name.toList
  let stamp ← fileEnding.toList.isSuffixOf? behind
  return String.ofList stamp

namespace File

/-- Whether a file holds entries of a known category. -/
def isLog (file : File) : Bool :=
  categories.contains file.folder && fileEnding.toList.isSuffixOf file.name.toList

/-- Whether a file is one of a known category for a day before another, told by its stamp. -/
def isBefore (stamp : String) (file : File) : Bool :=
  categories.contains file.folder &&
    ((stampOf? file.folder file.name).any fun own => decide (own < stamp))

end File

namespace Store

/-- Removes the files with a property. Answers how many there were. -/
def remove (store : Store) (p : File → Bool) : Store × Nat :=
  ({ store with files := store.files.filter (!p ·) }, store.files.countP p)

/-- Removes all logs. Answers how many lines they had. -/
def clear (store : Store) : Store × Nat :=
  let lines := (store.files.filter File.isLog).flatMap fun file => linesOf file.text
  ((store.remove File.isLog).1, lines.length)

/-- Removes the logs from before the last `days` days. Answers how many files there were. -/
def prune (store : Store) (days : Int) : Except Failure (Store × Nat) :=
  if days ≤ 0 then .ok (store, 0)
  else
    match Time.Date.daysBefore? days.toNat store.now.date with
    | some cutoff => .ok (store.remove (File.isBefore cutoff.stamp))
    | none => .error .noSuchDate

end Store

end LayerGraph.Log
