import LayerGraph.Command.Run
import LayerGraph.Proofs.Json.RoundTrip

/-! # What the command shows of errors

    The object that an error is shown as is a line of JSON. Whoever reads the line gets the object
    back as it is (`exists_ofError`): its kind and its message, and whatever else the error tells.
-/

namespace LayerGraph

/-- The object of an error has no key twice, and holds texts only. -/
theorem GraphError.isVerbal_toEntries (error : GraphError) :
    Json.IsVerbal (.ofEntries error.toEntries) := by
  unfold toEntries
  generalize error.nodeType? = nodeType
  generalize error.key? = key
  generalize error.keys? = keys
  have hkeys : ∀ texts : List String, Json.IsVerbal (.list (texts.map .str)) := by
    intro texts
    refine .list (List.forall_mem_map.2 fun text _ => ?_)
    exact .str text
  refine .object ?_ ?_
  · -- the keys are those of a fixed list, some of them left out
    cases nodeType <;> cases key <;> cases keys <;> simp
  · intro entry hentry
    simp only [List.mem_append, List.mem_cons, List.not_mem_nil, or_false, Option.mem_toList,
      Option.map_eq_some_iff] at hentry
    rcases hentry with (((rfl | rfl) | ⟨_, _, rfl⟩) | ⟨_, _, rfl⟩) | ⟨_, _, rfl⟩
    · exact .str _
    · exact .str _
    · exact .str _
    · exact .str _
    · exact hkeys _

namespace Command

/-- An object of texts is shown on a line from which it is read. -/
theorem exists_objectLine {entries : Entries} (h : Json.IsVerbal (.ofEntries entries)) :
    ∃ line, objectLine entries = .ok line ∧ Json.read line.toList = .ok (.ofEntries entries) := by
  obtain ⟨text, hwritten, hread⟩ := Json.exists_read_write h
  refine ⟨text ++ "\n", ?_, hread⟩
  unfold objectLine
  rw [hwritten]

/-- An outcome that shows an object beside the output, which is empty, and writes no file. -/
structure Outcome.Reports (outcome : Outcome) (entries : Entries) : Prop where
  exitCode : outcome.exitCode = 1
  output : outcome.output = ""
  file : outcome.file = none
  diagnostics : Json.read outcome.diagnostics.toList = .ok (.ofEntries entries)

/-- An error of the graph is reported. -/
theorem exists_ofError (graph : String) (error : GraphError) :
    ∃ outcome, Outcome.ofError graph error = .ok outcome ∧ outcome.Reports error.toEntries := by
  obtain ⟨line, hline, hread⟩ := exists_objectLine error.isVerbal_toEntries
  refine ⟨_, Result.bind_eq_ok.2 ⟨line, hline, rfl⟩, ?_⟩
  exact ⟨rfl, rfl, rfl, hread⟩

/-- An outcome that writes no file leaves the folder as it is. -/
theorem run_of_outcome [Stack] {resolve : Resolver} {arguments : Arguments} {folder : Folder}
    {result : Outcome} (h : outcome resolve arguments (folder.read (.ofText arguments.graph)) =
      .ok result) (hfile : result.file = none) :
    run resolve arguments folder = .ok (result, folder) := by
  unfold run
  rw [h]
  simp only [bind, Except.bind, hfile]
  rfl

end Command

end LayerGraph
