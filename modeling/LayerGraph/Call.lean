import LayerGraph.Error

/-! # Calls

    The argument list of a constructor call. Required arguments stand first, in order, by position
    or by name. An optional argument is written by name, unless its value is the one that it has
    anyway: exactly equal to its default, or null where it has no default.
-/

namespace LayerGraph.Call

/-- A required argument. -/
def requiredArgument (positional : Bool) (argument : String × Value) : Except NoText String := do
  let literal ← argument.2.literal
  return if positional then literal else argument.1 ++ "=" ++ literal

/-- Whether an optional argument is left out. -/
def isSuppressed (defaults : Entries) (argument : String × Value) : Bool :=
  match defaults.get? argument.1 with
  | some standard => argument.2.same standard
  | none => match argument.2 with
    | .null => true
    | _ => false

/-- The arguments of a call. -/
def arguments (required optional defaults : Entries) (positional : Bool) :
    Except NoText String := do
  let first ← required.mapM (requiredArgument positional)
  let second ← (optional.filter (!isSuppressed defaults ·)).mapM (requiredArgument false)
  return ", ".intercalate (first ++ second)

/-- A call of `callee`. -/
def constructor (callee : String) (required optional defaults : Entries) (positional : Bool) :
    Except NoText String := do
  return callee ++ "(" ++ (← arguments required optional defaults positional) ++ ")"

end LayerGraph.Call
