import LayerGraph.Text.Blank
import LayerGraph.Text.Lines

/-! # Code fragments

    The texts that layers yield and what is done to them: lines are indented, blocks get a
    statement if they have none, and fragments are put together into a program that is *tidy*: no
    line ends in a blank and no line break stands at either end.
-/

namespace LayerGraph.Fragment

/-- A last pass over finished code. -/
abbrev Formatter := String → String

/-! ### Indentation -/

/-- The number of spaces of one level of indentation. -/
def indentWidth : Nat := 4

/-- The spaces in front of a line at a level. A level below zero is none. -/
def padding (level : Int) : List Char := List.replicate (indentWidth * level.toNat) ' '

/-- Puts spaces in front of a line that is not blank. -/
def indentLine (level : Int) (line : List Char) : List Char :=
  if Text.isBlankText line then line else padding level ++ line

/-- Indents the lines of a text. Blank lines stay as they are. -/
def indentChars (level : Int) (code : List Char) : List Char :=
  Text.unlines ((Text.lines code).map (indentLine level))

/-- Indents code by a number of levels. -/
def indent (code : String) (level : Int) : String := String.ofList (indentChars level code.toList)

/-- Whether code has nothing but blanks. -/
def isBlank (code : String) : Bool := Text.isBlankText code.toList

/-- Code without the line breaks at its ends. -/
def trimBreaks (code : String) : String := String.ofList (Text.trimBreaks code.toList)

/-- The statements of a block: the code, or a statement that does nothing if there is none. -/
def bodyChars (code : List Char) : List Char :=
  if Text.isBlankText code then "pass".toList else code

/-- Code as the body of a block at a level. -/
def body (code : String) (level : Int) : String :=
  indent (String.ofList (bodyChars (Text.trimBreaks code.toList))) level

/-! ### Assembly -/

/-- Cuts the blanks at the end of every line, then the line breaks at both ends. -/
def tidyChars (code : List Char) : List Char :=
  Text.trimBreaks (Text.unlines ((Text.lines code).map Text.trimEnd))

/-- Makes code tidy. -/
def tidy (code : String) : String := String.ofList (tidyChars code.toList)

/-- Puts texts together, one below the other. -/
def stack (texts : List String) : String := "\n".intercalate texts

/-- Puts fragments together into tidy code, which the formatter sees unless it is empty. -/
def assemble (fragments : List String) (formatter : Option Formatter) : String :=
  let code := tidy (stack fragments)
  match formatter with
  | none => code
  | some format => if code.isEmpty then code else tidy (format code)

/-- Code below a block of import lines, with one blank line between. -/
def withImports (code : String) (imports : List String) : String :=
  let header := stack imports
  if header.isEmpty then code
  else if code.isEmpty then header
  else header ++ "\n\n" ++ code

end LayerGraph.Fragment
