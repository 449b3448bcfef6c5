/-! # Character classes

    A class of characters is the list of its runs of consecutive code points. The tables of this
    folder are written in this form; their contents are version 14 of the character database.
-/

namespace LayerGraph.Text

/-- A class of characters: the first and the last code point of each of its runs. -/
abbrev CodePoints := List (Nat × Nat)

/-- Whether a character lies in one of the runs. -/
def CodePoints.has (table : CodePoints) (c : Char) : Bool :=
  table.any fun run => decide (run.1 ≤ c.toNat) && decide (c.toNat ≤ run.2)

end LayerGraph.Text
