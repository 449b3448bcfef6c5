import LayerGraph.Value

/-! # The order of a set

    The items of a set stand in the slots of a table, and are met in the order of the slots. Where
    the search for a free slot begins depends only on the number that an item is, so sets of
    numbers have a fixed order: small numbers ascend. Items that are no numbers have no place of
    their own; they are met last, in the order in which they were put in. The main statement says
    that no item is lost and none is added (`ordered_perm`).
-/

namespace LayerGraph.Value

open Number (Binary64)

/-! ### Places -/

/-- Numbers are placed by their residues modulo this prime. -/
def slotPrime : Nat := 2305843009213693951

/-- The residue of a fraction with a power of two below it, given as units of `2 ^ (-1074)`. The
    prime is one less than `2 ^ 61`, so dividing by `2 ^ 1074` is multiplying by `2 ^ 24`. -/
def unitsResidue (units : Int) : Int :=
  units.sign * ((units.natAbs * 16777216 % slotPrime : Nat) : Int)

/-- The residue of a number, with its sign. Infinity has one of its own. -/
def residue? : Value → Option Int
  | .float (.infinity negative) => some (if negative then -314159 else 314159)
  | .float x => x.units?.map unitsResidue
  | v => v.integer?.map fun n => n.sign * ((n.natAbs % slotPrime : Nat) : Int)

/-- Where the search begins: the residue as a word of 64 bits. The residue `-1` counts as `-2`. -/
def startOf (residue : Int) : Nat :=
  ((if residue = -1 then -2 else residue) % 18446744073709551616).toNat

/-! ### Tables -/

/-- The number of slots for so many items: a power of two. Up to four items have eight slots, more
    items have more than twice as many. -/
def slotCount (items : Nat) : Nat := if items < 5 then 8 else Nat.pow 2 ((2 * items).log2 + 1)

/-- The number of further slots that are tried in a row. -/
def rowLength : Nat := 9

/-- The first free slot of a row that begins here. A row that would leave the table is cut down to
    its first slot. -/
def freeInRow (size : Nat) (taken : List Nat) (slot : Nat) : Option Nat :=
  let length := if slot + rowLength < size then rowLength + 1 else 1
  ((List.range length).map (slot + ·)).find? (!taken.contains ·)

/-- The first free slot from a slot on. Where a row is taken the search jumps, and further digits of
    the start decide where to. The first number bounds the jumps. -/
def freeSlot (size : Nat) (taken : List Nat) : Nat → Nat → Nat → Nat
  | 0, slot, _ => slot
  | fuel + 1, slot, start =>
    match freeInRow size taken slot with
    | some free => free
    | none =>
      let digits := start / 32
      freeSlot size taken fuel ((5 * slot + 1 + digits) % size) digits

/-- The slots of items, given those that are taken. What is no number stands behind all slots. -/
def placed (size : Nat) : List Nat → List Value → List (Nat × Value)
  | _, [] => []
  | taken, item :: rest =>
    match residue? item with
    | some residue =>
      let start := startOf residue
      let slot := freeSlot size taken (size + 16) (start % size) start
      (slot, item) :: placed size (slot :: taken) rest
    | none => (size, item) :: placed size taken rest

/-! ### Sets -/

/-- Distinct items in the order in which a set of them is met. -/
def ordered (items : List Value) : List Value :=
  ((placed (slotCount items.length) [] items).mergeSort fun a b => a.1 ≤ b.1).map (·.2)

/-- The set of distinct items. -/
def setOf (items : List Value) : Value := .set (ordered items)

theorem placed_map_snd (size : Nat) (taken : List Nat) (items : List Value) :
    (placed size taken items).map (·.2) = items := by
  induction items generalizing taken with
  | nil => rfl
  | cons item rest ih =>
    unfold placed
    cases residue? item with
    | none => simp [ih]
    | some residue => simp [ih]

/-- A set has the items it is made of. -/
theorem ordered_perm (items : List Value) : (ordered items).Perm items := by
  have sorted := (List.mergeSort_perm (placed (slotCount items.length) [] items)
    fun a b => a.1 ≤ b.1).map (·.2)
  rwa [placed_map_snd] at sorted

end LayerGraph.Value
