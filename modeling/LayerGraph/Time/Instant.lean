import LayerGraph.Time.Date

/-! # Instants

    Moments in universal time, exact to the microsecond.
-/

namespace LayerGraph.Time

/-- A moment. -/
structure Instant where
  date : Date
  hour : Nat
  minute : Nat
  second : Nat
  microsecond : Nat
deriving DecidableEq

namespace Instant

/-- The time of day, with its fraction unless that is zero. -/
def clockText (hour minute second microsecond : Nat) : List Char :=
  Date.padded 2 hour ++ ':' :: Date.padded 2 minute ++ ':' :: Date.padded 2 second ++
    (if microsecond = 0 then [] else '.' :: Date.padded 6 microsecond)

/-- An instant as `2024-03-01T12:00:00.500000Z`. -/
def text (instant : Instant) : String :=
  String.ofList (instant.date.text.toList ++ 'T' ::
    clockText instant.hour instant.minute instant.second instant.microsecond ++ ['Z'])

/-- The first day of the year 1970, from which clocks count. -/
def epoch : Date := ⟨1970, 1, 1, rfl⟩

/-- The instant that many microseconds after the beginning of 1970. -/
def ofMicroseconds? (count : Nat) : Option Instant :=
  let seconds := count / 1000000
  (Date.daysAfter? (seconds / 86400) epoch).map fun date =>
    ⟨date, seconds / 3600 % 24, seconds / 60 % 60, seconds % 60, count % 1000000⟩

/-! ### Reading -/

/-- The number that a row of ASCII digits is. -/
def number? (cs : List Char) : Option Nat :=
  if cs.isEmpty || !cs.all Char.isDigit then none
  else some (cs.foldl (fun n c => 10 * n + (c.toNat - 48)) 0)

/-- The microseconds of a fraction of a second; further digits are cut off. -/
def microseconds? (cs : List Char) : Option Nat :=
  number? ((cs ++ List.replicate 6 '0').take 6)

/-- The number of microseconds that may stand behind the seconds. -/
def fraction? : List Char → Option Nat
  | [] => some 0
  | '.' :: digits => microseconds? digits
  | _ => none

/-- The instant that a text such as `2024-03-01T12:00:00.5` stands for. -/
def read? (text : String) : Option Instant :=
  match text.toList with
  | y1 :: y2 :: y3 :: y4 :: '-' :: m1 :: m2 :: '-' :: d1 :: d2 :: 'T' ::
      h1 :: h2 :: ':' :: n1 :: n2 :: ':' :: s1 :: s2 :: rest => do
    let date ← Date.of? (← number? [y1, y2, y3, y4]) (← number? [m1, m2]) (← number? [d1, d2])
    let hour ← number? [h1, h2]
    let minute ← number? [n1, n2]
    let second ← number? [s1, s2]
    let microsecond ← fraction? rest
    if hour < 24 ∧ minute < 60 ∧ second < 60 then
      return ⟨date, hour, minute, second, microsecond⟩
    else none
  | _ => none

end Instant

end LayerGraph.Time
