/-! # Dates

    Days of the Gregorian calendar from year 1 to year 9999. The calendar is given by the day
    before each day: of a month's first day it is the last day of the month before. Counting back
    ends at the first day of year 1, before which there is no date.
-/

namespace LayerGraph.Time

/-- Whether a year has a 29th of February. -/
def isLeapYear (year : Nat) : Bool :=
  year % 4 == 0 && (year % 100 != 0 || year % 400 == 0)

/-- The number of days of a month. -/
def daysInMonth (year month : Nat) : Nat :=
  match month with
  | 2 => if isLeapYear year then 29 else 28
  | 4 | 6 | 9 | 11 => 30
  | _ => 31

/-- Whether a day with these numbers exists. -/
def isDate (year month day : Nat) : Bool :=
  decide (1 ≤ year) && decide (year ≤ 9999) && decide (1 ≤ month) && decide (month ≤ 12) &&
    decide (1 ≤ day) && decide (day ≤ daysInMonth year month)

/-- A day. -/
structure Date where
  year : Nat
  month : Nat
  day : Nat
  valid : isDate year month day = true
deriving DecidableEq

namespace Date

/-- The day with these numbers, if it exists. -/
def of? (year month day : Nat) : Option Date :=
  if h : isDate year month day = true then some ⟨year, month, day, h⟩ else none

/-- The day before. -/
def previous? (date : Date) : Option Date :=
  if 1 < date.day then of? date.year date.month (date.day - 1)
  else if 1 < date.month then
    of? date.year (date.month - 1) (daysInMonth date.year (date.month - 1))
  else of? (date.year - 1) 12 31

/-- The day after. -/
def next? (date : Date) : Option Date :=
  if date.day < daysInMonth date.year date.month then of? date.year date.month (date.day + 1)
  else if date.month < 12 then of? date.year (date.month + 1) 1
  else of? (date.year + 1) 1 1

/-- The day that many days after. -/
def daysAfter? : Nat → Date → Option Date
  | 0, date => some date
  | count + 1, date =>
    match date.next? with
    | some later => daysAfter? count later
    | none => none

/-- The day that many days before. -/
def daysBefore? : Nat → Date → Option Date
  | 0, date => some date
  | count + 1, date =>
    match date.previous? with
    | some earlier => daysBefore? count earlier
    | none => none

/-- The `count + 1` days that end with a date, the last one first, behind the `later` ones. -/
def daysUpTo? (later : List Date) : Nat → Date → Option (List Date)
  | 0, date => some (date :: later).reverse
  | count + 1, date =>
    match date.previous? with
    | some earlier => daysUpTo? (date :: later) count earlier
    | none => none

/-- The last `count` days, of which the given one is the last. The last one comes first. -/
def lastDays? (count : Nat) (date : Date) : Option (List Date) :=
  match count with
  | 0 => some []
  | count + 1 => daysUpTo? [] count date

/-! ### Text -/

/-- A number in decimal, filled up with zeros from the left. -/
def padded (width n : Nat) : List Char :=
  let digits := Nat.toDigits 10 n
  List.replicate (width - digits.length) '0' ++ digits

/-- A date as `2024-03-01`. -/
def text (date : Date) : String :=
  String.ofList (padded 4 date.year ++ '-' :: padded 2 date.month ++ '-' :: padded 2 date.day)

/-- A date in the name of a file: years before 1000 are not filled up. -/
def stamp (date : Date) : String :=
  String.ofList
    (Nat.toDigits 10 date.year ++ '-' :: padded 2 date.month ++ '-' :: padded 2 date.day)

end Date

end LayerGraph.Time
