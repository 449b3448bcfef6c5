import LayerGraph.Time.Instant
import LayerGraph.Value

/-! # Dates and times of day

    Scalars that name a date, perhaps with a time of day, its fraction and a time zone. What they
    name has to exist in the calendar, and a zone lies less than a day off universal time.
-/

namespace LayerGraph.Yaml

open Time (Date Instant)

/-- Digits, at most `most` of them, as a number, and the characters after them. -/
def readDigits (least most : Nat) (cs : List Char) : Option (Nat × List Char) :=
  let digits := (cs.take most).takeWhile Char.isDigit
  if digits.length < least then none
  else (Instant.number? digits).map (·, cs.drop digits.length)

/-- A date, and the characters after it. -/
def readDate (cs : List Char) : Option ((Nat × Nat × Nat) × List Char) := do
  match ← readDigits 4 4 cs with
  | (year, '-' :: rest) =>
    match ← readDigits 1 2 rest with
    | (month, '-' :: rest) =>
      let (day, rest) ← readDigits 1 2 rest
      return ((year, month, day), rest)
    | _ => none
  | _ => none

/-- A time of day with two digits for minutes and seconds, and the characters after it. -/
def readClock (cs : List Char) : Option ((Nat × Nat × Nat) × List Char) := do
  match ← readDigits 1 2 cs with
  | (hour, ':' :: rest) =>
    match ← readDigits 2 2 rest with
    | (minute, ':' :: rest) =>
      let (second, rest) ← readDigits 2 2 rest
      return ((hour, minute, second), rest)
    | _ => none
  | _ => none

/-- The microseconds of a fraction, if there is one, and the characters after it. -/
def readFraction : List Char → Option (Nat × List Char)
  | '.' :: cs =>
    (Instant.microseconds? (cs.takeWhile Char.isDigit)).map (·, cs.dropWhile Char.isDigit)
  | cs => some (0, cs)

/-- The minutes of a zone, which may be left out. -/
def readZoneMinutes : List Char → Option Nat
  | [] => some 0
  | ':' :: cs =>
    match readDigits 2 2 cs with
    | some (minutes, []) => some minutes
    | _ => none
  | _ => none

/-- The zone at the end of a text, in minutes before universal time; there may be none. -/
def readZone (cs : List Char) : Option (Option Int) :=
  match cs.dropWhile fun c => c == ' ' || c == '\t' with
  | [] => if cs.isEmpty then some none else none
  | ['Z'] => some (some 0)
  | c :: rest =>
    if c = '+' ∨ c = '-' then do
      let (hours, rest) ← readDigits 1 2 rest
      let minutes ← readZoneMinutes rest
      let offset : Int := hours * 60 + minutes
      return some (if c = '-' then -offset else offset)
    else none

/-- The characters of a time of day behind a date, if there is one. -/
def clockPart : List Char → Option (List Char)
  | 'T' :: cs => some cs
  | 't' :: cs => some cs
  | c :: cs =>
    if c = ' ' ∨ c = '\t' then some (cs.dropWhile fun d => d == ' ' || d == '\t') else none
  | [] => none

/-! ### Values -/

/-- A date as a value. -/
def dateValue (date : Date) : Value :=
  .foreign
    { typeName := "date"
      display := date.text
      quoted := s!"datetime.date({date.year}, {date.month}, {date.day})" }

/-- A zone behind a time. -/
def zoneText (offset : Int) : String :=
  let size := offset.natAbs
  (if offset < 0 then "-" else "+") ++
    String.ofList (Date.padded 2 (size / 60) ++ ':' :: Date.padded 2 (size % 60))

/-- The text that quotes a zone. -/
def zoneQuoted (offset : Int) : String :=
  if offset = 0 then "datetime.timezone.utc"
  else
    let span :=
      if offset < 0 then s!"days=-1, seconds={86400 + offset * 60}" else s!"seconds={offset * 60}"
    s!"datetime.timezone(datetime.timedelta({span}))"

/-- A date with a time of day as a value. -/
def timeValue (instant : Instant) (zone : Option Int) : Value :=
  let date := instant.date
  let clock := String.ofList
    (Instant.clockText instant.hour instant.minute instant.second instant.microsecond)
  let numbers := [date.year, date.month, date.day, instant.hour, instant.minute] ++
    (if instant.second = 0 ∧ instant.microsecond = 0 then [] else [instant.second]) ++
    (if instant.microsecond = 0 then [] else [instant.microsecond])
  let arguments := numbers.map toString ++ (zone.map fun z => "tzinfo=" ++ zoneQuoted z).toList
  .foreign
    { typeName := "datetime"
      display := s!"{date.text} {clock}" ++ (zone.map zoneText).getD ""
      quoted := "datetime.datetime(" ++ ", ".intercalate arguments ++ ")" }

/-- Why a text names no time. -/
inductive MomentFault where
  | notTime
  | noSuchTime

/-- The value of a text that names a date or time. -/
def momentOf (cs : List Char) : Except MomentFault Value :=
  match readDate cs with
  | none => .error .notTime
  | some ((year, month, day), []) =>
    match Date.of? year month day with
    | some date => .ok (dateValue date)
    | none => .error .noSuchTime
  | some ((year, month, day), rest) =>
    let parts := do
      let ((hour, minute, second), rest) ← readClock (← clockPart rest)
      let (microsecond, rest) ← readFraction rest
      let zone ← readZone rest
      return (hour, minute, second, microsecond, zone)
    match parts with
    | none => .error .notTime
    | some (hour, minute, second, microsecond, zone) =>
      match Date.of? year month day with
      | none => .error .noSuchTime
      | some date =>
        if hour < 24 ∧ minute < 60 ∧ second < 60 ∧ (zone.all fun z => z.natAbs < 1440) then
          .ok (timeValue ⟨date, hour, minute, second, microsecond⟩ zone)
        else .error .noSuchTime

end LayerGraph.Yaml
