import LayerGraph.Text.Pattern
import LayerGraph.Yaml.Tag

/-! # Suggested tags

    The type that the text of a plain scalar suggests. Numbers may have underscores between their
    digits and may be written to base sixty, with colons between the places; an integer may be
    binary, octal or hexadecimal. An exponent needs a point before it and a sign. A date may have a
    time of day behind it. A line end behind the text, which only a text in quotes or in a block can
    have, does not change the type.
-/

namespace LayerGraph.Yaml

open Text Text.Pattern

/-! ### Parts of numbers -/

/-- A decimal digit. -/
def digit : Pattern := one Char.isDigit

/-- Digits and underscores. -/
def digits : Pattern := many (one fun c => c.isDigit || c == '_')

/-- A sign, or none. -/
def sign : Pattern := maybe (anyOf "+-")

/-- Digits that do not begin with a zero. -/
def decimal : Pattern := both (one fun c => c.isDigit && c != '0') digits

/-- Further places to base sixty. -/
def sixties : Pattern :=
  several (row [char ':', maybe (one fun c => decide ('0' ≤ c) && decide (c ≤ '5')), digit])

/-- An exponent, or none. -/
def exponent : Pattern := maybe (row [anyOf "eE", anyOf "+-", several digit])

/-! ### Types -/

/-- Truth values. -/
def boolPattern : Pattern :=
  Pattern.words ["yes", "Yes", "YES", "no", "No", "NO", "true", "True", "TRUE", "false", "False",
    "FALSE", "on", "On", "ON", "off", "Off", "OFF"]

/-- Integers. -/
def intPattern : Pattern :=
  both sign (oneOf
    [both (word "0b") (several (anyOf "01_")), both (char '0') (several (anyOf "01234567_")),
     char '0', decimal,
     both (word "0x") (several (one fun c => "0123456789abcdefABCDEF_".toList.contains c)),
     both decimal sixties])

/-- Numbers with a point. -/
def floatPattern : Pattern :=
  oneOf
    [row [sign, digit, digits, char '.', digits, exponent],
     row [char '.', digit, digits, exponent],
     row [sign, digit, digits, sixties, char '.', digits],
     row [sign, char '.', Pattern.words ["inf", "Inf", "INF"]],
     both (char '.') (Pattern.words ["nan", "NaN", "NAN"])]

/-- Two digits. -/
def twoDigits : Pattern := both digit digit

/-- One or two digits. -/
def oneOrTwoDigits : Pattern := both digit (maybe digit)

/-- A time zone: `Z`, or hours and perhaps minutes before or behind universal time. -/
def zone : Pattern :=
  both (many (anyOf " \t"))
    (either (char 'Z') (row [anyOf "+-", oneOrTwoDigits, maybe (both (char ':') twoDigits)]))

/-- A time of day behind a date. -/
def clock : Pattern :=
  row [either (anyOf "Tt") (several (anyOf " \t")), oneOrTwoDigits, char ':', twoDigits, char ':',
    twoDigits, maybe (both (char '.') (many digit)), maybe zone]

/-- Dates, with two digits for month and day unless a time of day follows. -/
def timestampPattern : Pattern :=
  row [twoDigits, twoDigits, char '-',
    either (row [twoDigits, char '-', twoDigits])
      (row [oneOrTwoDigits, char '-', oneOrTwoDigits, clock])]

/-- The texts of null. -/
def nullPattern : Pattern := Pattern.words ["", "~", "null", "Null", "NULL"]

/-- The types that plain texts suggest. -/
def suggestions : List (Tag × Pattern) :=
  [(.bool, boolPattern), (.float, floatPattern), (.int, intPattern), (.merge, word "<<"),
   (.null, nullPattern), (.timestamp, timestampPattern), (.value, word "=")]

/-- A text without the line end behind it. A line end alone is left as it is. -/
def withoutLineEnd (cs : List Char) : List Char :=
  if cs.getLast? = some '\n' ∧ cs ≠ ['\n'] then cs.dropLast else cs

/-- The type that a plain text suggests; text of no other type is a string. -/
def suggestedTag (cs : List Char) : Tag :=
  match suggestions.find? fun entry => entry.2.admits (withoutLineEnd cs) with
  | some (tag, _) => tag
  | none => .str

end LayerGraph.Yaml
