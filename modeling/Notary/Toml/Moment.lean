import Notary.Text.Digit
import Notary.Toml.Scan

namespace Notary.Toml

/-!
# Dates and times

A date, a time, or both. Whoever reads settings does not look at them, so
reading one tells only where it ends. What starts like a date or a time has to
be one.
-/

/-- Read a number of the given count of digits that lies in a range. -/
def readInRange (count low high : Nat) (text : List Char) : Except Stop (Nat × List Char) :=
  let digits := (text.take count).takeWhile Char.isDigit
  let value := Text.decimalValue digits
  if digits.length = count && low ≤ value && value ≤ high then .ok (value, text.drop count)
  else stopAt text

/-- Read a given character. -/
def readMark (mark : Char) : List Char → Except Stop (List Char)
  | c :: rest => if c == mark then .ok rest else stopAt (c :: rest)
  | [] => stopAt []

/-- The number of days of a month. -/
def daysOf (year month : Nat) : Nat :=
  if month = 2 then
    if year % 4 = 0 && (year % 100 != 0 || year % 400 = 0) then 29 else 28
  else if month = 4 || month = 6 || month = 9 || month = 11 then 30
  else 31

/-- Read the month and the day of a date. -/
def readMonthDay (year : Nat) (text : List Char) : Except Stop (List Char) := do
  let (month, text) ← readInRange 2 1 12 text
  let text ← readMark '-' text
  let (_, text) ← readInRange 2 1 (daysOf year month) text
  return text

/-- Read the minutes and the seconds of a time. -/
def readMinuteSecond (text : List Char) : Except Stop (List Char) := do
  let (_, text) ← readInRange 2 0 59 text
  let text ← readMark ':' text
  let (_, text) ← readInRange 2 0 60 text
  match text with
  | '.' :: c :: rest => return if c.isDigit then rest.dropWhile Char.isDigit else text
  | _ => return text

/-- Read a time, if the text starts with an hour and a colon. -/
def readTime? (text : List Char) : Option (Except Stop (List Char)) :=
  match readInRange 2 0 23 text with
  | .ok (_, ':' :: rest) => some (readMinuteSecond rest)
  | _ => none

/-- Read the offset that may follow a time. -/
def readOffset (text : List Char) : Except Stop (List Char) :=
  match text with
  | c :: rest =>
      if c == 'Z' || c == 'z' then .ok rest
      else if c == '+' || c == '-' then do
        let (_, text) ← readInRange 2 0 23 rest
        let text ← readMark ':' text
        let (_, text) ← readInRange 2 0 59 text
        return text
      else .ok text
  | [] => .ok []

/-- Read the time that may follow a date. -/
def readTimeOfDay (text : List Char) : Except Stop (List Char) :=
  match text with
  | c :: rest =>
      if c == 'T' || c == 't' || c == ' ' then
        match readTime? rest with
        | some time => time >>= readOffset
        | none => .ok text
      else .ok text
  | [] => .ok []

/-- Read a date or a time, if the text starts like one. -/
def readMoment? (text : List Char) : Option (Except Stop (List Char)) :=
  match readInRange 4 0 9999 text with
  | .ok (year, '-' :: rest) => some (readMonthDay year rest >>= readTimeOfDay)
  | _ => readTime? text

end Notary.Toml
