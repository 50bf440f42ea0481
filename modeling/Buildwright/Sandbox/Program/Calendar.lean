import Buildwright.Sandbox.Digits
import Buildwright.Sandbox.FileTree

/-!
# Calendar

How dates are read as moments: each stands for its start at the meridian.
-/

namespace Buildwright.Sandbox.Program

/-- How many nanoseconds a second has. -/
def nanoseconds : Int := 1000000000

/-- How many seconds a day has. -/
def dayLength : Int := 86400

/-- The number of the day with a date, from the start of 1970 on. Months beyond a year and days
beyond a month are counted on. -/
def dayNumber (year month day : Int) : Int :=
  let year := year + (month - 1) / 12
  let month := (month - 1) % 12 + 1
  let y := if month ≤ 2 then year - 1 else year
  let era := y / 400
  let yearOfEra := y - era * 400
  let monthIndex := (month + 9) % 12
  let dayOfYear := (153 * monthIndex + 2) / 5 + day - 1
  let dayOfEra := yearOfEra * 365 + yearOfEra / 4 - yearOfEra / 100 + dayOfYear
  era * 146097 + dayOfEra - 719468

/-- The date of a day with a number: the year, the month and the day. -/
def dateOf (days : Int) : Int × Int × Int :=
  let z := days + 719468
  let era := z / 146097
  let dayOfEra := z - era * 146097
  let yearOfEra := (dayOfEra - dayOfEra / 1460 + dayOfEra / 36524 - dayOfEra / 146096) / 365
  let dayOfYear := dayOfEra - (365 * yearOfEra + yearOfEra / 4 - yearOfEra / 100)
  let monthIndex := (5 * dayOfYear + 2) / 153
  let day := dayOfYear - (153 * monthIndex + 2) / 5 + 1
  let month := if monthIndex < 10 then monthIndex + 3 else monthIndex - 9
  let year := yearOfEra + era * 400
  (if month ≤ 2 then year + 1 else year, month, day)

/-- The number that digits stand for, if there are only digits. -/
def digitsNumber? (cs : List Char) : Option Int :=
  if cs.isEmpty || !cs.all Char.isDigit then none else some (numberOf 10 cs)

/-- A date in one word. -/
def dateWord? (cs : List Char) : Option (Int × Int × Int) :=
  let parts (separator : Char) : List (List Char) :=
    ((String.ofList cs).splitOn (String.singleton separator)).map String.toList
  let checked (year month day : Int) : Option (Int × Int × Int) :=
    let (y, m, d) := dateOf (dayNumber year month day)
    if 1 ≤ month && month ≤ 12 && 1 ≤ day && (y, m, d) = (year, month, day) then
      some (year, month, day) else none
  match parts '-', parts '/' with
  | [y, m, d], _ => do checked (← digitsNumber? y) (← digitsNumber? m) (← digitsNumber? d)
  | _, [a, b, c] => do
    if a.length = 4 then checked (← digitsNumber? a) (← digitsNumber? b) (← digitsNumber? c)
    else
      let year ← digitsNumber? c
      let year := if c.length ≤ 2 then if year < 69 then year + 2000 else year + 1900 else year
      checked year (← digitsNumber? a) (← digitsNumber? b)
  | _, _ =>
    if cs.length = 8 then do
      let n ← digitsNumber? cs
      checked (n / 10000) (n / 100 % 100) (n % 100)
    else none

/-- The moment that the text of a date stands for. -/
def readMoment? (text : String) : Option Moment :=
  match text.toList.splitOn ' ' |>.filter (· ≠ []) with
  | [word] => (dateWord? word).map fun (year, month, day) =>
      dayNumber year month day * dayLength * nanoseconds
  | _ => none

end Buildwright.Sandbox.Program
