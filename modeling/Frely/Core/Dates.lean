import Frely.Core.Values

/-!
# Dates

`Date.parse` and `toISOString`.  The language fixes how texts of its date format with a known
offset are read; texts without an offset are read in local time and other texts as the engine
likes, so what it makes of those is a parameter.
-/

namespace Frely.Date

/-- Days from 1970-01-01 in the Gregorian calendar.  Years start in March here, so that a leap day
is the last day of its year. -/
def daysFromCivil (year month day : Int) : Int :=
  let shifted := if month ≤ 2 then year - 1 else year
  let era := shifted / 400
  let yearOfEra := shifted - era * 400
  let dayOfYear := (153 * (if month ≤ 2 then month + 9 else month - 3) + 2) / 5 + day - 1
  era * 146097 + (yearOfEra * 365 + yearOfEra / 4 - yearOfEra / 100 + dayOfYear) - 719468

/-- Year, month and day of a number of days. -/
def civilFromDays (days : Int) : Int × Int × Int :=
  let shifted := days + 719468
  let era := shifted / 146097
  let dayOfEra := shifted - era * 146097
  let yearOfEra :=
    (dayOfEra - dayOfEra / 1460 + dayOfEra / 36524 - dayOfEra / 146096) / 365
  let dayOfYear := dayOfEra - (365 * yearOfEra + yearOfEra / 4 - yearOfEra / 100)
  let shiftedMonth := (5 * dayOfYear + 2) / 153
  let month := if shiftedMonth < 10 then shiftedMonth + 3 else shiftedMonth - 9
  (yearOfEra + era * 400 + (if month ≤ 2 then 1 else 0), month,
    dayOfYear - (153 * shiftedMonth + 2) / 5 + 1)

def daysInMonth (year month : Int) : Int :=
  if month = 12 then 31 else daysFromCivil year (month + 1) 1 - daysFromCivil year month 1

/-- The last time that has a date, before and after the epoch. -/
def maximumTime : Int := 8640000000000000

/-! ### Reading -/

/-- Reads a number of so many digits. -/
def digits : Nat → Nat → List Char → Option (Nat × List Char)
  | 0, read, text => some (read, text)
  | _ + 1, _, [] => none
  | count + 1, read, c :: text =>
    if c.isDigit then digits count (read * 10 + (c.toNat - 48)) text else none

/-- A year has four digits, or a sign and six. -/
def readYear : List Char → Option (Int × List Char)
  | '+' :: text => (digits 6 0 text).map fun (year, rest) => ((year : Int), rest)
  | '-' :: text => (digits 6 0 text).bind fun (year, rest) =>
    if year = 0 then none else some (-(year : Int), rest)
  | text => (digits 4 0 text).map fun (year, rest) => ((year : Int), rest)

/-- A field behind its separator, or its default when the separator is not there. -/
def readField (separator : Char) (count fallback : Nat) : List Char → Option (Nat × List Char)
  | c :: text => if c = separator then digits count 0 text else some (fallback, c :: text)
  | [] => some (fallback, [])

/-- The offset from UTC at the end of a text, in minutes. -/
def readOffset : List Char → Option Int
  | ['Z'] => some 0
  | sign :: text => do
    let (hours, rest) ← digits 2 0 text
    match rest with
    | ':' :: rest =>
      let (minutes, rest) ← digits 2 0 rest
      if rest = [] ∧ hours ≤ 23 ∧ minutes ≤ 59 then
        if sign = '+' then some (hours * 60 + minutes)
        else if sign = '-' then some (-(hours * 60 + minutes))
        else none
      else none
    | _ => none
  | [] => none

/-- The milliseconds of the day, in UTC; without a time the day starts. -/
def readTime : List Char → Option Int
  | [] => some 0
  | 'T' :: text => do
    let (hour, text) ← digits 2 0 text
    match text with
    | ':' :: text =>
      let (minute, text) ← digits 2 0 text
      let (second, rest) ← readField ':' 2 0 text
      let (millisecond, rest) ← if rest = text then some (0, rest) else readField '.' 3 0 rest
      let offset ← readOffset rest
      -- the day also ends at 24:00
      if hour ≤ 24 ∧ minute ≤ 59 ∧ second ≤ 59 ∧
          (hour = 24 → minute = 0 ∧ second = 0 ∧ millisecond = 0) then
        some (((hour * 60 + minute - offset) * 60 + second) * 1000 + millisecond)
      else none
    | _ => none
  | _ => none

/-- The time a text of the date format names. -/
def readIso (text : List Char) : Option Timestamp := do
  let (year, text) ← readYear text
  let (month, rest) ← readField '-' 2 1 text
  let (day, rest) ← if rest = text then some (1, rest) else readField '-' 2 1 rest
  let time ← readTime rest
  if 1 ≤ month ∧ month ≤ 12 ∧ 1 ≤ day ∧ (day : Int) ≤ daysInMonth year month then
    some (daysFromCivil year month day * 86400000 + time)
  else none

/-- `Date.parse`, where `parseOther` reads the texts that the language leaves to the engine;
`none` is not a number. -/
def parse (parseOther : String → Option Timestamp) (text : String) : Option Timestamp :=
  match readIso text.toList with
  | some time => if -maximumTime ≤ time ∧ time ≤ maximumTime then some time else none
  | none => parseOther text

/-! ### Writing -/

/-- A number with leading zeros. -/
def padded (count : Nat) (number : Int) : String :=
  let text := toString number.natAbs
  String.ofList (List.replicate (count - text.length) '0') ++ text

/-- `toISOString`, which throws for times without a date. -/
def toISOString (time : Timestamp) : Option String :=
  if -maximumTime ≤ time ∧ time ≤ maximumTime then
    let (year, month, day) := civilFromDays (time / 86400000)
    let ms := time % 86400000
    let yearText := if 0 ≤ year ∧ year ≤ 9999 then padded 4 year
      else (if 0 ≤ year then "+" else "-") ++ padded 6 year
    some (yearText ++ "-" ++ padded 2 month ++ "-" ++ padded 2 day ++ "T" ++
      padded 2 (ms / 3600000) ++ ":" ++ padded 2 (ms / 60000 % 60) ++ ":" ++
      padded 2 (ms / 1000 % 60) ++ "." ++ padded 3 (ms % 1000) ++ "Z")
  else none

end Frely.Date
