import Storyline.Decimal.Reading
import Storyline.Text.Blank

/-!
Instants of universal time with nanoseconds. They are read as a date, a time of day and an offset,
and written at offset zero with as many decimal places as are needed: none, three, six or nine.
-/
namespace Storyline

/-- Seconds since the first of January 1970 and nanoseconds; a leap second has more than 10 ^ 9 of
them. -/
structure Timestamp where
  seconds : Int
  nanos : Nat
  deriving DecidableEq

namespace Timestamp

/-- The number of a day, counted from the first of January 1970. -/
def dayNumber (year : Int) (month day : Nat) : Int :=
  let y := if month ≤ 2 then year - 1 else year
  let era := y / 400
  let yearOfEra := y % 400
  let shifted : Int := (month + 9) % 12
  let dayOfYear := (153 * shifted + 2) / 5 + day - 1
  era * 146097 + (yearOfEra * 365 + yearOfEra / 4 - yearOfEra / 100 + dayOfYear) - 719468

def civilOfDay (n : Int) : Int × Nat × Nat :=
  let z := n + 719468
  let era := z / 146097
  let dayOfEra := z % 146097
  let yearOfEra := (dayOfEra - dayOfEra / 1460 + dayOfEra / 36524 - dayOfEra / 146096) / 365
  let dayOfYear := dayOfEra - (365 * yearOfEra + yearOfEra / 4 - yearOfEra / 100)
  let shifted := (5 * dayOfYear + 2) / 153
  let day := dayOfYear - (153 * shifted + 2) / 5 + 1
  let month := if shifted < 10 then shifted + 3 else shifted - 9
  let year := yearOfEra + era * 400 + if month ≤ 2 then 1 else 0
  (year, month.toNat, day.toNat)

def isLeapYear (year : Int) : Bool :=
  year % 4 = 0 && (year % 100 ≠ 0 || year % 400 = 0)

def daysInMonth (year : Int) (month : Nat) : Nat :=
  if month = 2 then if isLeapYear year then 29 else 28
  else if [4, 6, 9, 11].contains month then 30 else 31

def padded (width n : Nat) : String :=
  let digits := toString n
  String.ofList (List.replicate (width - digits.length) '0') ++ digits

def yearText (year : Int) : String :=
  if 0 ≤ year ∧ year ≤ 9999 then padded 4 year.toNat
  else (if year < 0 then "-" else "+") ++ padded 4 year.natAbs

def fractionText (nanos : Nat) : String :=
  if nanos = 0 then ""
  else if nanos % 1000000 = 0 then "." ++ padded 3 (nanos / 1000000)
  else if nanos % 1000 = 0 then "." ++ padded 6 (nanos / 1000)
  else "." ++ padded 9 nanos

def billion : Nat := 1000000000

def display (t : Timestamp) : String :=
  let (year, month, day) := civilOfDay (t.seconds / 86400)
  let second := (t.seconds % 86400).toNat
  let leap := t.nanos / billion
  yearText year ++ "-" ++ padded 2 month ++ "-" ++ padded 2 day ++ "T"
    ++ padded 2 (second / 3600) ++ ":" ++ padded 2 (second / 60 % 60) ++ ":"
    ++ padded 2 (second % 60 + leap) ++ fractionText (t.nanos % billion) ++ "Z"

/-- Date and time to the second, as tables show them. -/
def displayPlain (t : Timestamp) : String :=
  let (year, month, day) := civilOfDay (t.seconds / 86400)
  let second := (t.seconds % 86400).toNat
  yearText year ++ "-" ++ padded 2 month ++ "-" ++ padded 2 day ++ " "
    ++ padded 2 (second / 3600) ++ ":" ++ padded 2 (second / 60 % 60) ++ ":"
    ++ padded 2 (second % 60 + t.nanos / billion) ++ " UTC"

def skipBlanks (cs : List Char) : List Char := cs.dropWhile Text.isBlank

def takeNumber? (width : Nat) (cs : List Char) : Option (Nat × List Char) :=
  let digits := ((skipBlanks cs).takeWhile Char.isDigit).take width
  if digits = [] then none
  else some (Decimal.naturalOf digits, (skipBlanks cs).drop digits.length)

def takeMark? (mark : Char) (cs : List Char) : Option (List Char) :=
  match skipBlanks cs with
  | c :: rest => if c = mark then some rest else none
  | [] => none

/-- A year of four digits at most, or of any length after a sign. -/
def takeYear? (cs : List Char) : Option (Int × List Char) :=
  match skipBlanks cs with
  | '-' :: rest =>
    if (rest.head?.any Char.isDigit) then
      (takeNumber? rest.length rest).map fun (n, rest) => (-n, rest)
    else none
  | '+' :: rest =>
    if (rest.head?.any Char.isDigit) then
      (takeNumber? rest.length rest).map fun (n, rest) => (n, rest)
    else none
  | rest => (takeNumber? 4 rest).map fun (n, rest) => (n, rest)

/-- The decimal places of the seconds, as nanoseconds; further places are cut off. -/
def takeFraction? : List Char → Option (Nat × List Char)
  | '.' :: rest =>
    let digits := rest.takeWhile Char.isDigit
    let kept := digits.take 9
    if digits = [] then none
    else some (Decimal.naturalOf kept * Nat.pow 10 (9 - kept.length), rest.drop digits.length)
  | cs => some (0, cs)

def twoDigits? : List Char → Option (Nat × List Char)
  | a :: b :: rest =>
    if a.isDigit ∧ b.isDigit then some (Decimal.naturalOf [a, b], rest) else none
  | _ => none

def takeHourMinute? (cs : List Char) : Option (Int × List Char) := do
  let (hours, rest) ← twoDigits? cs
  let (minutes, rest) ← twoDigits? (rest.dropWhile fun c => c = ':' || Text.isBlank c)
  if minutes < 60 ∧ hours < 24 then return (hours * 3600 + minutes * 60, rest) else none

def takeOffset? (cs : List Char) : Option (Int × List Char) :=
  match skipBlanks cs with
  | 'Z' :: rest | 'z' :: rest => some (0, rest)
  | '+' :: rest => takeHourMinute? rest
  | '-' :: rest | '\u2212' :: rest =>
    (takeHourMinute? rest).map fun (offset, rest) => (-offset, rest)
  | a :: b :: c :: rest =>
    if [a, b, c].map Char.toUpper = ['U', 'T', 'C'] then some (0, rest) else none
  | _ => none

def takeSeparator? : List Char → Option (List Char)
  | c :: rest => if c = 'T' ∨ c = 't' ∨ c = ' ' then some rest else none
  | [] => none

def inCalendar (year : Int) : Bool := -262143 ≤ year && year ≤ 262142

/-- Whether there is such a time of such a day; a minute may have a leap second. -/
def isCivil (year : Int) (month day hour minute second : Nat) : Bool :=
  inCalendar year && 1 ≤ month && month ≤ 12 && 1 ≤ day && day ≤ daysInMonth year month
    && hour ≤ 23 && minute ≤ 59 && second ≤ 60

/-- Reads an instant whose year is in the calendar, both at its own offset and at offset zero. -/
def ofChars? (cs : List Char) : Option Timestamp := do
  let (year, cs) ← takeYear? cs
  let (month, cs) ← takeNumber? 2 (← takeMark? '-' cs)
  let (day, cs) ← takeNumber? 2 (← takeMark? '-' cs)
  let (hour, cs) ← takeNumber? 2 (← takeSeparator? cs)
  let (minute, cs) ← takeNumber? 2 (← takeMark? ':' cs)
  let (second, cs) ← takeNumber? 2 (← takeMark? ':' cs)
  let (nanos, cs) ← takeFraction? cs
  let (offset, cs) ← takeOffset? cs
  if skipBlanks cs ≠ [] ∨ !isCivil year month day hour minute second then none
  else
    let leap : Nat := if second = 60 then 1 else 0
    let seconds :=
      dayNumber year month day * 86400 + hour * 3600 + minute * 60 + (second - leap) - offset
    let (year, _) := civilOfDay (seconds / 86400)
    if inCalendar year then return { seconds, nanos := nanos + leap * billion } else none

def read? (text : String) : Option Timestamp := ofChars? text.toList

end Timestamp

end Storyline
