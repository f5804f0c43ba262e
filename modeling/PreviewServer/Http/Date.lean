import PreviewServer.Text.Blanks
import PreviewServer.Text.Decimal

/-!
# Dates in headers

Times are whole seconds since the beginning of 1970. A date is written in the fixed form
`Sun, 06 Nov 1994 08:49:37 GMT` and read in that form and in two older ones, all with exact
lengths. A text that names a day that does not exist, or the wrong day of the week, is no date.

## Main definitions

* `Moment`: a time by its calendar fields
* `Moment.ofSeconds`, `Moment.toSeconds`: the calendar
* `dateText`: the fixed form of a time
* `dateOfText?`: the time that a text names
-/

namespace PreviewServer

/-- A time by its calendar fields; `weekday` counts from Monday as 0. -/
structure Moment where
  year : Nat
  month : Nat
  day : Nat
  hour : Nat
  minute : Nat
  second : Nat
  weekday : Nat
  deriving DecidableEq, Repr

/-! ## The calendar

Days are counted from the first of March of the year 0, so that a leap day is the last day of its
year. Four hundred years have 146097 days. -/

/-- The number of the first day of 1970. -/
def epochDay : Nat := 719468

/-- Year, month and day of the day with a given number. -/
def civilOfDay (number : Nat) : Nat × Nat × Nat :=
  let era := number / 146097
  let dayOfEra := number % 146097
  let yearOfEra :=
    (dayOfEra - dayOfEra / 1460 + dayOfEra / 36524 - dayOfEra / 146096) / 365
  let dayOfYear := dayOfEra - (365 * yearOfEra + yearOfEra / 4 - yearOfEra / 100)
  let monthFromMarch := (5 * dayOfYear + 2) / 153
  let day := dayOfYear - (153 * monthFromMarch + 2) / 5 + 1
  let month := if monthFromMarch < 10 then monthFromMarch + 3 else monthFromMarch - 9
  (400 * era + yearOfEra + (if month ≤ 2 then 1 else 0), month, day)

/-- The number of a day, from its year, month and day. -/
def dayOfCivil (year month day : Nat) : Nat :=
  let marchYear := if month ≤ 2 then year - 1 else year
  let era := marchYear / 400
  let yearOfEra := marchYear % 400
  let monthFromMarch := if 2 < month then month - 3 else month + 9
  let dayOfYear := (153 * monthFromMarch + 2) / 5 + day - 1
  146097 * era + (365 * yearOfEra + yearOfEra / 4 - yearOfEra / 100 + dayOfYear)

/-- The calendar fields of a time. The first day of 1970 was a Thursday. -/
def Moment.ofSeconds (seconds : Nat) : Moment :=
  let days := seconds / 86400
  let rest := seconds % 86400
  let (year, month, day) := civilOfDay (days + epochDay)
  { year, month, day
    hour := rest / 3600
    minute := rest % 3600 / 60
    second := rest % 60
    weekday := (days + 3) % 7 }

/-- The time with given calendar fields, from 1970 on. -/
def Moment.toSeconds (m : Moment) : Nat :=
  86400 * (dayOfCivil m.year m.month m.day - epochDay) + 3600 * m.hour + 60 * m.minute + m.second

/-- Whether the fields name an existing time of the years 1970 to 9999 with its day of the week. -/
def Moment.isValid (m : Moment) : Bool :=
  m.second < 60 && m.minute < 60 && m.hour < 24 && 1 ≤ m.day && m.day ≤ 31 &&
    1 ≤ m.month && m.month ≤ 12 && 1970 ≤ m.year && m.year ≤ 9999 &&
    Moment.ofSeconds m.toSeconds = m

/-! ## Writing -/

/-- The days of the week. -/
def weekdayNames : List String :=
  ["Monday", "Tuesday", "Wednesday", "Thursday", "Friday", "Saturday", "Sunday"]

/-- The short names of the months. -/
def monthNames : List String :=
  ["Jan", "Feb", "Mar", "Apr", "May", "Jun", "Jul", "Aug", "Sep", "Oct", "Nov", "Dec"]

/-- A numeral with zeros in front up to a width. -/
def padded (width n : Nat) : String :=
  let digits := Nat.toDigits 10 n
  String.ofList (List.replicate (width - digits.length) '0' ++ digits)

/-- The short name of a day of the week. -/
def shortWeekday (weekday : Nat) : String :=
  String.ofList ((weekdayNames.getD weekday "").toList.take 3)

/-- The fixed form of a time. -/
def dateText (seconds : Nat) : String :=
  let m := Moment.ofSeconds seconds
  shortWeekday m.weekday ++ ", " ++ padded 2 m.day ++ " " ++ monthNames.getD (m.month - 1) "" ++
    " " ++ padded 4 m.year ++ " " ++ padded 2 m.hour ++ ":" ++ padded 2 m.minute ++ ":" ++
    padded 2 m.second ++ " GMT"

/-! ## Reading

Each form is a sequence of parts with fixed places. The readers take a part off the front and hand
the rest on. -/

/-- Takes a given text off the front. -/
def takeText (expected : String) (cs : List Char) : Option (List Char) :=
  if expected.toList.isPrefixOf cs then some (cs.drop expected.length) else none

/-- Takes a numeral with a given number of digits off the front. -/
def takeNumeral (width : Nat) (cs : List Char) : Option (Nat × List Char) :=
  if width ≤ cs.length then
    (decimalUpTo? 9999 (cs.take width)).map fun n => (n, cs.drop width)
  else none

/-- Takes one of several names off the front and tells which. -/
def takeName (names : List String) (cs : List Char) : Option (Nat × List Char) :=
  (names.findIdx? fun name => name.toList.isPrefixOf cs).map fun i =>
    (i, cs.drop (names.getD i "").length)

/-- Takes hours, minutes and seconds with colons between them. -/
def takeClock (cs : List Char) : Option (Nat × Nat × Nat × List Char) := do
  let (hour, cs) ← takeNumeral 2 cs
  let cs ← takeText ":" cs
  let (minute, cs) ← takeNumeral 2 cs
  let cs ← takeText ":" cs
  let (second, cs) ← takeNumeral 2 cs
  return (hour, minute, second, cs)

/-- Reads the fixed form, `Sun, 06 Nov 1994 08:49:37 GMT`. -/
def fixedDate? (cs : List Char) : Option Moment := do
  let (weekday, cs) ← takeName ((List.range 7).map shortWeekday) cs
  let cs ← takeText ", " cs
  let (day, cs) ← takeNumeral 2 cs
  let cs ← takeText " " cs
  let (month, cs) ← takeName monthNames cs
  let cs ← takeText " " cs
  let (year, cs) ← takeNumeral 4 cs
  let cs ← takeText " " cs
  let (hour, minute, second, cs) ← takeClock cs
  if cs = " GMT".toList then
    return { year, month := month + 1, day, hour, minute, second, weekday }
  else none

/-- Reads the form with long weekday and short year, `Sunday, 06-Nov-94 08:49:37 GMT`. Years below
70 are those of the twenty-first century. The character before the hour is not looked at. -/
def shortYearDate? (cs : List Char) : Option Moment := do
  let (weekday, cs) ← takeName weekdayNames cs
  let cs ← takeText ", " cs
  let (day, cs) ← takeNumeral 2 cs
  let cs ← takeText "-" cs
  let (month, cs) ← takeName monthNames cs
  let cs ← takeText "-" cs
  let (year, cs) ← takeNumeral 2 cs
  let (hour, minute, second, cs) ← takeClock (cs.drop 1)
  if cs = " GMT".toList then
    return { year := if year < 70 then 2000 + year else 1900 + year
             month := month + 1, day, hour, minute, second, weekday }
  else none

/-- Takes a day of the month of two places, the first of which may be blank. -/
def takeDay (cs : List Char) : Option (Nat × List Char) :=
  match cs with
  | ' ' :: cs => takeNumeral 1 cs
  | cs => takeNumeral 2 cs

/-- Reads the form of a clock display, `Sun Nov  6 08:49:37 1994`. -/
def displayDate? (cs : List Char) : Option Moment := do
  let (weekday, cs) ← takeName ((List.range 7).map shortWeekday) cs
  let cs ← takeText " " cs
  let (month, cs) ← takeName monthNames cs
  let cs ← takeText " " cs
  let (day, cs) ← takeDay cs
  let cs ← takeText " " cs
  let (hour, minute, second, cs) ← takeClock cs
  let cs ← takeText " " cs
  let (year, cs) ← takeNumeral 4 cs
  if cs = [] then
    return { year, month := month + 1, day, hour, minute, second, weekday }
  else none

/-- The time that a text names in one of the three forms. Blanks around it do not count. -/
def dateOfText? (s : String) : Option Nat := do
  let cs := trimBlanks s.toList
  let m ← ((fixedDate? cs).or (shortYearDate? cs)).or (displayDate? cs)
  if m.isValid then return m.toSeconds else none

/-- The two functions of the calendar agree on a date and on the form of its text. -/
example : dateText 784111777 = "Sun, 06 Nov 1994 08:49:37 GMT" ∧
    dateOfText? "Sunday, 06-Nov-94 08:49:37 GMT" = some 784111777 ∧
    dateOfText? "Sun Nov  6 08:49:37 1994" = some 784111777 := by decide +kernel

end PreviewServer
