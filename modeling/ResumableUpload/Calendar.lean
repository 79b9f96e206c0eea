import ResumableUpload.Text.Decimal
/-!
# The calendar

Instants are counted in seconds from the beginning of 1970.  The count passes
over leap seconds; a moment within one is the second before it with a fraction
of more than a second.  Instants are shown in the proleptic Gregorian calendar,
which here ends with the year 262142 and begins with the year -262143.
-/

namespace ResumableUpload

/-- A point in time. -/
structure Instant where
  /-- The whole seconds since the beginning of 1970, negative before it. -/
  seconds : Int
  /--
  The nanoseconds since that second began.  They are less than one second,
  except within a leap second, where they are less than two.
  -/
  fraction : Nat := 0
  deriving DecidableEq, Repr

namespace Instant

/-- The instant that lies a number of milliseconds after 1970. -/
def ofMilliseconds (milliseconds : Int) : Instant :=
  ⟨milliseconds / 1000, (milliseconds % 1000).toNat * 1000000⟩

/-- The whole milliseconds since the beginning of 1970. -/
def milliseconds (instant : Instant) : Int :=
  instant.seconds * 1000 + (instant.fraction / 1000000 : Nat)

def before (earlier later : Instant) : Bool :=
  earlier.seconds < later.seconds
    || earlier.seconds == later.seconds && earlier.fraction < later.fraction

def firstSecond : Int := -8334601228800

def lastSecond : Int := 8210266876799

/-- Whether the calendar has a date for an instant. -/
def inCalendar (instant : Instant) : Bool :=
  firstSecond ≤ instant.seconds && instant.seconds ≤ lastSecond

/-- Whether a clock can show an instant: clocks begin with 1970. -/
def isReadable (instant : Instant) : Bool :=
  0 ≤ instant.seconds && instant.inCalendar

/--
The instant a number of seconds later.  Who leaves a leap second lands in an
ordinary one.
-/
def addSeconds (instant : Instant) (count : Nat) : Instant :=
  if count = 0 then instant
  else ⟨instant.seconds + count, instant.fraction % 1000000000⟩

/-- The instant a number of milliseconds later, or earlier if it is negative. -/
def addMilliseconds (instant : Instant) (count : Int) : Instant :=
  ofMilliseconds (instant.milliseconds + count)

end Instant

/-- A date of the proleptic Gregorian calendar. -/
structure CivilDate where
  /-- The year; the year before 1 is 0. -/
  year : Int
  month : Nat
  day : Nat
  deriving DecidableEq, Repr

namespace CivilDate

/--
The date of a day counted from the first of January 1970.  The count is
shifted to eras of four hundred years that begin in March, so that the leap
day is the last day of its year.
-/
def ofDayNumber (number : Int) : CivilDate :=
  let shifted := number + 719468
  let era := shifted / 146097
  let dayOfEra := (shifted % 146097).toNat
  let yearOfEra :=
    (dayOfEra - dayOfEra / 1460 + dayOfEra / 36524 - dayOfEra / 146096) / 365
  let dayOfYear :=
    dayOfEra - (365 * yearOfEra + yearOfEra / 4 - yearOfEra / 100)
  let marchMonth := (5 * dayOfYear + 2) / 153
  let day := dayOfYear - (153 * marchMonth + 2) / 5 + 1
  let month := if marchMonth < 10 then marchMonth + 3 else marchMonth - 9
  let year := (yearOfEra : Int) + era * 400 + (if month ≤ 2 then 1 else 0)
  { year, month, day }

/-- The English abbreviation of a day of the week, counted from Sunday. -/
def weekdayName : Nat → String
  | 0 => "Sun"
  | 1 => "Mon"
  | 2 => "Tue"
  | 3 => "Wed"
  | 4 => "Thu"
  | 5 => "Fri"
  | _ => "Sat"

/-- The English abbreviation of a month, counted from one. -/
def monthName : Nat → String
  | 1 => "Jan"
  | 2 => "Feb"
  | 3 => "Mar"
  | 4 => "Apr"
  | 5 => "May"
  | 6 => "Jun"
  | 7 => "Jul"
  | 8 => "Aug"
  | 9 => "Sep"
  | 10 => "Oct"
  | 11 => "Nov"
  | _ => "Dec"

/--
A year in at least four digits.  Years outside 0 to 9999 carry their sign.
-/
def yearText (year : Int) : String :=
  if year < 0 then "-" ++ Decimal.padded 4 year.natAbs
  else if year ≤ 9999 then Decimal.padded 4 year.natAbs
  else "+" ++ Decimal.padded 4 year.natAbs

end CivilDate

/--
The date and time of day of an instant as HTTP headers write them, such as
`Sun, 06 Nov 1994 08:49:37 GMT`.  The fraction of the second is dropped, and a
leap second is the second 60 of its minute.
-/
def Instant.headerText (instant : Instant) : String :=
  let number := instant.seconds / 86400
  let secondOfDay := (instant.seconds % 86400).toNat
  let date := CivilDate.ofDayNumber number
  CivilDate.weekdayName ((number + 4) % 7).toNat ++ ", "
    ++ Decimal.padded 2 date.day ++ " " ++ CivilDate.monthName date.month
    ++ " " ++ CivilDate.yearText date.year ++ " "
    ++ Decimal.padded 2 (secondOfDay / 3600) ++ ":"
    ++ Decimal.padded 2 (secondOfDay / 60 % 60) ++ ":"
    ++ Decimal.padded 2 (secondOfDay % 60 + instant.fraction / 1000000000)
    ++ " GMT"

end ResumableUpload
