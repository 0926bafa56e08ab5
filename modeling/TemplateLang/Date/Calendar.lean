/-!
# The calendar

Moments, and the fields of a date and a clock that show them.  Days are counted
from the first of January 1970, a Thursday, and turned into years and months by the
rule of the Gregorian calendar, of which four hundred years have 146097 days.
-/

namespace TemplateLang

/-- A moment: seconds since the start of 1970, the nanoseconds of the current
second, and how many seconds local clocks are ahead. -/
structure Moment where
  seconds : Int
  nanosecond : Nat
  offset : Int
deriving DecidableEq, Repr

/-- A date and the time on a clock. -/
structure LocalTime where
  year : Int
  month : Nat
  day : Nat
  hour : Nat
  minute : Nat
  second : Nat
deriving DecidableEq, Repr

namespace Calendar

def secondsPerDay : Int :=
  86400

/-- The number of days from the start of 1970 to a date.  Years are counted from
March, so that the leap day is the last day of a year. -/
def dayNumber (year : Int) (month day : Nat) : Int :=
  let marchYear := if month ≤ 2 then year - 1 else year
  let era := marchYear.fdiv 400
  let yearOfEra := marchYear - era * 400
  let monthFromMarch : Int := ((month + 9) % 12 : Nat)
  let dayOfYear := (153 * monthFromMarch + 2).fdiv 5 + (day : Int) - 1
  let dayOfEra := yearOfEra * 365 + yearOfEra.fdiv 4 - yearOfEra.fdiv 100 + dayOfYear
  era * 146097 + dayOfEra - 719468

/-- The year, month and day of a day's number. -/
def dateOf (number : Int) : Int × Nat × Nat :=
  let shifted := number + 719468
  let era := shifted.fdiv 146097
  let dayOfEra := shifted - era * 146097
  let yearOfEra :=
    (dayOfEra - dayOfEra.fdiv 1460 + dayOfEra.fdiv 36524 - dayOfEra.fdiv 146096).fdiv 365
  let dayOfYear := dayOfEra - (365 * yearOfEra + yearOfEra.fdiv 4 - yearOfEra.fdiv 100)
  let monthFromMarch := (5 * dayOfYear + 2).fdiv 153
  let day := dayOfYear - (153 * monthFromMarch + 2).fdiv 5 + 1
  let month := if monthFromMarch < 10 then monthFromMarch + 3 else monthFromMarch - 9
  let year := yearOfEra + era * 400 + if month ≤ 2 then 1 else 0
  (year, month.toNat, day.toNat)

/-- Days since the last Monday. -/
def fromMonday (number : Int) : Nat :=
  ((number + 3).fmod 7).toNat

/-- Days since the last Sunday. -/
def fromSunday (number : Int) : Nat :=
  ((number + 4).fmod 7).toNat

/-- The day of the year, counted from one. -/
def ordinal (year : Int) (number : Int) : Nat :=
  (number - dayNumber year 1 1).toNat + 1

/-- The number of the week that holds a day, when weeks start `sinceStart` days ago
and the first whole one of a year is week one. -/
def weekOf (ordinal sinceStart : Nat) : Nat :=
  (ordinal + 6 - sinceStart) / 7

/-- The year and number of the week from Monday that holds a day.  A week belongs to
the year that its Thursday is in. -/
def thursdayWeek (number : Int) : Int × Nat :=
  let thursday := number - (fromMonday number : Int) + 3
  let year := (dateOf thursday).1
  (year, (ordinal year thursday - 1) / 7 + 1)

end Calendar

/-- The number of the day of a moment, on local calendars. -/
def Moment.day (moment : Moment) : Int :=
  (moment.seconds + moment.offset).fdiv Calendar.secondsPerDay

/-- A moment on local calendars and clocks. -/
def Moment.localTime (moment : Moment) : LocalTime :=
  let (year, month, day) := Calendar.dateOf moment.day
  let rest := ((moment.seconds + moment.offset).fmod Calendar.secondsPerDay).toNat
  ⟨year, month, day, rest / 3600, rest / 60 % 60, rest % 60⟩

end TemplateLang
