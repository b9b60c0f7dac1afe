/-!
# Calendar dates and times of day

The date and the time at a number of seconds since the start of 1970, in the proleptic Gregorian
calendar. Days are counted in eras of four hundred years that begin in March, so that a leap day
is the last day of its year.
-/

namespace ProxyAutoConfig.Calendar

/-- A date. -/
structure Date where
  year : Int
  /-- Counted from zero for January. -/
  month : Nat
  /-- Counted from one. -/
  day : Nat
  /-- Counted from zero for Sunday. -/
  weekday : Nat
  deriving DecidableEq, Repr

/-- A time of day, in seconds since midnight. -/
abbrev TimeOfDay := Nat

/-- The hour of a time of day. -/
def hour (t : TimeOfDay) : Nat :=
  t / 3600

/-- The seconds of a day. -/
def dayLength : Int := 86400

/-- The days of an era. -/
def eraLength : Int := 146097

/-- The number of days before the start of 1970, counted from March of the year zero. -/
def epoch : Int := 719468

/-- The date so many days after the start of 1970. -/
def dateOfDay (n : Int) : Date :=
  let shifted := n + epoch
  let era := shifted / eraLength
  let dayOfEra := (shifted % eraLength).toNat
  let yearOfEra := (dayOfEra - dayOfEra / 1460 + dayOfEra / 36524 - dayOfEra / 146096) / 365
  let dayOfYear := dayOfEra - (365 * yearOfEra + yearOfEra / 4 - yearOfEra / 100)
  let monthFromMarch := (5 * dayOfYear + 2) / 153
  let month := (monthFromMarch + 2) % 12
  { year := era * 400 + yearOfEra + (if month < 2 then 1 else 0)
    month
    day := dayOfYear - (153 * monthFromMarch + 2) / 5 + 1
    weekday := ((n + 4) % 7).toNat }

/-- The date at a moment. -/
def date (seconds : Int) : Date :=
  dateOfDay (seconds / dayLength)

/-- The time of day at a moment. -/
def timeOfDay (seconds : Int) : TimeOfDay :=
  (seconds % dayLength).toNat

end ProxyAutoConfig.Calendar
