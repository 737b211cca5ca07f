import VpnTray.Text.Decimal

/-!
# The calendar

Times are seconds since the start of 1970, before which they are negative, and
are shown as a date and time of the proleptic Gregorian calendar in UTC. The
calendar repeats every 400 years, which have 146097 days; within such an *era*
the years are counted from the first of March, so that a leap day is the last
day of its year and the months before it have a regular pattern.

* `DateTime.ofSeconds`: the date and time of a number of seconds;
* `DateTime.text`: the text, such as `2026-02-10 18:52:02`.
-/

namespace VpnTray

/-- A date of the proleptic Gregorian calendar; the year before 1 is 0. -/
structure Date where
  year : Int
  month : Nat
  day : Nat
deriving DecidableEq, Repr

namespace Date

/-- The days from the start of year 0's March to the start of 1970. -/
def epoch : Int := 719468

/-- The date that lies `days` days after the first day of 1970. -/
def ofDays (days : Int) : Date :=
  let shifted := days + epoch
  let era := shifted / 146097
  let dayOfEra := (shifted % 146097).toNat
  let yearOfEra := (dayOfEra - dayOfEra / 1460 + dayOfEra / 36524 - dayOfEra / 146096) / 365
  let dayOfYear := dayOfEra - (365 * yearOfEra + yearOfEra / 4 - yearOfEra / 100)
  let march := (5 * dayOfYear + 2) / 153
  let month := if march < 10 then march + 3 else march - 9
  { year := era * 400 + yearOfEra + if month ≤ 2 then 1 else 0
    month
    day := dayOfYear - (153 * march + 2) / 5 + 1 }

/-- The days from the first day of 1970 to a date. -/
def toDays (d : Date) : Int :=
  let year := if d.month ≤ 2 then d.year - 1 else d.year
  let era := year / 400
  let yearOfEra := (year % 400).toNat
  let march := if 2 < d.month then d.month - 3 else d.month + 9
  let dayOfYear := (153 * march + 2) / 5 + d.day - 1
  let dayOfEra := yearOfEra * 365 + yearOfEra / 4 - yearOfEra / 100 + dayOfYear
  era * 146097 + dayOfEra - epoch

end Date

/-- A date and a time of day. -/
structure DateTime extends Date where
  hour : Nat
  minute : Nat
  second : Nat
deriving DecidableEq, Repr

namespace DateTime

/-- The date and time that lies `seconds` seconds after the start of 1970. -/
def ofSeconds (seconds : Int) : DateTime :=
  let rest := (seconds % 86400).toNat
  { Date.ofDays (seconds / 86400) with
    hour := rest / 3600
    minute := rest / 60 % 60
    second := rest % 60 }

/-- The years that can be shown. -/
def firstYear : Int := -262143

@[inherit_doc firstYear]
def lastYear : Int := 262142

/-- The date and time of `seconds`, if its year can be shown. -/
def ofSeconds? (seconds : Int) : Option DateTime :=
  let t := ofSeconds seconds
  if firstYear ≤ t.year && t.year ≤ lastYear then some t else none

/-- A year: at least four digits, with a sign unless there are exactly four digits
    and the year is not negative. -/
def yearText (year : Int) : List Char :=
  let sign := if year < 0 then ['-'] else if 9999 < year then ['+'] else []
  sign ++ Text.decimalPadded 4 year.natAbs

/-- The text of a date and time, such as `2026-02-10 18:52:02`. -/
def text (t : DateTime) : String :=
  let two := Text.decimalPadded 2
  .ofList <| yearText t.year ++ ['-'] ++ two t.month ++ ['-'] ++ two t.day ++ [' '] ++
    two t.hour ++ [':'] ++ two t.minute ++ [':'] ++ two t.second

end DateTime

end VpnTray
