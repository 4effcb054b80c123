/-!
# Dates

A date of the proleptic Gregorian calendar between the years 1 and 9999. Validity is part of the
type; `Date.of?` builds a date from three numbers exactly when they name one.

`Date.ordinal` counts days, the first of January of year 1 being day 1, and `Date.ofOrdinal?` is
its partner. `Date.ofWeek?` finds a date from its week-numbering year, week and weekday.
-/

namespace DocMapper

namespace Calendar

/-- Whether a year has a twenty-ninth of February. -/
def isLeap (year : Nat) : Bool :=
  year % 4 = 0 && (year % 100 ≠ 0 || year % 400 = 0)

/-- The number of days of a month; months outside 1 to 12 have none. -/
def daysInMonth (year month : Nat) : Nat :=
  if month = 2 then (if isLeap year then 29 else 28)
  else if month = 4 ∨ month = 6 ∨ month = 9 ∨ month = 11 then 30
  else if 1 ≤ month ∧ month ≤ 12 then 31
  else 0

/-- Whether three numbers name a date. -/
def IsDate (year month day : Nat) : Prop :=
  1 ≤ year ∧ year ≤ 9999 ∧ 1 ≤ month ∧ month ≤ 12 ∧ 1 ≤ day ∧ day ≤ daysInMonth year month

instance (year month day : Nat) : Decidable (IsDate year month day) := by
  unfold IsDate; infer_instance

/-- The number of days before the first day of a year. -/
def daysBeforeYear (year : Nat) : Nat :=
  let y := year - 1
  y * 365 + y / 4 - y / 100 + y / 400

/-- The number of days of a year before the first day of a month. -/
def daysBeforeMonth (year month : Nat) : Nat :=
  ((List.range (month - 1)).map fun m => daysInMonth year (m + 1)).foldr (· + ·) 0

/-- The weekday of a day count, Monday being 0. -/
def weekday (ordinal : Nat) : Nat := (ordinal + 6) % 7

/-- The day count of the Monday of the first week of a week-numbering year. The first week is the
one that holds the first Thursday. -/
def firstMonday (year : Nat) : Int :=
  let firstDay := daysBeforeYear year + 1
  let day := weekday firstDay
  if 3 < day then (firstDay : Int) - day + 7 else (firstDay : Int) - day

/-- Whether a week-numbering year has a fifty-third week. -/
def hasWeek53 (year : Nat) : Bool :=
  let day := weekday (daysBeforeYear year + 1)
  day = 3 || (day = 2 && isLeap year)

/-- The month in which a day of a year falls, with the day of that month. -/
def splitDayOfYear (year : Nat) : Nat → List Nat → Nat × Nat
  | rest, [] => (12, rest)
  | rest, month :: months =>
    if rest ≤ daysInMonth year month then (month, rest)
    else splitDayOfYear year (rest - daysInMonth year month) months

end Calendar

open Calendar

/-- A date of the Gregorian calendar. -/
structure Date where
  year : Nat
  month : Nat
  day : Nat
  valid : IsDate year month day := by decide
  deriving DecidableEq

namespace Date

instance : Inhabited Date := ⟨⟨1, 1, 1, by decide⟩⟩

/-- The date that three numbers name, if they name one. -/
def of? (year month day : Nat) : Option Date :=
  if h : IsDate year month day then some ⟨year, month, day, h⟩ else none

@[simp] theorem of?_self (d : Date) : of? d.year d.month d.day = some d := by
  simp [of?, d.valid]

/-- The day count of a date. -/
def ordinal (d : Date) : Nat :=
  daysBeforeYear d.year + daysBeforeMonth d.year d.month + d.day

/-- The date of a day count. -/
def ofOrdinal? (ordinal : Int) : Option Date :=
  if ordinal < 1 then none
  else
    let days := ordinal.toNat - 1
    -- cycles of 400, 100, 4 and 1 years; the last day of a long cycle stays in it
    let cycles400 := days / 146097
    let rest400 := days % 146097
    let cycles100 := min (rest400 / 36524) 3
    let rest100 := rest400 - cycles100 * 36524
    let cycles4 := rest100 / 1461
    let rest4 := rest100 % 1461
    let cycles1 := min (rest4 / 365) 3
    let dayOfYear := rest4 - cycles1 * 365 + 1
    let year := cycles400 * 400 + cycles100 * 100 + cycles4 * 4 + cycles1 + 1
    let (month, day) := splitDayOfYear year dayOfYear [1, 2, 3, 4, 5, 6, 7, 8, 9, 10, 11]
    of? year month day

/-- The date of a weekday (Monday being 1) of a numbered week. -/
def ofWeek? (year week day : Nat) : Option Date :=
  if year < 1 ∨ 9999 < year ∨ week < 1 ∨ 53 < week ∨ day < 1 ∨ 7 < day then none
  else if week = 53 ∧ hasWeek53 year = false then none
  else ofOrdinal? (firstMonday year + (week - 1) * 7 + day - 1)

end Date

end DocMapper
