import DocMapper.Calendar.Date
/-!
# Timestamps

A timestamp is a date with a time of day to the microsecond and, optionally, its distance from
universal time. Without an offset it is a wall-clock reading that names no instant.

`Timestamp.same` compares two timestamps as points in time: by instant when both have an offset,
by reading when neither has one, and never across the two.
-/

namespace DocMapper

/-- The microseconds of a day. -/
def microsecondsPerDay : Nat := 86400000000

/-- A time of day, given by its four numbers. -/
def Calendar.IsTime (hour minute second microsecond : Nat) : Prop :=
  hour < 24 ∧ minute < 60 ∧ second < 60 ∧ microsecond < 1000000

instance (hour minute second microsecond : Nat) :
    Decidable (Calendar.IsTime hour minute second microsecond) := by
  unfold Calendar.IsTime; infer_instance

/-- A distance from universal time, in microseconds; it is shorter than a day. -/
structure Offset where
  microseconds : Int
  /-- whether it was worked out from input rather than given; it is shown differently then -/
  fromInput : Bool := false
  valid : microseconds.natAbs < microsecondsPerDay := by decide
  deriving DecidableEq

namespace Offset

/-- Universal time itself. -/
def utc : Offset := ⟨0, false, by decide⟩

/-- The offset of a number of microseconds, if it is shorter than a day. -/
def of? (microseconds : Int) (fromInput : Bool) : Option Offset :=
  if h : microseconds.natAbs < microsecondsPerDay then some ⟨microseconds, fromInput, h⟩ else none

@[simp] theorem of?_self (o : Offset) : of? o.microseconds o.fromInput = some o := by
  simp [of?, o.valid]

end Offset

/-- A date and a time of day, with an optional offset. -/
structure Timestamp where
  date : Date
  hour : Nat
  minute : Nat
  second : Nat
  microsecond : Nat
  offset : Option Offset
  valid : Calendar.IsTime hour minute second microsecond := by decide
  deriving DecidableEq

namespace Timestamp

/-- The timestamp of a date, four numbers and an offset, if the numbers name a time of day. -/
def of? (date : Date) (hour minute second microsecond : Nat) (offset : Option Offset) :
    Option Timestamp :=
  if h : Calendar.IsTime hour minute second microsecond then
    some ⟨date, hour, minute, second, microsecond, offset, h⟩
  else none

@[simp] theorem of?_self (t : Timestamp) :
    of? t.date t.hour t.minute t.second t.microsecond t.offset = some t := by
  simp [of?, t.valid]

/-- The microseconds of the reading since the start of day 0. -/
def reading (t : Timestamp) : Int :=
  (t.date.ordinal : Int) * microsecondsPerDay
    + (((t.hour * 60 + t.minute) * 60 + t.second) * 1000000 + t.microsecond : Nat)

/-- The reading in universal time, when the timestamp names an instant. -/
def instant? (t : Timestamp) : Option Int :=
  t.offset.map fun o => t.reading - o.microseconds

/-- Whether two timestamps are the same point in time. -/
def same (s t : Timestamp) : Bool :=
  match s.instant?, t.instant? with
  | some i, some j => i == j
  | none, none => s.reading == t.reading
  | _, _ => false

/-- The order of two timestamps, if both or neither have an offset. -/
def compare? (s t : Timestamp) : Option Ordering :=
  match s.instant?, t.instant? with
  | some i, some j => some (compare i j)
  | none, none => some (compare s.reading t.reading)
  | _, _ => none

/-- The timestamp at a number of microseconds after the start of day 0, read without offset. -/
def ofReading? (microseconds : Int) (offset : Option Offset) : Option Timestamp := do
  let date ← Date.ofOrdinal? (microseconds / microsecondsPerDay)
  let rest := (microseconds % microsecondsPerDay).toNat
  let seconds := rest / 1000000
  of? date (seconds / 3600) (seconds / 60 % 60) (seconds % 60) (rest % 1000000) offset

end Timestamp

end DocMapper
