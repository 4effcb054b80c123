import DocMapper.Calendar.Timestamp
import DocMapper.Number.Reading
/-!
# Calendar text in input

Timestamps and dates in input are written as `YYYY-MM-DD`, with a time `HH:MM[:SS[.ffffff]]` and an
offset behind a separator, or as a number of seconds or milliseconds since 1970. A text that is
neither is refused with the reason why, found from left to right. A time in the year 0 can be
written but is not in the calendar (`Unread.yearZero`).

`readInputDate` reads a date and `readInputTimestamp` a timestamp; `timestampOfUnix` is the
timestamp of a whole count and `timestampOfFloat` that of any number. A count that is too large for
seconds is taken as milliseconds.
-/

namespace DocMapper.Calendar

/-- Why nothing could be read. -/
inductive Unread
  | reason (text : String)
  /-- a time in the year 0, at midnight or not -/
  | yearZero (midnight : Bool)
  deriving DecidableEq

/-- The number of bytes that encode a text. -/
def size (text : List Char) : Nat := (text.map Char.utf8Size).foldr (· + ·) 0

/-- A digit at a position, or the reason given when there is none. -/
def digitAt (text : List Char) (position : Nat) (reason : String) : Except String Nat :=
  match text[position]? with
  | some c => if isDigit c then .ok (digitValue c) else .error reason
  | none => .error reason

/-- Two digits at a position, as a number. -/
def twoDigits (text : List Char) (position : Nat) (reason : String) : Except String Nat := do
  let tens ← digitAt text position reason
  let ones ← digitAt text (position + 1) reason
  return tens * 10 + ones

/-- Demands a character at a position. -/
def demand (text : List Char) (position : Nat) (allowed : List Char) (reason : String) :
    Except String Unit :=
  match text[position]? with
  | some c => if allowed.contains c then .ok () else .error reason
  | none => .error reason

/-- The date at the start of a text; there is none in the year 0. -/
def leadingDate (text : List Char) : Except String (Option Date) := do
  if size text < 10 then throw "input is too short"
  let century ← twoDigits text 0 "invalid character in year"
  let rest ← twoDigits text 2 "invalid character in year"
  demand text 4 ['-'] "invalid date separator, expected `-`"
  let month ← twoDigits text 5 "invalid character in month"
  demand text 7 ['-'] "invalid date separator, expected `-`"
  let day ← twoDigits text 8 "invalid character in day"
  let year := century * 100 + rest
  if month < 1 ∨ 12 < month then throw "month value is outside expected range of 1-12"
  if day < 1 ∨ daysInMonth year month < day then
    throw "day value is outside expected range"
  return Date.of? year month day

/-- Seconds with an optional fraction, of which six digits count, and the position behind them. -/
def secondsAt (text : List Char) (position : Nat) : Except String (Nat × Nat × Nat) := do
  if text[position]? = some ':' then
    let second ← twoDigits text (position + 1) "invalid character in second"
    if 59 < second then throw "second value is outside expected range of 0-59"
    let mark := text[position + 3]?
    if mark = some '.' ∨ mark = some ',' then
      let digits := (text.drop (position + 4)).takeWhile isDigit
      if digits.isEmpty then throw "second fraction digits missing after `.`"
      let counted := digits.take 6
      let microsecond := natOfDigits counted * Nat.pow 10 (6 - counted.length)
      return (second, microsecond, position + 4 + digits.length)
    else return (second, 0, position + 3)
  else return (0, 0, position)

/-- The offset at a position, if there is one, and the position behind it. -/
def offsetAt (text : List Char) (position : Nat) : Except String (Option Offset × Nat) := do
  match text[position]? with
  | none => return (none, position)
  | some sign =>
    if sign = 'Z' ∨ sign = 'z' then return (some { Offset.utc with fromInput := true }, position + 1)
    else if sign = '+' ∨ sign = '-' ∨ sign = '−' then
      let hour ← twoDigits text (position + 1) "invalid timezone hour"
      let next := if text[position + 3]? = some ':' then position + 4 else position + 3
      let minute ← twoDigits text next "invalid timezone minute"
      if 59 < minute then throw "timezone minute value is outside expected range of 0-59"
      let magnitude : Int := ((hour * 60 + minute) * 60000000 : Nat)
      match Offset.of? (if sign = '+' then magnitude else -magnitude) true with
      | some offset => return (some offset, next + 2)
      | none => throw "timezone offset must be less than 24 hours"
    else throw "invalid timezone sign"

/-- The time of day and the offset that fill a text from its twelfth character on: hour, minute,
second and microsecond. -/
def trailingTime (text : List Char) : Except String ((Nat × Nat × Nat × Nat) × Option Offset) := do
  demand text 10 ['T', 't', ' ', '_']
    "invalid datetime separator, expected `T`, `t`, `_` or space"
  if size text < 16 then throw "input is too short"
  let hour ← twoDigits text 11 "invalid character in hour"
  demand text 13 [':'] "invalid time separator, expected `:`"
  let minute ← twoDigits text 14 "invalid character in minute"
  if 23 < hour then throw "hour value is outside expected range of 0-23"
  if 59 < minute then throw "minute value is outside expected range of 0-59"
  let (second, microsecond, next) ← secondsAt text 16
  let (offset, next) ← offsetAt text next
  if next < text.length then throw "unexpected extra characters at the end of the input"
  return ((hour, minute, second, microsecond), offset)

/-- A timestamp that fills a text. -/
def fullTimestamp (text : List Char) : Except Unread Timestamp := do
  let date ← (leadingDate text).mapError Unread.reason
  let ((hour, minute, second, microsecond), offset) ← (trailingTime text).mapError Unread.reason
  match date with
  | none => throw (.yearZero (hour + minute + second + microsecond == 0))
  | some date =>
    match Timestamp.of? date hour minute second microsecond offset with
    | some t => return t
    | none => throw (.reason "hour value is outside expected range of 0-23")

/-- The day count of the first of January 1970. -/
def unixEpoch : Int := 719163

/-- The largest count that is taken as seconds. -/
def largestSeconds : Nat := 20000000000

/-- The reason why a count is too far back. -/
def tooEarly : Unread := .reason "dates before 0000 are not supported as unix timestamps"

/-- The reason why a count is too far ahead. -/
def tooLate : Unread := .reason "dates after 9999 are not supported as unix timestamps"

/-- The timestamp at a number of microseconds since 1970. -/
def timestampOfMicroseconds (microseconds : Int) : Except Unread Timestamp :=
  let seconds := microseconds / 1000000
  if seconds < -62167219200 then .error tooEarly
  else if 253402300799 < seconds then .error tooLate
  else
    let utc : Offset := { Offset.utc with fromInput := true }
    match Timestamp.ofReading? (unixEpoch * microsecondsPerDay + microseconds) (some utc) with
    | some t => .ok t
    | none => .error (.yearZero (microseconds % microsecondsPerDay == 0))

/-- The timestamp of a count of seconds since 1970, or of milliseconds when it is too large, and of
further microseconds. -/
def timestampOfUnix (count : Int) (microseconds : Nat) : Except Unread Timestamp :=
  if count.natAbs ≤ largestSeconds then timestampOfMicroseconds (count * 1000000 + microseconds)
  else timestampOfMicroseconds (count * 1000 + microseconds)

/-- A number of seconds since 1970 as whole seconds and microseconds. Each step is rounded to the
nearest floating-point number, and half a microsecond counts as one. -/
def splitSeconds (num : Int) (den : Nat) : Int × Nat :=
  let seconds := num / den
  let rest := Binary64.ofFraction (num - seconds * den) den
  match rest.toFraction? with
  | none => (seconds, 0)
  | some (num, den) =>
    match (Binary64.ofFraction (num * 1000000) den).toFraction? with
    | none => (seconds, 0)
    | some (num, den) => (seconds, ((2 * num + den) / (2 * den)).toNat)

/-- The timestamp of a number of seconds since 1970, or of milliseconds when it is too large. -/
def timestampOfFloat (x : Binary64) : Except Unread Timestamp :=
  match x.kind, x.toFraction? with
  | .notANumber, _ => .error (.reason "NaN values not permitted")
  | .infinite true, _ => .error tooEarly
  | .infinite false, _ => .error tooLate
  | .finite .., none => .error tooLate
  | .finite .., some (num, den) =>
    let seconds :=
      if num.natAbs ≤ largestSeconds * den then some (num, den)
      else (Binary64.ofFraction num (den * 1000)).toFraction?
    match seconds with
    | none => .error tooLate
    | some (num, den) =>
      let (seconds, microseconds) := splitSeconds num den
      timestampOfUnix seconds microseconds

/-- What a number written in digits gives as a timestamp: nothing if it has an exponent but no
point. -/
def timestampOfDigits? (text : List Char) : Option (Except Unread Timestamp) :=
  match Decimal.ofChars? text with
  | none => none
  | some d =>
    if !d.isReal then some (timestampOfUnix d.toInt 0)
    else if text.contains '.' then some (timestampOfFloat d.toBinary64)
    else none

/-- Reads a timestamp, or tells why a text is none. -/
def readInputTimestamp (text : List Char) : Except Unread Timestamp :=
  match fullTimestamp text with
  | .error (.reason reason) => (timestampOfDigits? text).getD (.error (.reason reason))
  | outcome => outcome

/-- Reads a date, or tells why a text is none. -/
def readInputDate (text : List Char) : Except Unread Date :=
  match leadingDate text with
  | .ok date =>
    if 10 < text.length then
      .error (.reason "unexpected extra characters at the end of the input")
    else
      match date with
      | some date => .ok date
      | none => .error (.yearZero true)
  | .error reason =>
    match Decimal.ofChars? text with
    | some d =>
      if d.isReal then .error (.reason reason)
      else
        match timestampOfUnix d.toInt 0 with
        | .ok t =>
          if t.reading % microsecondsPerDay = 0 then .ok t.date
          else .error (.reason "unix timestamp is not an exact date")
        | .error unread => .error unread
    | none => .error (.reason reason)

end DocMapper.Calendar
