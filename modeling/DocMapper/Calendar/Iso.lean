import DocMapper.Calendar.Timestamp
import DocMapper.Number.Reading
/-!
# Calendar text

How dates and timestamps are written and read in the international notation.

Written forms are canonical: `Date.iso`, and `Timestamp.iso` with a given character between date
and time. The reader `Timestamp.ofIso?` accepts more: compact dates, week dates, any single
character between date and time, times cut short after any of their parts, a decimal comma, and
fractions of any length, of which six digits count.
-/

namespace DocMapper

namespace Calendar

/-- A number with at least `width` digits. -/
def padded (width n : Nat) : List Char :=
  let digits := Nat.toDigits 10 n
  List.replicate (width - digits.length) '0' ++ digits

/-- Hours and minutes, then seconds and microseconds as far as they are not zero. -/
def offsetText (o : Offset) : List Char :=
  let magnitude := o.microseconds.natAbs
  let seconds := magnitude / 1000000
  let microseconds := magnitude % 1000000
  (if o.microseconds < 0 then '-' else '+') :: padded 2 (seconds / 3600)
    ++ ':' :: padded 2 (seconds / 60 % 60)
    ++ (if seconds % 60 = 0 ∧ microseconds = 0 then [] else ':' :: padded 2 (seconds % 60))
    ++ (if microseconds = 0 then [] else '.' :: padded 6 microseconds)

/-- `count` digits at the start of a text, as a number, and the rest. -/
def takeNumber? (count : Nat) (text : List Char) : Option (Nat × List Char) :=
  let digits := text.take count
  if digits.length = count ∧ digits.all isDigit then some (natOfDigits digits, text.drop count)
  else none

end Calendar

open Calendar

/-- The canonical text of a date. -/
def Date.isoChars (d : Date) : List Char :=
  padded 4 d.year ++ '-' :: padded 2 d.month ++ '-' :: padded 2 d.day

/-- The canonical text of a date. -/
def Date.iso (d : Date) : String := String.ofList d.isoChars

/-- The canonical text of a time of day: microseconds are left out when they are zero. -/
def Timestamp.clockChars (t : Timestamp) : List Char :=
  padded 2 t.hour ++ ':' :: padded 2 t.minute ++ ':' :: padded 2 t.second
    ++ (if t.microsecond = 0 then [] else '.' :: padded 6 t.microsecond)

/-- The canonical text of a timestamp, with a character between date and time. -/
def Timestamp.isoChars (separator : Char) (t : Timestamp) : List Char :=
  t.date.isoChars ++ separator :: t.clockChars
    ++ (match t.offset with
      | none => []
      | some o => offsetText o)

/-- The canonical text of a timestamp. -/
def Timestamp.iso (t : Timestamp) : String := String.ofList (t.isoChars 'T')

/-- The exchange text of a timestamp: universal time is marked by a `Z`, and any other offset is
given in whole minutes. -/
def Timestamp.zulu (t : Timestamp) : String :=
  let reading := t.date.isoChars ++ 'T' :: t.clockChars
  match t.offset with
  | none => String.ofList reading
  | some o =>
    let minutes := o.microseconds.natAbs / 60000000
    if o.microseconds = 0 then String.ofList (reading ++ ['Z'])
    else
      String.ofList (reading ++ (if o.microseconds < 0 then '-' else '+')
        :: padded 2 (minutes / 60) ++ ':' :: padded 2 (minutes % 60))

/-! ## Reading -/

namespace Calendar

/-- Where the date of a timestamp's text ends. The fifth and sixth characters tell the date
notations apart; after a week number the digits that follow decide. -/
def dateLength (text : List Char) : Nat :=
  if text.length = 7 then 7
  else if text[4]? = some '-' then
    if text[5]? = some 'W' then
      if text[8]? = some '-' then
        if (text[10]?.map isDigit).getD false then 8 else 10
      else 8
    else 10
  else if text[4]? = some 'W' then
    let digits := ((text.drop 7).takeWhile isDigit).length
    if digits < 2 then 7 + digits
    else if digits % 2 = 1 then 7
    else 8
  else 8

/-- A date at the start of a text that reserves `length` characters for it. -/
def readDate? (length : Nat) (text : List Char) : Option Date := do
  let (year, rest) ← takeNumber? 4 text
  let dashed := rest.head? = some '-'
  let rest := if dashed then rest.drop 1 else rest
  if rest.head? = some 'W' then
    let (week, rest) ← takeNumber? 2 (rest.drop 1)
    let used := if dashed then 8 else 7
    if used < length then
      let rest ← if dashed then (if rest.head? = some '-' then some (rest.drop 1) else none)
        else some rest
      let (day, _) ← takeNumber? 1 rest
      Date.ofWeek? year week day
    else Date.ofWeek? year week 1
  else
    let (month, rest) ← takeNumber? 2 rest
    let rest ← if dashed then (if rest.head? = some '-' then some (rest.drop 1) else none)
      else some rest
    let (day, _) ← takeNumber? 2 rest
    Date.of? year month day

/-- A clock reading, and whether something follows that belongs to it no more. -/
structure ClockReading where
  hour : Nat
  minute : Nat
  second : Nat
  microsecond : Nat
  trailing : Bool
  deriving DecidableEq

/-- The fraction of a second: up to six digits count and further digits are passed over. -/
def readFraction? (followed : Bool) (text : List Char) : Option (Nat × Bool) := do
  let count := min 6 text.length
  let (digits, rest) ← takeNumber? count text
  let after := rest.dropWhile isDigit
  some (digits * Nat.pow 10 (6 - count), followed || !after.isEmpty)

/-- The hours of a clock reading, then as many of minutes, seconds and fraction as are there; a
fraction may follow any of the three. `followed` tells that the text is cut off from what follows
it, so that a reading cut short counts as trailed. Whether colons separate the parts is settled
after the hours. -/
def readClock? (followed : Bool) (text : List Char) : Option ClockReading := do
  let (hour, rest) ← takeNumber? 2 text
  match rest with
  | [] => some ⟨hour, 0, 0, 0, followed⟩
  | [_] => some ⟨hour, 0, 0, 0, true⟩
  | mark :: more =>
    let colons := mark = ':'
    if mark = '.' ∨ mark = ',' then
      let (microsecond, trailing) ← readFraction? followed more
      some ⟨hour, 0, 0, microsecond, trailing⟩
    else
      let (minute, rest) ← takeNumber? 2 (if colons then more else rest)
      match rest with
      | [] => some ⟨hour, minute, 0, 0, followed⟩
      | [_] => some ⟨hour, minute, 0, 0, true⟩
      | mark :: more =>
        if mark = '.' ∨ mark = ',' then
          let (microsecond, trailing) ← readFraction? followed more
          some ⟨hour, minute, 0, microsecond, trailing⟩
        else if colons ∧ mark ≠ ':' then none
        else
          let (second, rest) ← takeNumber? 2 (if colons then more else rest)
          match rest with
          | [] => some ⟨hour, minute, second, 0, followed⟩
          | [_] => some ⟨hour, minute, second, 0, true⟩
          | mark :: more =>
            if mark = '.' ∨ mark = ',' ∨ (colons ∧ mark = ':') then
              let (microsecond, trailing) ← readFraction? followed more
              some ⟨hour, minute, second, microsecond, trailing⟩
            else if colons then none
            else
              let (microsecond, trailing) ← readFraction? followed rest
              some ⟨hour, minute, second, microsecond, trailing⟩

/-- Whether a character starts an offset. -/
def startsOffset (c : Char) : Bool := c == '+' || c == '-' || c == 'Z'

/-- The offset at the end of a text, from its sign on. -/
def readOffset? : List Char → Option Offset
  | 'Z' :: rest => if rest.isEmpty then some .utc else none
  | sign :: rest => do
    let clock ← readClock? false rest
    if clock.trailing then none
    else
      let seconds := (clock.hour * 60 + clock.minute) * 60 + clock.second
      if seconds = 0 then some .utc
      else
        let microseconds : Int := (seconds * 1000000 + clock.microsecond : Nat)
        Offset.of? (if sign = '-' then -microseconds else microseconds) false
  | [] => none

/-- The time and offset of a timestamp on a given date. -/
def readTime? (date : Date) (text : List Char) : Option Timestamp := do
  let clockText := text.takeWhile fun c => !startsOffset c
  let offsetText := text.dropWhile fun c => !startsOffset c
  let clock ← readClock? (!offsetText.isEmpty) clockText
  if offsetText.isEmpty then
    if clock.trailing then none
    else Timestamp.of? date clock.hour clock.minute clock.second clock.microsecond none
  else
    let offset ← readOffset? offsetText
    Timestamp.of? date clock.hour clock.minute clock.second clock.microsecond (some offset)

/-- Stands for a byte after the first of a character. -/
def continuation : Char := '\x80'

/-- A text as it is measured: a character counts as many units as it has bytes. -/
def units (text : List Char) : List Char :=
  text.flatMap fun c => c :: List.replicate (c.utf8Size - 1) continuation

/-- A timestamp from its units; a date alone is its first instant. -/
def readTimestamp? (text : List Char) : Option Timestamp := do
  if text.length < 7 then none
  else
    let length := dateLength text
    let date ← readDate? length text
    match text.drop length with
    | [] => Timestamp.of? date 0 0 0 0 none
    | _ :: time => readTime? date (time.dropWhile (· = continuation))

end Calendar

/-- Reads a timestamp. -/
def Timestamp.ofIso? (text : String) : Option Timestamp := readTimestamp? (units text.toList)

/-- Reads a date in one of the three lengths a date has. -/
def Date.ofIso? (text : String) : Option Date :=
  let chars := units text.toList
  if chars.length = 7 ∨ chars.length = 8 ∨ chars.length = 10 then readDate? chars.length chars
  else none

end DocMapper
