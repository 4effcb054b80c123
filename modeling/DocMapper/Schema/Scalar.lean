import DocMapper.Calendar.Input
import DocMapper.Number.Spelling
import DocMapper.Schema.Flaw
/-!
# Scalars

How a value is read as a text, a number, a truth value, a timestamp or a date. Readings are lax:
numbers may be spelled as text, truth values as words, texts as the bytes that encode them.
-/

namespace DocMapper.Value

/-- The text of a value that is spelled as text or as bytes; other values have none. -/
def spelled? : Value → Option (Option String)
  | .text s => some (some s)
  | .bytes b => some (Text.decode? b)
  | _ => none

/-! ## Texts -/

/-- A value is no text. -/
def notText : Reason := ⟨"string_type", "Input should be a valid string"⟩

/-- Bytes encode no text. -/
def undecodable : Reason :=
  ⟨"string_unicode",
    "Input should be a valid string, unable to parse raw data as a unicode string"⟩

/-- Reads a value as a text. -/
def asText : Value → Checked String
  | .text s => .ok s
  | .bytes b =>
    match Text.decode? b with
    | some s => .ok s
    | none => Checked.reject undecodable (.bytes b)
  | v => Checked.reject notText v

/-! ## Integers -/

/-- An integer has too many digits. -/
def tooLong : Reason :=
  ⟨"int_parsing_size", "Unable to parse input string as an integer, exceeded maximum size"⟩

/-- The integer that a number is, within the 64-bit range. -/
def intOfFloat (x : Binary64) : Checked Int :=
  if x.isFinite then
    match x.toInt? with
    | some n => if n.natAbs < Nat.pow 2 63 then .ok n else Checked.reject tooLong (.float x)
    | none => Checked.reject
        ⟨"int_from_float", "Input should be a valid integer, got a number with a fractional part"⟩
        (.float x)
  else Checked.reject ⟨"finite_number", "Input should be a finite number"⟩ (.float x)

/-- The integer that a text spells, given the value that spells it; bytes that encode no text spell
none. -/
def intOfText (spelling : Option String) (given : Value) : Checked Int :=
  match spelling.elim (.error .malformed) fun s => Spelling.integer s.toList with
  | .ok n => .ok n
  | .error .tooLong => Checked.reject tooLong given
  | .error .malformed => Checked.reject
      ⟨"int_parsing", "Input should be a valid integer, unable to parse string as an integer"⟩ given

/-- Reads a value as an integer. -/
def asInt (v : Value) : Checked Int :=
  match v with
  | .int n => .ok n
  | .bool b => .ok (if b then 1 else 0)
  | .float x => intOfFloat x
  | v =>
    match v.spelled? with
    | some spelling => intOfText spelling v
    | none => Checked.reject ⟨"int_type", "Input should be a valid integer"⟩ v

/-! ## Numbers -/

/-- A value is no number. -/
def notNumber : Reason := ⟨"float_type", "Input should be a valid number"⟩

/-- Reads a value as a number. -/
def asFloat (v : Value) : Checked Binary64 :=
  match v with
  | .float x => .ok x
  | .int n =>
    let x := Binary64.ofInt n
    if x.isFinite then .ok x else Checked.reject notNumber (.int n)
  | .bool b => .ok (Binary64.ofInt (if b then 1 else 0))
  | v =>
    match v.spelled? with
    | some spelling =>
      match spelling.bind fun s => Spelling.number? s.toList with
      | some x => .ok x
      | none => Checked.reject
          ⟨"float_parsing", "Input should be a valid number, unable to parse string as a number"⟩ v
    | none => Checked.reject notNumber v

/-! ## Truth values -/

/-- The truth value of a word. -/
def boolOfText? (text : String) : Option Bool :=
  let word := String.ofList (Spelling.small text.toList)
  if ["1", "t", "true", "y", "yes", "on"].contains word then some true
  else if ["0", "f", "false", "n", "no", "off"].contains word then some false
  else none

/-- The truth value of an integer. -/
def boolOfInt? (n : Int) : Option Bool :=
  if n = 0 then some false else if n = 1 then some true else none

/-- Whether an integer is in the 64-bit range. -/
def isShort (n : Int) : Bool := -(Nat.pow 2 63 : Nat) ≤ n && n < (Nat.pow 2 63 : Nat)

/-- A value is no truth value. -/
def notBool : Reason := ⟨"bool_type", "Input should be a valid boolean"⟩

/-- Reads a value as a truth value. -/
def asBool (v : Value) : Checked Bool :=
  let interpret (b : Option Bool) : Checked Bool :=
    match b with
    | some b => .ok b
    | none => Checked.reject
        ⟨"bool_parsing", "Input should be a valid boolean, unable to interpret input"⟩ v
  match v with
  | .bool b => .ok b
  | .int n =>
    if isShort n then interpret (boolOfInt? n)
    else Checked.reject notBool v
  | .float x =>
    match intOfFloat x with
    | .ok n => interpret (boolOfInt? n)
    | .error _ => Checked.reject notBool v
  | v =>
    match v.spelled? with
    | some spelling => interpret (spelling.bind boolOfText?)
    | none => Checked.reject notBool v

/-! ## Timestamps and dates -/

/-- The first instant of a date. -/
def midnight (d : Date) : Timestamp := ⟨d, 0, 0, 0, 0, none, by decide⟩

/-- The characters that bytes spell. Bytes that encode no text are taken one by one; of these, only
the ASCII ones can be part of a timestamp. -/
def charsOfBytes (bytes : List UInt8) : List Char :=
  match Text.decode? bytes with
  | some s => s.toList
  | none => bytes.map fun b => if b < 128 then Char.ofNat b.toNat else '\x7f'

/-- What a value gives as a timestamp: nothing if it is of a kind that is never one, otherwise the
timestamp or why it is none. An integer beyond the 64-bit range counts as a floating-point
number. -/
def timestampReading? : Value → Option (Except Calendar.Unread Timestamp)
  | .timestamp t => some (.ok t)
  | .text s => some (Calendar.readInputTimestamp s.toList)
  | .bytes b => some (Calendar.readInputTimestamp (charsOfBytes b))
  | .int n =>
    if isShort n then some (Calendar.timestampOfUnix n 0)
    else
      let x := Binary64.ofInt n
      if x.isFinite then some (Calendar.timestampOfFloat x) else none
  | .float x => some (Calendar.timestampOfFloat x)
  | .date d => some (.ok (midnight d))
  | _ => none

/-- What a value gives as a date, before timestamps are considered. -/
def dateReading? : Value → Option (Except Calendar.Unread Date)
  | .date d => some (.ok d)
  | .text s => some (Calendar.readInputDate s.toList)
  | .bytes b => some (Calendar.readInputDate (charsOfBytes b))
  | _ => none

/-- The reason given for a time in the year 0. -/
def yearZero : String := "year 0 is out of range"

/-- A value is no timestamp. -/
def notTimestamp (kind detail : String) : Reason :=
  ⟨"datetime_" ++ kind, "Input should be a valid datetime" ++ detail⟩

/-- Reads a value as a timestamp; a date is its first instant. -/
def asTimestamp (v : Value) : Checked Timestamp :=
  match v.timestampReading? with
  | none => Checked.reject (notTimestamp "type" "") v
  | some (.ok t) => .ok t
  | some (.error (.yearZero _)) => Checked.reject (notTimestamp "parsing" (", " ++ yearZero)) v
  | some (.error (.reason reason)) =>
    match v.dateReading? with
    | none => Checked.reject (notTimestamp "parsing" (", " ++ reason)) v
    | some (.ok d) => .ok (midnight d)
    | some (.error (.yearZero _)) => Checked.reject (notTimestamp "parsing" (", " ++ yearZero)) v
    | some (.error (.reason reason)) =>
      Checked.reject (notTimestamp "from_date_parsing" (" or date, " ++ reason)) v

/-- A value is no date. -/
def notDate (kind detail : String) : Reason :=
  ⟨"date_" ++ kind, "Input should be a valid date" ++ detail⟩

/-- A time is no date. -/
def notMidnight : Reason :=
  ⟨"date_from_datetime_inexact",
    "Datetimes provided to dates should have zero time - e.g. be exact dates"⟩

/-- Reads a value as a date; a timestamp is one when its time of day is zero. -/
def asDate (v : Value) : Checked Date :=
  let outOfRange := notDate "parsing" (" in the format YYYY-MM-DD, " ++ yearZero)
  match v.dateReading? with
  | some (.ok d) => .ok d
  | some (.error (.yearZero _)) => Checked.reject outOfRange v
  | _ =>
    match v.timestampReading? with
    | none => Checked.reject (notDate "type" "") v
    | some (.ok t) =>
      if t.hour = 0 ∧ t.minute = 0 ∧ t.second = 0 ∧ t.microsecond = 0 then .ok t.date
      else Checked.reject notMidnight v
    | some (.error (.yearZero midnight)) =>
      Checked.reject (if midnight then outOfRange else notMidnight) v
    | some (.error (.reason reason)) =>
      Checked.reject (notDate "from_datetime_parsing" (" or datetime, " ++ reason)) v

end DocMapper.Value
