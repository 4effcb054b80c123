import DocMapper.Number.Spelling
import DocMapper.Value.Coerce
/-!
# Reading JSON text

`Wire.ofJson` reads a text as one JSON value with white space around it. Beyond strict JSON it
accepts `NaN`, `Infinity` and `-Infinity`; of a repeated member the last value counts, at the place
of the first. An integer of too many digits is not acceptable.

A text here consists of whole characters. JSON can also spell half a character, an escaped unit of a
surrogate pair without the other one. Such a unit is read as the replacement character U+FFFD
(`unitChar`), so that two texts that differ in it alone are read as the same.
-/

namespace DocMapper.Wire

/-- Whether a character separates JSON tokens. -/
def isBlank (c : Char) : Bool := c == ' ' || c == '\t' || c == '\n' || c == '\r'

/-- The rest of a text after leading blanks. -/
def skipBlanks (text : List Char) : List Char := text.dropWhile isBlank

/-- The value of a hexadecimal digit. -/
def hexValue? (c : Char) : Option Nat :=
  if '0' ≤ c ∧ c ≤ '9' then some (c.toNat - '0'.toNat)
  else if 'a' ≤ c ∧ c ≤ 'f' then some (c.toNat - 'a'.toNat + 10)
  else if 'A' ≤ c ∧ c ≤ 'F' then some (c.toNat - 'A'.toNat + 10)
  else none

/-- A 16-bit unit spelled by four hexadecimal digits. -/
def unit? : List Char → Option (Nat × List Char)
  | a :: b :: c :: d :: rest => do
    let a ← hexValue? a
    let b ← hexValue? b
    let c ← hexValue? c
    let d ← hexValue? d
    some (((a * 16 + b) * 16 + c) * 16 + d, rest)
  | _ => none

/-- The character of an escape letter. -/
def escape? : Char → Option Char
  | '"' => some '"'
  | '\\' => some '\\'
  | '/' => some '/'
  | 'b' => some '\x08'
  | 'f' => some '\x0c'
  | 'n' => some '\n'
  | 'r' => some '\r'
  | 't' => some '\t'
  | _ => none

/-- The character spelled by a unit and, for the first half of a pair, by the escape after it. -/
def unitChar (unit : Nat) (rest : List Char) : Char × List Char :=
  if 0xD800 ≤ unit ∧ unit < 0xDC00 then
    match rest with
    | '\\' :: 'u' :: more =>
      match unit? more with
      | some (low, after) =>
        if 0xDC00 ≤ low ∧ low < 0xE000 then
          (Char.ofNat (0x10000 + (unit - 0xD800) * 0x400 + (low - 0xDC00)), after)
        else ('\uFFFD', rest)
      | none => ('\uFFFD', rest)
    | _ => ('\uFFFD', rest)
  else if 0xDC00 ≤ unit ∧ unit < 0xE000 then ('\uFFFD', rest)
  else (Char.ofNat unit, rest)

/-- The characters of a string, from behind its opening quote. -/
def readString (read : List Char) : Nat → List Char → Option (String × List Char)
  | 0, _ => none
  | _ + 1, [] => none
  | fuel + 1, c :: rest =>
    if c = '"' then some (String.ofList read.reverse, rest)
    else if c = '\\' then
      match rest with
      | 'u' :: more =>
        match unit? more with
        | some (unit, after) =>
          let (spelled, after) := unitChar unit after
          readString (spelled :: read) fuel after
        | none => none
      | letter :: more =>
        match escape? letter with
        | some spelled => readString (spelled :: read) fuel more
        | none => none
      | [] => none
    else if c.toNat < 0x20 then none
    else readString (c :: read) fuel rest

/-- An integer, unless it has too many digits. -/
def readInteger (negative : Bool) (digits : List Char) : Except Fault Wire :=
  if Spelling.longest < digits.length then .error badValue
  else .ok (.int (Decimal.toInt ⟨negative, digits, [], 0, false⟩))

/-- A number: an integer unless a fraction or an exponent is written. -/
def readNumber (text : List Char) : Except Fault (Wire × List Char) :=
  let (negative, unsigned) :=
    match text with
    | '-' :: rest => (true, rest)
    | rest => (false, rest)
  let (whole, rest) :=
    match unsigned with
    | '0' :: rest => (['0'], rest)
    | rest => spanDigits rest
  if whole.isEmpty then .error .unreadable
  else
    let (fraction, rest) :=
      match rest with
      | '.' :: more =>
        let (digits, after) := spanDigits more
        if digits.isEmpty then ([], rest) else (digits, after)
      | _ => ([], rest)
    match Decimal.exponent? rest with
    | some (exponent, rest) =>
      .ok (.float (Decimal.toBinary64 ⟨negative, whole, fraction, exponent, true⟩), rest)
    | none =>
      if fraction.isEmpty then do return (← readInteger negative whole, rest)
      else .ok (.float (Decimal.toBinary64 ⟨negative, whole, fraction, 0, true⟩), rest)

/-- The words of JSON and of the three special numbers. -/
def words : List (List Char × Wire) := [
  ("null".toList, .null), ("true".toList, .bool true), ("false".toList, .bool false),
  ("NaN".toList, .float (.notANumber 0)), ("Infinity".toList, .float (.infinity false)),
  ("-Infinity".toList, .float (.infinity true))]

/-- A word or a number. -/
def readLeaf (text : List Char) : Except Fault (Wire × List Char) :=
  match words.find? fun word => word.1.isPrefixOf text with
  | some word => .ok (word.2, text.drop word.1.length)
  | none => readNumber text

/-- A string, from behind its opening quote. -/
def readText (rest : List Char) : Except Fault (String × List Char) :=
  match readString [] (rest.length + 1) rest with
  | some read => .ok read
  | none => .error .unreadable

mutual

/-- A value, and the rest of the text. -/
def readValue : Nat → List Char → Except Fault (Wire × List Char)
  | 0, _ => .error .unreadable
  | fuel + 1, source =>
    match source with
    | '"' :: rest => do
      let (s, rest) ← readText rest
      return (.text s, rest)
    | '[' :: rest =>
      match skipBlanks rest with
      | ']' :: rest => .ok (.array [], rest)
      | rest => do
        let (items, rest) ← readItems fuel [] rest
        return (.array items, rest)
    | '\x7b' :: rest =>
      match skipBlanks rest with
      | '\x7d' :: rest => .ok (.object [], rest)
      | rest => do
        let (members, rest) ← readMembers fuel [] rest
        return (.object (Dict.ofEntries members), rest)
    | rest => readLeaf rest

/-- The elements of an array, from the first one on. -/
def readItems : Nat → List Wire → List Char → Except Fault (List Wire × List Char)
  | 0, _, _ => .error .unreadable
  | fuel + 1, read, source => do
    let (item, rest) ← readValue fuel source
    match skipBlanks rest with
    | ',' :: rest => readItems fuel (item :: read) (skipBlanks rest)
    | ']' :: rest => return ((item :: read).reverse, rest)
    | _ => throw .unreadable

/-- The members of an object, from the first key on. -/
def readMembers : Nat → List (Key × Wire) → List Char →
    Except Fault (List (Key × Wire) × List Char)
  | 0, _, _ => .error .unreadable
  | fuel + 1, read, source =>
    match source with
    | '"' :: rest => do
      let (key, rest) ← readText rest
      match skipBlanks rest with
      | ':' :: rest =>
        let (value, rest) ← readValue fuel (skipBlanks rest)
        let read := (.text key, value) :: read
        match skipBlanks rest with
        | ',' :: rest => readMembers fuel read (skipBlanks rest)
        | '\x7d' :: rest => return (read.reverse, rest)
        | _ => throw .unreadable
      | _ => throw .unreadable
    | _ => .error .unreadable

end

/-- The JSON value that a text spells. -/
def ofJson (text : String) : Except Fault Wire := do
  let chars := text.toList
  let (value, rest) ← readValue (chars.length + 1) (skipBlanks chars)
  if (skipBlanks rest).isEmpty then return value else throw .unreadable

end DocMapper.Wire
