import DocMapper.Text.Printable
/-!
# Quoted and shortened text

`Text.shortened` leaves the ends of a long text. There are two ways to put text between quotes.

* `Text.quoted` is for people: single quotes, or double quotes when the text holds a single quote
  and no double one; only the quote in use, the backslash and unprintable characters are escaped.
  `Text.quotedBytes` does the same for bytes, where everything outside ASCII is escaped.
* `Text.jsonString` is for machines: double quotes, and everything outside printable ASCII is
  escaped by its 16-bit units.
-/

namespace DocMapper.Text

/-- The lower-case hexadecimal digits of a number, at least `width` of them. -/
def hex (width n : Nat) : String :=
  let digits := Nat.toDigits 16 n
  String.ofList (List.replicate (width - digits.length) '0' ++ digits)

/-- The quote to use around a text: a single one unless only single ones occur in it. -/
def quoteFor (text : List Char) : Char :=
  if text.contains '\'' && !text.contains '"' then '"' else '\''

/-- One character inside quotes. -/
def quotedChar (quote c : Char) : String :=
  if c = quote ∨ c = '\\' then "\\" ++ String.singleton c
  else if c = '\n' then "\\n"
  else if c = '\r' then "\\r"
  else if c = '\t' then "\\t"
  else if isPrintable c then String.singleton c
  else if c.toNat < 0x100 then "\\x" ++ hex 2 c.toNat
  else if c.toNat < 0x10000 then "\\u" ++ hex 4 c.toNat
  else "\\U" ++ hex 8 c.toNat

/-- A text between quotes, readable by people. -/
def quoted (text : String) : String :=
  let quote := quoteFor text.toList
  String.singleton quote ++ String.join (text.toList.map (quotedChar quote))
    ++ String.singleton quote

/-- One byte inside quotes. -/
def quotedByte (quote : Char) (byte : UInt8) : String :=
  let c := Char.ofNat byte.toNat
  if byte.toNat < 0x80 then quotedChar quote c else "\\x" ++ hex 2 byte.toNat

/-- Bytes between quotes, marked by a leading `b`. -/
def quotedBytes (bytes : List UInt8) : String :=
  let quote := quoteFor (bytes.map fun byte => Char.ofNat byte.toNat)
  "b" ++ String.singleton quote ++ String.join (bytes.map (quotedByte quote))
    ++ String.singleton quote

/-- The leading characters whose encodings fit into some bytes. -/
def fitting (bytes : Nat) : List Char → List Char
  | [] => []
  | c :: rest => if c.utf8Size ≤ bytes then c :: fitting (bytes - c.utf8Size) rest else []

/-- A text whose encoding is longer than fifty bytes, cut down to its ends. -/
def shortened (text : String) : String :=
  if text.utf8ByteSize ≤ 50 then text
  else
    String.ofList (fitting 25 text.toList) ++ "..."
      ++ String.ofList (fitting 24 text.toList.reverse).reverse

/-- The escape of one 16-bit unit. -/
def unitEscape (unit : Nat) : String := "\\u" ++ hex 4 unit

/-- One character of a JSON string, in ASCII. -/
def jsonChar (c : Char) : String :=
  if c = '"' then "\\\""
  else if c = '\\' then "\\\\"
  else if c = '\n' then "\\n"
  else if c = '\r' then "\\r"
  else if c = '\t' then "\\t"
  else if c = '\x08' then "\\b"
  else if c = '\x0c' then "\\f"
  else if 0x20 ≤ c.toNat ∧ c.toNat < 0x7F then String.singleton c
  else if c.toNat < 0x10000 then unitEscape c.toNat
  else
    let high := 0xD800 + (c.toNat - 0x10000) / 0x400
    let low := 0xDC00 + (c.toNat - 0x10000) % 0x400
    unitEscape high ++ unitEscape low

/-- A text as a JSON string in ASCII. -/
def jsonString (text : String) : String :=
  "\"" ++ String.join (text.toList.map jsonChar) ++ "\""

end DocMapper.Text
