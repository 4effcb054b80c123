import DocMapper.Value.Coerce
/-!
# Headers

A request has its own headers, and options may bring more. An option replaces a header of the very
same name; names that differ in case are one header only when it is sent, and then its values are
joined with commas.

Names and values are bytes, each kept as the character of its number. `shownHeaders` reads them as
texts in UTF-8, if all of them are such texts.
-/

namespace DocMapper.Http

/-- Headers under their names. -/
abbrev Headers := List (String × String)

/-- Whether a text has only characters that a header can hold. -/
def isPlain (text : String) : Bool := text.toList.all fun c => c.toNat < 128

/-- A text as a part of a header. -/
def plainText (text : String) : Except Fault String :=
  if isPlain text then .ok text else .error (.misuse .unencodable)

/-- Bytes, each as the character of its number. -/
def bytesText (bytes : List UInt8) : String :=
  String.ofList (bytes.map fun byte => Char.ofNat byte.toNat)

/-- The bytes that stand in a text as characters. -/
def textBytes (text : String) : List UInt8 := text.toList.map fun c => UInt8.ofNat c.toNat

/-- The name of a header. -/
def headerName (key : Key) : Except Fault String :=
  match key with
  | .text name => plainText name
  | .bytes b => .ok (bytesText b)
  | _ => .error noMember

/-- The value of a header. -/
def headerValue (v : Value) : Except Fault String :=
  match v with
  | .text s => plainText s
  | .bytes b => .ok (bytesText b)
  | _ => .error wrongKind

/-- A header, from an entry of a dictionary. -/
def header (entry : Key × Value) : Except Fault (String × String) := do
  let name ← headerName entry.1
  return (name, ← headerValue entry.2)

/-- The name of a header in the form in which names are compared. -/
def foldName (name : String) : String := name.map Char.toLower

/-- Adds a header to those that are there: to the one of the same name, or as a new one. -/
def joinHeader (headers : Headers) (added : String × String) : Headers :=
  match headers with
  | [] => [added]
  | (name, value) :: rest =>
    if name = added.1 then (name, value ++ ", " ++ added.2) :: rest
    else (name, value) :: joinHeader rest added

/-- Headers under compared names, with the values of each name joined. -/
def joined (headers : Headers) : Headers :=
  headers.foldl (fun done h => joinHeader done (foldName h.1, h.2)) []

/-- Headers with another value for a name, in place of all that the name has. -/
def putHeader (name value : String) (headers : Headers) : Headers :=
  headers.filter (fun h => h.1 ≠ name) ++ [(name, value)]

/-- Headers as texts. -/
def shownHeaders (headers : Headers) : Headers :=
  let read := headers.mapM fun (name, value) => do
    return (← Text.decode? (textBytes name), ← Text.decode? (textBytes value))
  read.getD headers

/-- Whether a header is one of the extensions, whose names begin with `x-`. -/
def isExtension (name : String) : Bool := name.startsWith "x-"

/-- The extension headers. -/
def extensions (headers : Headers) : Headers :=
  (joined headers).filter fun h => isExtension h.1

end DocMapper.Http
