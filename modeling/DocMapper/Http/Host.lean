import DocMapper.Http.Domain
import DocMapper.Text.Case
import DocMapper.Text.Quoted
/-!
# Hosts

The host of an address is four numbers between dots, an address of eight groups in brackets, or a
name. `Host.normalize` puts it into its normal form in ASCII, or tells why it is no host.
-/

namespace DocMapper.Http

/-- A byte written with a percent sign. -/
def percent (byte : UInt8) : String := "%" ++ (Text.hex 2 byte.toNat).map Char.toUpper

/-- Whether a character is written with percent signs: blanks, control characters, everything
beyond the first 128 characters, and some marks. -/
def isEscaped (marks : List Char) (c : Char) : Bool :=
  c.toNat ≤ 32 || 127 ≤ c.toNat || marks.contains c

/-- A text with percent signs where they are needed. -/
def escape (marks : List Char) (text : List Char) : String :=
  String.join (text.map fun c =>
    if isEscaped marks c then String.join ((String.singleton c).toUTF8.toList.map percent)
    else String.singleton c)

namespace Host

/-! ## Numbers between dots -/

/-- The lengths of the runs of digits in a text, if no other characters stand at its ends or side by
side. -/
def digitRuns? (text : List Char) : Option (List Nat) :=
  let runs := (Domain.split (fun c => !c.isDigit) text).map List.length
  if runs.all (0 < ·) then some runs else none

/-- Whether a text is like four numbers with one character between each and the next, digits
included. -/
def isNumeric (text : List Char) : Bool :=
  match digitRuns? text with
  | some runs =>
    let marks := runs.length - 1
    marks ≤ 3 && 3 - marks ≤ (runs.map fun n => (n - 1) / 2).foldr (· + ·) 0
  | none => false

/-- Whether a text is a number below 256 without zeros in front. -/
def isOctet (text : List Char) : Bool :=
  match text with
  | [] => false
  | ['0'] => true
  | '0' :: _ => false
  | text => text.all Char.isDigit && text.length ≤ 3
      && text.foldl (fun n c => n * 10 + (c.toNat - '0'.toNat)) 0 < 256

/-- Whether a text is four numbers between dots. -/
def isFourOctets (text : List Char) : Bool :=
  let parts := Domain.split (· = '.') text
  parts.length = 4 && parts.all isOctet

/-! ## Groups between colons -/

/-- Whether a character is a hexadecimal digit. -/
def isHexDigit (c : Char) : Bool :=
  c.isDigit || ('a' ≤ c && c ≤ 'f') || ('A' ≤ c && c ≤ 'F')

/-- Whether a text is a group of up to four hexadecimal digits. -/
def isGroup (text : List Char) : Bool :=
  !text.isEmpty && text.length ≤ 4 && text.all isHexDigit

/-- The groups of an address, with two groups for four numbers between dots at its end. -/
def groups? (text : List Char) : Option (List (List Char)) :=
  let parts := Domain.split (· = ':') text
  let final := parts.getLast?.getD []
  if parts.length < 3 then none
  else if final.contains '.' then
    if isFourOctets final then some (parts.dropLast ++ [['0'], ['0']]) else none
  else some parts

/-- Whether groups are an address: all eight of them, or fewer where one empty group inside stands
for those that are left out. An empty group at an end belongs to one beside it. -/
def areAddress (parts : List (List Char)) : Bool :=
  let inner := parts.dropLast.drop 1
  let gaps := (inner.filter List.isEmpty).length
  if gaps = 0 then parts.length = 8 && parts.all isGroup
  else if gaps = 1 then
    let before := parts.take (1 + (inner.takeWhile fun g => !g.isEmpty).length)
    let after := parts.drop (before.length + 1)
    let before := if before = [[]] then [] else before
    let after := if after = [[]] then [] else after
    parts.length ≤ 9 && before.length + after.length < 8 && before.all isGroup
      && after.all isGroup
  else false

/-- Whether a text is an address of groups; a zone may follow a percent sign. -/
def isGrouped (text : List Char) : Bool :=
  let address := text.takeWhile (· ≠ '%')
  let zone := text.drop address.length
  (zone.isEmpty || (1 < zone.length && !(zone.drop 1).contains '%'))
    && (groups? address).any areAddress

/-! ## Normal form -/

/-- The marks that a name cannot hold as they are. -/
def marks : List Char := ['<', '>', '[', ']', '^', '#', '/', ':', '?', '@']

/-- The normal form of a host in small letters, or why there is none. -/
def normalize (host : List Char) : Except String String :=
  let shown := Text.quoted (String.ofList host)
  if host.isEmpty then .ok ""
  else if isNumeric host then
    if isFourOctets host then .ok (String.ofList host)
    else .error ("Invalid IPv4 address: " ++ shown)
  else if host.head? = some '[' ∧ host.getLast? = some ']' then
    let inner := (host.drop 1).dropLast
    if isGrouped inner then .ok (String.ofList inner)
    else .error ("Invalid IPv6 address: " ++ shown)
  else
    let name := (Text.small (String.ofList host)).toList
    if host.all Punycode.isPlain then .ok (escape marks name)
    else
      match Domain.encode? name with
      | some encoded => .ok (String.ofList encoded)
      | none => .error ("Invalid IDNA hostname: " ++ shown)

end Host

end DocMapper.Http
