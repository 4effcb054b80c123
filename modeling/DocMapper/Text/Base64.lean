/-!
# Base64

Bytes written as text, three bytes in four characters. `Base64.encode` writes with a given pair of
characters for the values 62 and 63 and pads to full groups. `Base64.decode?` reads leniently: both
pairs are accepted, characters outside the alphabet are passed over, and reading stops at padding
that completes a group.
-/

namespace DocMapper.Base64

/-- The pair of the standard alphabet. -/
def standard : Char × Char := ('+', '/')

/-- The pair of the alphabet that is safe in addresses. -/
def urlSafe : Char × Char := ('-', '_')

/-- The character of a six-bit value. -/
def digit (pair : Char × Char) (n : Nat) : Char :=
  if n < 26 then Char.ofNat ('A'.toNat + n)
  else if n < 52 then Char.ofNat ('a'.toNat + (n - 26))
  else if n < 62 then Char.ofNat ('0'.toNat + (n - 52))
  else if n = 62 then pair.1
  else pair.2

/-- The six-bit value of a character of either alphabet. -/
def value? (c : Char) : Option Nat :=
  if 'A' ≤ c ∧ c ≤ 'Z' then some (c.toNat - 'A'.toNat)
  else if 'a' ≤ c ∧ c ≤ 'z' then some (c.toNat - 'a'.toNat + 26)
  else if '0' ≤ c ∧ c ≤ '9' then some (c.toNat - '0'.toNat + 52)
  else if c = standard.1 ∨ c = urlSafe.1 then some 62
  else if c = standard.2 ∨ c = urlSafe.2 then some 63
  else none

/-- The base64 text of bytes, padded to full groups. -/
def encode (pair : Char × Char) : List UInt8 → List Char
  | [] => []
  | [a] =>
    [digit pair (a.toNat / 4), digit pair (a.toNat % 4 * 16), '=', '=']
  | [a, b] =>
    [digit pair (a.toNat / 4), digit pair (a.toNat % 4 * 16 + b.toNat / 16),
      digit pair (b.toNat % 16 * 4), '=']
  | a :: b :: c :: rest =>
    digit pair (a.toNat / 4) :: digit pair (a.toNat % 4 * 16 + b.toNat / 16)
      :: digit pair (b.toNat % 16 * 4 + c.toNat / 64) :: digit pair (c.toNat % 64)
      :: encode pair rest

/-- Reads on inside a group of which `position` characters are read, leaving `left` over; `pads`
counts the padding since then. -/
def decodeFrom? (position left pads : Nat) : List Char → Option (List UInt8)
  | [] => if position = 0 then some [] else none
  | c :: rest =>
    if c = '=' then
      if 2 ≤ position then
        if 4 ≤ position + (pads + 1) then some [] else decodeFrom? position left (pads + 1) rest
      else decodeFrom? position left pads rest
    else
      match value? c with
      | none => decodeFrom? position left pads rest
      | some n =>
        match position with
        | 0 => decodeFrom? 1 n 0 rest
        | 1 => (decodeFrom? 2 (n % 16) 0 rest).map (UInt8.ofNat (left * 4 + n / 16) :: ·)
        | 2 => (decodeFrom? 3 (n % 4) 0 rest).map (UInt8.ofNat (left * 16 + n / 4) :: ·)
        | _ => (decodeFrom? 0 0 0 rest).map (UInt8.ofNat (left * 64 + n) :: ·)

/-- The bytes that a base64 text stands for, unless a group is left incomplete. -/
def decode? (text : List Char) : Option (List UInt8) := decodeFrom? 0 0 0 text

end DocMapper.Base64
