/-!
# Encoded text

Bytes that encode text, in units of one, two or four bytes. `decode?` reads units of one byte.
`recognised?` finds out the units first: a mark at the beginning tells them, and so do zeros where
a text of brackets, quotes and digits has them if its units are larger.
-/

namespace DocMapper.Text

/-- The text that bytes encode in units of one byte, if they encode one. -/
def decode? (bytes : List UInt8) : Option String :=
  String.fromUTF8? (ByteArray.mk bytes.toArray)

/-- The bytes of a text in units of one byte. -/
def encode (text : String) : List UInt8 := text.toUTF8.toList

/-- The unit of two bytes; `high` tells whether the high byte is first. -/
def pair (high : Bool) (a b : UInt8) : Nat :=
  if high then a.toNat * 256 + b.toNat else b.toNat * 256 + a.toNat

/-- Units of two bytes, unless a byte is left over. -/
def pairs? (high : Bool) : List UInt8 → Option (List Nat)
  | [] => some []
  | [_] => none
  | a :: b :: rest => (pairs? high rest).map (pair high a b :: ·)

/-- Whether a unit is the first of two that stand for one character. -/
def isFirstHalf (unit : Nat) : Bool := 0xD800 ≤ unit && unit < 0xDC00

/-- Whether a unit is the second of two that stand for one character. -/
def isSecondHalf (unit : Nat) : Bool := 0xDC00 ≤ unit && unit < 0xE000

/-- The character of a unit that stands alone; for half a character there is a replacement. -/
def unitChar (unit : Nat) : Char :=
  if isFirstHalf unit || isSecondHalf unit then '\uFFFD' else Char.ofNat unit

/-- The characters of units of two bytes. -/
def joinHalves : List Nat → List Char
  | [] => []
  | [unit] => [unitChar unit]
  | a :: b :: rest =>
    if isFirstHalf a && isSecondHalf b then
      Char.ofNat (0x10000 + (a - 0xD800) * 0x400 + (b - 0xDC00)) :: joinHalves rest
    else unitChar a :: joinHalves (b :: rest)

/-- The characters of units of four bytes, unless bytes are left over or a unit is no character. -/
def quadruples? (high : Bool) : List UInt8 → Option (List Char)
  | [] => some []
  | a :: b :: c :: d :: rest =>
    let bytes := if high then [a, b, c, d] else [d, c, b, a]
    let unit := bytes.foldl (fun n (b : UInt8) => n * 256 + b.toNat) 0
    if 0x110000 ≤ unit then none else (quadruples? high rest).map (unitChar unit :: ·)
  | _ => none

/-- The text that bytes encode in units of two bytes. -/
def decodePairs? (high : Bool) (bytes : List UInt8) : Option String :=
  (pairs? high bytes).map fun units => String.ofList (joinHalves units)

/-- The text that bytes encode in units of four bytes. -/
def decodeQuadruples? (high : Bool) (bytes : List UInt8) : Option String :=
  (quadruples? high bytes).map String.ofList

/-- The text that bytes without a mark encode, in units told by the zeros in front. -/
def unmarked? (bytes : List UInt8) : Option String :=
  match bytes with
  | [0, _] => decodePairs? true bytes
  | [_, 0] => decodePairs? false bytes
  | 0 :: b :: _ :: _ :: _ => if b = 0 then decodeQuadruples? true bytes else decodePairs? true bytes
  | _ :: 0 :: c :: d :: _ =>
    if c = 0 ∧ d = 0 then decodeQuadruples? false bytes else decodePairs? false bytes
  | _ => decode? bytes

/-- The text that bytes encode, in units told by how they begin. -/
def recognised? (bytes : List UInt8) : Option String :=
  match bytes with
  | 0 :: 0 :: 0xFE :: 0xFF :: rest => decodeQuadruples? true rest
  | 0xFF :: 0xFE :: 0 :: 0 :: rest => decodeQuadruples? false rest
  | 0xFE :: 0xFF :: rest => decodePairs? true rest
  | 0xFF :: 0xFE :: rest => decodePairs? false rest
  | 0xEF :: 0xBB :: 0xBF :: rest => decode? rest
  | bytes => unmarked? bytes

end DocMapper.Text
