import DocMapper.Number.Binary64
/-!
# Reading decimal numbers

Characters are split into an integral part, a fraction and an exponent. `Decimal.ofChars?` reads a
text that is such a form and nothing else; `Decimal.toBinary64` is the number nearest to it.
-/

namespace DocMapper

/-- Whether a character is one of the ten ASCII digits. -/
def isDigit (c : Char) : Bool := '0' ≤ c && c ≤ '9'

/-- The value of an ASCII digit. -/
def digitValue (c : Char) : Nat := c.toNat - '0'.toNat

/-- The natural number that ASCII digits spell, most significant first. -/
def natOfDigits (digits : List Char) : Nat :=
  digits.foldl (fun n c => 10 * n + digitValue c) 0

/-- The leading digits of a text, and the rest. -/
def spanDigits (text : List Char) : List Char × List Char :=
  (text.takeWhile isDigit, text.dropWhile isDigit)

/-- A decimal number as it is written. -/
structure Decimal where
  negative : Bool
  whole : List Char
  fraction : List Char
  exponent : Int
  /-- whether a point or an exponent was written -/
  isReal : Bool

namespace Decimal

/-- The number nearest to a written decimal. -/
def toBinary64 (d : Decimal) : Binary64 :=
  Binary64.ofDecimal d.negative (natOfDigits (d.whole ++ d.fraction))
    (d.exponent - d.fraction.length)

/-- The integer that the integral part spells. -/
def toInt (d : Decimal) : Int :=
  if d.negative then -(natOfDigits d.whole : Int) else natOfDigits d.whole

/-- An exponent mark with its digits, if one is complete. -/
def exponent? : List Char → Option (Int × List Char)
  | mark :: rest =>
    if mark = 'e' ∨ mark = 'E' then
      let (negative, unsigned) :=
        match rest with
        | '-' :: more => (true, more)
        | '+' :: more => (false, more)
        | more => (false, more)
      let (digits, after) := spanDigits unsigned
      if digits.isEmpty then none
      else some (if negative then -(natOfDigits digits : Int) else natOfDigits digits, after)
    else none
  | [] => none

/-- A sign at the head of a text, and what follows it. -/
def splitSign : List Char → Bool × List Char
  | '-' :: rest => (true, rest)
  | '+' :: rest => (false, rest)
  | rest => (false, rest)

/-- The decimal number that fills a text: a sign, digits, a fraction behind a point and an exponent,
with at least one digit before the exponent. -/
def ofChars? (text : List Char) : Option Decimal :=
  let (negative, unsigned) := splitSign text
  let (whole, rest) := spanDigits unsigned
  let (fraction, rest) :=
    match rest with
    | '.' :: more => spanDigits more
    | _ => ([], rest)
  if whole.isEmpty ∧ fraction.isEmpty then none
  else
    match rest with
    | [] => some ⟨negative, whole, fraction, 0, text.contains '.'⟩
    | rest =>
      match exponent? rest with
      | some (exponent, []) => some ⟨negative, whole, fraction, exponent, true⟩
      | _ => none

end Decimal

end DocMapper
