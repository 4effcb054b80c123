/-!
# Binary floating-point numbers

A floating-point number is its 64-bit word. `Binary64.kind` decodes the word into an exact sign,
significand and exponent, and every operation here works on that exact value in integer
arithmetic, so it can be evaluated by the kernel.

* `Binary64.ofRatio` rounds a quotient of natural numbers to the nearest number, ties to the even
  significand.
* `Scaled` is an integer times a power of two, the common ground on which integers and
  floating-point numbers are compared without rounding (`Magnitude.compare?`).
-/

namespace DocMapper

/-- A floating-point number, given by its 64-bit word. -/
structure Binary64 where
  bits : UInt64
  deriving DecidableEq, Inhabited

/-- What a word denotes: `finite s m e` is `m * 2 ^ e`, negated when `s` holds. -/
inductive Binary64.Kind
  | notANumber
  | infinite (negative : Bool)
  | finite (negative : Bool) (significand : Nat) (exponent : Int)
  deriving DecidableEq

namespace Binary64

/-- The value denoted by a word. -/
def kind (x : Binary64) : Kind :=
  let word : Nat := x.bits.toNat
  let negative := decide (Nat.pow 2 63 ≤ word)
  let biased : Nat := word / Nat.pow 2 52 % Nat.pow 2 11
  let fraction : Nat := word % Nat.pow 2 52
  if biased = 2047 then
    if fraction = 0 then .infinite negative else .notANumber
  else if biased = 0 then
    .finite negative fraction (-1074)
  else
    .finite negative (Nat.pow 2 52 + fraction) ((biased : Int) - 1075)

/-- The word of a sign and of the remaining 63 bits. -/
def ofMagnitude (negative : Bool) (magnitude : Nat) : Binary64 :=
  ⟨UInt64.ofNat (magnitude + if negative then Nat.pow 2 63 else 0)⟩

/-- A not-a-number. Those of different payloads are different words. -/
def notANumber (payload : Nat) : Binary64 :=
  ofMagnitude false (4095 * Nat.pow 2 51 + payload % Nat.pow 2 51)

/-- Infinity, with its sign. -/
def infinity (negative : Bool) : Binary64 := ofMagnitude negative (2047 * Nat.pow 2 52)

/-- Zero, with its sign. -/
def zero (negative : Bool) : Binary64 := ofMagnitude negative 0

/-- The quotient `num / den` rounded to the nearest integer, ties to the even one. -/
def roundDiv (num den : Nat) : Nat :=
  let quotient := num / den
  let twice := 2 * (num % den)
  if twice < den then quotient
  else if den < twice then quotient + 1
  else quotient + quotient % 2

/-- The exponent `e` with `2 ^ e ≤ num / den < 2 ^ (e + 1)`, for positive `num` and `den`. -/
def binaryOrder (num den : Nat) : Int :=
  let guess : Int := (num.log2 : Int) - (den.log2 : Int)
  if den * Nat.pow 2 guess.toNat ≤ num * Nat.pow 2 (-guess).toNat then guess else guess - 1

/-- The number nearest to `num / den`, ties to the even significand; beyond the largest finite
number it is infinite. -/
def ofRatio (negative : Bool) (num den : Nat) : Binary64 :=
  if num = 0 then zero negative
  else
    let unit : Int := max (binaryOrder num den - 52) (-1074)
    let significand := roundDiv (num * Nat.pow 2 (-unit).toNat) (den * Nat.pow 2 unit.toNat)
    let magnitude := (unit + 1074).toNat * Nat.pow 2 52 + significand
    if 2047 * Nat.pow 2 52 ≤ magnitude then infinity negative else ofMagnitude negative magnitude

/-- How many decimal digits a natural number has; zero has one. -/
def decimalLength (n : Nat) : Nat := (Nat.toDigits 10 n).length

/-- The number nearest to `digits * 10 ^ exponent`. Exponents far outside the range of the format
are settled without building the power. -/
def ofDecimal (negative : Bool) (digits : Nat) (exponent : Int) : Binary64 :=
  let order := (decimalLength digits : Int) + exponent
  if digits = 0 then zero negative
  else if 400 < order then infinity negative
  else if order < -400 then zero negative
  else ofRatio negative (digits * Nat.pow 10 exponent.toNat) (Nat.pow 10 (-exponent).toNat)

/-- The number nearest to an integer. -/
def ofInt (n : Int) : Binary64 := ofRatio (decide (n < 0)) n.natAbs 1

/-- The number nearest to a fraction. -/
def ofFraction (num : Int) (den : Nat) : Binary64 := ofRatio (decide (num < 0)) num.natAbs den

/-- A finite number as a fraction: a numerator and a denominator. -/
def toFraction? (x : Binary64) : Option (Int × Nat) :=
  match x.kind with
  | .finite negative significand exponent =>
    let scaled : Int := (significand * Nat.pow 2 exponent.toNat : Nat)
    some (if negative then -scaled else scaled, Nat.pow 2 (-exponent).toNat)
  | _ => none

/-- Whether the word denotes a finite number. -/
def isFinite (x : Binary64) : Bool :=
  match x.kind with
  | .finite .. => true
  | _ => false

/-- Whether the word denotes zero, of either sign. -/
def isZero (x : Binary64) : Bool :=
  match x.kind with
  | .finite _ 0 _ => true
  | _ => false

/-- The integer that a number is, if it is one. -/
def toInt? (x : Binary64) : Option Int :=
  match x.kind with
  | .finite negative significand exponent =>
    let scaled := significand * Nat.pow 2 exponent.toNat
    let unit := Nat.pow 2 (-exponent).toNat
    if scaled % unit = 0 then
      some (if negative then -(scaled / unit : Nat) else (scaled / unit : Nat))
    else none
  | _ => none

end Binary64

/-! ## Comparing numbers of different kinds -/

/-- A number as it is compared: `scaled n e` is `n * 2 ^ e`. -/
inductive Magnitude
  | unordered
  | below
  | scaled (value : Int) (exponent : Int)
  | above
  deriving DecidableEq

namespace Magnitude

/-- The integer `n`. -/
def ofInt (n : Int) : Magnitude := .scaled n 0

/-- The value of a floating-point number. -/
def ofBinary64 (x : Binary64) : Magnitude :=
  match x.kind with
  | .notANumber => .unordered
  | .infinite true => .below
  | .infinite false => .above
  | .finite negative significand exponent =>
    .scaled (if negative then -(significand : Int) else significand) exponent

/-- The exact order of two numbers; not-a-number has none. -/
def compare? : Magnitude → Magnitude → Option Ordering
  | .unordered, _ => none
  | _, .unordered => none
  | .below, .below => some .eq
  | .below, _ => some .lt
  | _, .below => some .gt
  | .above, .above => some .eq
  | .above, _ => some .gt
  | _, .above => some .lt
  | .scaled m d, .scaled n e =>
    some (compare (m * Nat.pow 2 (d - e).toNat) (n * Nat.pow 2 (e - d).toNat))

/-- Equality of numbers; not-a-number equals nothing. -/
def same (x y : Magnitude) : Bool := x.compare? y == some .eq

end Magnitude

end DocMapper
