import DocMapper.Number.Binary64
/-!
# Shortest decimal text of a number

A finite number is written with the fewest significant decimal digits that read back to it
(`Binary64.shortest`), positionally when its decimal exponent lies between -4 and 15 and with a
signed exponent of at least two digits otherwise (`Binary64.text`).

The search is the definition turned into a loop: for one, two, … seventeen digits it tries the
value's two neighbours on that decimal grid and keeps those that `Binary64.ofDecimal` reads back.
-/

namespace DocMapper.Binary64

/-- The exponent `k` with `10 ^ k ≤ num / den < 10 ^ (k + 1)`, for positive `num` and `den`. -/
def decimalOrder (num den : Nat) : Int :=
  let guess : Int := (decimalLength num : Int) - (decimalLength den : Int)
  if den * Nat.pow 10 guess.toNat ≤ num * Nat.pow 10 (-guess).toNat then guess else guess - 1

/-- The digits and exponent of `num / den` with `count` digits that read back to `x`, the nearer
neighbour first and the even one on a tie. -/
def readsBackWith? (x : Binary64) (num den : Nat) (order : Int) (count : Nat) : Option (Nat × Int) :=
  let exponent := order + 1 - count
  let scaledNum := num * Nat.pow 10 (-exponent).toNat
  let scaledDen := den * Nat.pow 10 exponent.toNat
  let low := scaledNum / scaledDen
  let nearest := roundDiv scaledNum scaledDen
  let other := if nearest = low then low + 1 else low
  if ofDecimal false nearest exponent = x then some (nearest, exponent)
  else if ofDecimal false other exponent = x then some (other, exponent)
  else none

/-- Moves trailing zeros of the digits into the exponent. -/
def stripZeros : Nat → Nat × Int → Nat × Int
  | 0, d => d
  | fuel + 1, (digits, exponent) =>
    if digits ≠ 0 ∧ digits % 10 = 0 then stripZeros fuel (digits / 10, exponent + 1)
    else (digits, exponent)

/-- The fewest decimal digits, with their exponent, that read back to the positive finite number
`significand * 2 ^ exponent`. -/
def shortest (significand : Nat) (exponent : Int) : Nat × Int :=
  let num := significand * Nat.pow 2 exponent.toNat
  let den := Nat.pow 2 (-exponent).toNat
  let x := ofRatio false num den
  let order := decimalOrder num den
  let hit := (List.range 17).findSome? fun count => readsBackWith? x num den order (count + 1)
  match hit with
  | some d => stripZeros 20 d
  | none => (num, 0)

/-- An exponent with its sign and at least two digits. -/
def exponentText (exponent : Int) : String :=
  let digits := toString exponent.natAbs
  (if exponent < 0 then "-" else "+") ++ (if digits.length < 2 then "0" ++ digits else digits)

/-- Lays out significant digits whose last one has weight `10 ^ exponent`, without an exponent and
with a point only in front of a fraction. -/
def positional (digits : Nat) (exponent : Int) : String :=
  let text := Nat.toDigits 10 digits
  let order := (text.length : Int) - 1 + exponent
  if order < 0 then
    "0." ++ String.ofList (List.replicate (-order - 1).toNat '0' ++ text)
  else
    let whole := order.toNat + 1
    let padded := text ++ List.replicate (whole - text.length) '0'
    let fraction := padded.drop whole
    String.ofList (padded.take whole)
      ++ (if fraction.isEmpty then "" else "." ++ String.ofList fraction)

/-- Lays out significant digits whose last one has weight `10 ^ exponent`. -/
def layout (digits : Nat) (exponent : Int) : String :=
  let text := Nat.toDigits 10 digits
  let order := (text.length : Int) - 1 + exponent
  if -4 ≤ order ∧ order < 16 then
    positional digits exponent ++ (if 0 ≤ exponent then ".0" else "")
  else
    let mantissa :=
      match text with
      | [] => ""
      | [d] => String.singleton d
      | d :: rest => String.singleton d ++ "." ++ String.ofList rest
    mantissa ++ "e" ++ exponentText order

/-- The sign of a number and the shortest digits that identify it, in a layout. -/
def spell (lay : Nat → Int → String) (negative : Bool) (significand : Nat) (exponent : Int) :
    String :=
  let (digits, scale) := if significand = 0 then (0, 0) else shortest significand exponent
  (if negative then "-" else "") ++ lay digits scale

/-- The text of a number: the shortest digits that identify it, `nan`, `inf` or `-inf`. -/
def text (x : Binary64) : String :=
  match x.kind with
  | .notANumber => "nan"
  | .infinite negative => if negative then "-inf" else "inf"
  | .finite negative significand exponent => spell layout negative significand exponent

/-- The text of a number without an exponent, and without a point when it has no fraction. -/
def positionalText (x : Binary64) : String :=
  match x.kind with
  | .notANumber => "NaN"
  | .infinite negative => if negative then "-inf" else "inf"
  | .finite negative significand exponent => spell positional negative significand exponent

end DocMapper.Binary64
