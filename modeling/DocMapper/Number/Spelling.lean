import DocMapper.Number.Reading
import DocMapper.Text.Blank
/-!
# Numbers that are spelled as text

`Spelling.integer` reads a text as an integer and `Spelling.number?` as a floating-point number. Both
are lenient: white space around the number, a plus sign, zeros in front, zeros behind a point and
single underscores are passed over. An integer of too many digits is told apart from a text that is
no integer at all.
-/

namespace DocMapper.Spelling

/-- Why a text spells no integer. -/
inductive NotInteger
  | malformed
  | tooLong
  deriving DecidableEq

/-- The most characters that an integer may have, its sign included. -/
def longest : Nat := 4300

/-- The integer that a text is in its shortest spelling: a minus sign, and digits that begin with a
zero only when there is no other. -/
def plainInteger (text : List Char) : Except NotInteger Int :=
  let (negative, unsigned) :=
    match text with
    | '-' :: rest => (true, rest)
    | rest => (false, rest)
  let (digits, rest) := spanDigits unsigned
  match digits with
  | [] => .error .malformed
  | ['0'] => if rest.isEmpty then .ok 0 else .error .malformed
  | '0' :: _ => .error .malformed
  | digits =>
    if longest < digits.length + (if negative then 1 else 0) then .error .tooLong
    else if rest.isEmpty then .ok (Decimal.toInt ⟨negative, digits, [], 0, false⟩)
    else .error .malformed

/-- What is left of a text without the zeros and underscores behind its first zero: the number that
they lead to, or the last character when there is nothing else. -/
def skipZeros (previous : Char) : List Char → Option (List Char)
  | [] => some [previous]
  | c :: rest =>
    if c = '0' ∨ c = '_' then skipZeros c rest
    else if c = '-' ∨ isDigit c then some (c :: rest)
    else if c = '.' then some (previous :: c :: rest)
    else none

/-- A text without the zeros in front of its number. -/
def withoutLeadingZeros : List Char → Option (List Char)
  | [] => none
  | c :: rest =>
    if c = '0' then skipZeros c rest
    else if c = '-' ∨ isDigit c then some (c :: rest)
    else none

/-- A text without a point and the zeros behind it, if nothing else is behind it. -/
def withoutTrailingZeros (text : List Char) : List Char :=
  let kept := (text.reverse.dropWhile (· = '0')).reverse
  match kept.reverse with
  | '.' :: before => if kept.length < text.length then before.reverse else text
  | _ => text

/-- A text without its underscores, which must be single and inside. -/
def withoutUnderscores? (text : List Char) : Option (List Char) :=
  if text.contains '_' && text.head? != some '_' && text.getLast? != some '_'
      && !(text.zip (text.drop 1)).contains ('_', '_') then
    some (text.filter (· ≠ '_'))
  else none

/-- A text in the spelling that `plainInteger` reads. -/
def tidied? (text : List Char) : Option (List Char) := do
  let text ← match Text.trim text with
    | '+' :: '-' :: _ => none
    | '+' :: rest => some rest
    | rest => some rest
  let text := withoutTrailingZeros (← withoutLeadingZeros text)
  return (withoutUnderscores? text).getD text

/-- The integer that a text spells. -/
def integer (text : List Char) : Except NotInteger Int :=
  match plainInteger text with
  | .error .malformed =>
    match tidied? text with
    | some text => plainInteger text
    | none => .error .malformed
  | outcome => outcome

/-- A text in small letters, as far as ASCII letters go. -/
def small (text : List Char) : List Char := text.map Char.toLower

/-- The number that a text without white space spells; there are words for the special ones. -/
def plainNumber? (text : List Char) : Option Binary64 :=
  let (negative, unsigned) := Decimal.splitSign text
  let word := String.ofList (small unsigned)
  if word = "inf" ∨ word = "infinity" then some (.infinity negative)
  else if word = "nan" then some (.notANumber 0)
  else (Decimal.ofChars? text).map Decimal.toBinary64

/-- The number that a text spells: white space around it is passed over, or else underscores. -/
def number? (text : List Char) : Option Binary64 :=
  plainNumber? (Text.trim text) <|> (withoutUnderscores? text).bind plainNumber?

end DocMapper.Spelling
