import DocMapper.Schema
import DocMapper.Schema.Scalar
import DocMapper.Value.Order
import DocMapper.Value.Subscript
/-!
# Limits of fields

A field can limit the length of its values and give bounds for them. Texts, lists and dictionaries
have lengths of their own, and numbers, timestamps and dates have bounds of their own: these limits
are part of how such a value is read (`Limits.checkText`, `Limits.checkList`, `Limits.checkDict`,
`Limits.checkBounds`). Every other limit is held against the value after it was read
(`Limits.holdBounds`, `Limits.holdLengths`), and a value that cannot be compared or has no length
ends the check.

`FieldType.bound?` is a bound in the kind of the type's values; not every bound has one.
-/

namespace DocMapper

/-- A bound as a bound of a type: of a type with bounds of its own it has to be of the kind of its
values. -/
def FieldType.bound? : FieldType → Value → Option Value
  | .int, .int n => some (.int n)
  | .int, .bool b => some (.int (if b then 1 else 0))
  | .int, _ => none
  | .float, .float x => some (.float x)
  | .float, .text _ => none
  | .float, .bytes _ => none
  | .float, v => v.asFloat.toOption.map Value.float
  | .timestamp, .timestamp t => some (.timestamp t)
  | .timestamp, _ => none
  | .date, v => (v.dateReading?.bind Except.toOption).map Value.date
  | .optional inner, v => inner.bound? v
  | _, v => some v

namespace Limits

/-- The bounds in the kind of a type's values. -/
def ofType (limits : Limits) (type : FieldType) : Limits :=
  { limits with
    atLeast := limits.atLeast.bind type.bound?
    above := limits.above.bind type.bound?
    atMost := limits.atMost.bind type.bound?
    below := limits.below.bind type.bound? }

/-- Whether every bound can be a bound of a type. -/
def fits (limits : Limits) (type : FieldType) : Bool :=
  [limits.atLeast, limits.above, limits.atMost, limits.below].all fun bound =>
    bound.all fun v => (type.bound? v).isSome

/-! ## Words -/

/-- A count of things, in the singular for one. -/
def counted (n : Nat) (thing : String) : String :=
  toString n ++ " " ++ thing ++ (if n = 1 then "" else "s")

/-- The text of a bound: a number without an exponent, and a text as it stands. -/
def boundText : Value → String
  | .float x => x.positionalText
  | .bool b => if b then "1" else "0"
  | .text s => s
  | .timestamp t => t.zulu
  | .date d => d.iso
  | v => v.inspect

/-- How a value has to stand to a bound. -/
inductive Standing
  | atLeast
  | above
  | atMost
  | below

/-- A value breaks a bound. -/
def Standing.broken (bound : Value) : Standing → Reason
  | atLeast =>
    ⟨"greater_than_equal", "Input should be greater than or equal to " ++ boundText bound⟩
  | above => ⟨"greater_than", "Input should be greater than " ++ boundText bound⟩
  | atMost => ⟨"less_than_equal", "Input should be less than or equal to " ++ boundText bound⟩
  | below => ⟨"less_than", "Input should be less than " ++ boundText bound⟩

/-- A text has too few characters. -/
def tooFewCharacters (least : Nat) : Reason :=
  ⟨"string_too_short", "String should have at least " ++ counted least "character"⟩

/-- A text has too many characters. -/
def tooManyCharacters (most : Nat) : Reason :=
  ⟨"string_too_long", "String should have at most " ++ counted most "character"⟩

/-- A value has too few items, of which some are left after the check. -/
def tooFewItems (kind : String) (least left : Nat) : Reason :=
  ⟨"too_short", kind ++ " should have at least " ++ counted least "item"
    ++ " after validation, not " ++ toString left⟩

/-- A value has too many items. -/
def tooManyItems (kind : String) (most : Nat) (left : String) : Reason :=
  ⟨"too_long", kind ++ " should have at most " ++ counted most "item"
    ++ " after validation, not " ++ left⟩

/-! ## Limits that a type has of its own -/

/-- Refuses a value that breaks a bound; a value that is not ordered against the bound keeps it. -/
def checkBound (standing : Standing) (breaks : Comparison → Bool)
    (compare : Value → Option Comparison) (bound : Option Value) (v : Value) : Checked Value :=
  match bound with
  | none => .ok v
  | some bound =>
    if (compare bound).any breaks then Checked.reject (standing.broken bound) v else .ok v

/-- The comparison of two values of a type with bounds of its own. Times of which only one has an
offset are compared by their readings. -/
def compareOwn (v bound : Value) : Option Comparison :=
  match v, bound with
  | .timestamp a, .timestamp b =>
    some (.ofOrdering ((a.compare? b).getD (compare a.reading b.reading)))
  | v, bound => v.compare? bound

/-- Checks a value of a type with bounds of its own. -/
def checkBounds (limits : Limits) (v : Value) : Checked Value := do
  let _ ← checkBound .atMost (· == .greater) (compareOwn v) limits.atMost v
  let _ ← checkBound .below (fun c => c == .greater || c == .equal) (compareOwn v)
    limits.below v
  let _ ← checkBound .atLeast (· == .less) (compareOwn v) limits.atLeast v
  checkBound .above (fun c => c == .less || c == .equal) (compareOwn v) limits.above v

/-- Checks the length of a text. -/
def checkText (limits : Limits) (s : String) : Checked Value :=
  if limits.minLength.any fun n => s.length < n then
    Checked.reject (tooFewCharacters (limits.minLength.getD 0)) (.text s)
  else if limits.maxLength.any fun n => n < s.length then
    Checked.reject (tooManyCharacters (limits.maxLength.getD 0)) (.text s)
  else .ok (.text s)

/-- Puts the items of a given list together within the limits: a list that is too long is refused as
soon as it is, and one that is too short when all its items are read. -/
def checkList (limits : Limits) (given : Value) (items : List (Checked Value)) : Checked Value :=
  let most := limits.maxLength.getD items.length
  match Checked.all (items.take (most + 1)) with
  | .error .incomparable => .error .incomparable
  | outcome =>
    if most < items.length then
      Checked.reject (tooManyItems "List" most (toString items.length)) given
    else
      match outcome with
      | .error refusal => .error refusal
      | .ok values =>
        if limits.minLength.any fun n => values.length < n then
          Checked.reject (tooFewItems "List" (limits.minLength.getD 0) values.length) given
        else .ok (.list values)

/-- Checks the number of entries of a dictionary. -/
def checkDict (limits : Limits) (entries : Dict Value) : Checked Value :=
  if limits.minLength.any fun n => entries.length < n then
    Checked.reject (tooFewItems "Dictionary" (limits.minLength.getD 0) entries.length)
      (.dict entries)
  else if limits.maxLength.any fun n => n < entries.length then
    Checked.reject (tooManyItems "Dictionary" (limits.maxLength.getD 0) "more") (.dict entries)
  else .ok (.dict entries)

/-! ## Limits that are held against a value -/

/-- Holds a value against a bound. -/
def holdBound (standing : Standing) (keeps : Comparison → Bool) (bound : Option Value)
    (v : Value) : Checked Value :=
  match bound with
  | none => .ok v
  | some bound =>
    match v.compare? bound with
    | none => .error .incomparable
    | some c => if keeps c then .ok v else Checked.reject (standing.broken bound) v

/-- Holds a value against the bounds, in the order in which a field lists them. -/
def holdBounds (limits : Limits) (v : Value) : Checked Value := do
  let _ ← holdBound .above (· == .greater) limits.above v
  let _ ← holdBound .atLeast (fun c => c == .greater || c == .equal) limits.atLeast v
  let _ ← holdBound .below (· == .less) limits.below v
  holdBound .atMost (fun c => c == .less || c == .equal) limits.atMost v

/-- The length of a value that has to have one. -/
def lengthOf (v : Value) : Checked Nat :=
  match v.length with
  | .ok n => .ok n
  | .error _ => .error .incomparable

/-- Holds the length of a value against the limits. -/
def holdLengths (limits : Limits) (v : Value) : Checked Value := do
  if let some least := limits.minLength then
    let n ← lengthOf v
    if n < least then Checked.reject (tooFewItems "Value" least n) v
  if let some most := limits.maxLength then
    let n ← lengthOf v
    if most < n then Checked.reject (tooManyItems "Value" most (toString n)) v
  return v

/-- Holds a value against all limits. -/
def hold (limits : Limits) (v : Value) : Checked Value := do
  limits.holdLengths (← limits.holdBounds v)

end Limits

end DocMapper
