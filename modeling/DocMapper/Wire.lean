import DocMapper.Number.Shortest
import DocMapper.Text.Quoted
import DocMapper.Value
/-!
# Wire forms

`Wire` is the form in which queries are sent and responses come back: JSON data. A wire form may
hold values that JSON has no notation for; such a `foreign` leaf carries the JSON text that stands
for it when the form is written out.

`Wire.json` writes a form as JSON text, with members in their own order or in ascending order of
their keys, and `Wire.toValue` reads a form as plain data. JSON has names for texts, numbers, truth
values and null only; `Wire.isWritable` tells whether every key of a form has one.
-/

namespace DocMapper

/-- JSON data, possibly with leaves that JSON cannot express. -/
inductive Wire
  | null
  | bool (value : Bool)
  | int (value : Int)
  | float (value : Binary64)
  | text (value : String)
  | array (items : List Wire)
  /-- a tuple, which JSON writes as an array -/
  | tuple (items : List Wire)
  | object (members : List (Key × Wire))
  | foreign (value : Value) (json : String)

instance : Inhabited Wire := ⟨.null⟩

namespace Wire

/-- The object with named members, in the order given. -/
def fields (members : List (String × Wire)) : Wire :=
  .object (members.map fun member => (.text member.1, member.2))

/-- The object with one member. -/
def single (name : String) (value : Wire) : Wire := .object [(.text name, value)]

mutual

/-- The plain data of a wire form. -/
def toValue : Wire → Value
  | .null => .null
  | .bool b => .bool b
  | .int n => .int n
  | .float x => .float x
  | .text s => .text s
  | .array items => .list (toValues items)
  | .tuple items => .tuple (toValues items)
  | .object members => .dict (toEntries members)
  | .foreign value _ => value

/-- The plain data of each form. -/
def toValues : List Wire → List Value
  | [] => []
  | w :: rest => w.toValue :: toValues rest

/-- The plain data of each member. -/
def toEntries : List (Key × Wire) → List (Key × Value)
  | [] => []
  | (k, w) :: rest => (k, w.toValue) :: toEntries rest

end

/-- The JSON text of a number. -/
def numberText (x : Binary64) : String :=
  match x.kind with
  | .notANumber => "NaN"
  | .infinite negative => if negative then "-Infinity" else "Infinity"
  | .finite .. => x.text

/-- The JSON text of a key, without quotes, if JSON has one for it. -/
def keyText? : Key → Option String
  | .text s => some s
  | .int n => some (toString n)
  | .bool b => some (if b then "true" else "false")
  | .null => some "null"
  | .float x => some (numberText x)
  | _ => none

/-- The JSON text of a key, empty for a key without one. -/
def keyText (k : Key) : String := (keyText? k).getD ""

/-- Whether a key is a number or a truth value. -/
def isNumericKey : Key → Bool
  | .int _ => true
  | .bool _ => true
  | .float _ => true
  | _ => false

/-- Whether keys can be put in ascending order: they are all texts or all numbers, or there is
nothing to compare. -/
def areSortable (keys : List Key) : Bool :=
  keys.length ≤ 1 || keys.all Key.isText || keys.all isNumericKey

mutual

/-- Whether a form can be written as JSON text, with members in ascending order when asked for. -/
def isWritable (sorted : Bool) : Wire → Bool
  | .array items => areWritable sorted items
  | .tuple items => areWritable sorted items
  | .object members =>
    (!sorted || areSortable (members.map Prod.fst)) && areWritableMembers sorted members
  | _ => true

/-- Whether each element can be written. -/
def areWritable (sorted : Bool) : List Wire → Bool
  | [] => true
  | w :: rest => isWritable sorted w && areWritable sorted rest

/-- Whether each member can be written. -/
def areWritableMembers (sorted : Bool) : List (Key × Wire) → Bool
  | [] => true
  | (k, w) :: rest =>
    (keyText? k).isSome && isWritable sorted w && areWritableMembers sorted rest

end

/-- Texts of members, in ascending order of their keys when asked for. -/
def arrange (sorted : Bool) (members : List (String × String)) : List (String × String) :=
  if sorted then members.mergeSort fun a b => decide (a.1 ≤ b.1) else members

/-- The text of an object whose member values are written already. -/
def objectText (members : List (String × String)) : String :=
  "\x7b" ++ ", ".intercalate (members.map fun member =>
    Text.jsonString member.1 ++ ": " ++ member.2) ++ "\x7d"

mutual

/-- The JSON text of a wire form. -/
def json (sorted : Bool) : Wire → String
  | .null => "null"
  | .bool b => if b then "true" else "false"
  | .int n => toString n
  | .float x => numberText x
  | .text s => Text.jsonString s
  | .array items => "[" ++ ", ".intercalate (jsonItems sorted items) ++ "]"
  | .tuple items => "[" ++ ", ".intercalate (jsonItems sorted items) ++ "]"
  | .object members => objectText (arrange sorted (jsonMembers sorted members))
  | .foreign _ written => written

/-- The JSON text of each element. -/
def jsonItems (sorted : Bool) : List Wire → List String
  | [] => []
  | w :: rest => json sorted w :: jsonItems sorted rest

/-- The key and the JSON text of each member. -/
def jsonMembers (sorted : Bool) : List (Key × Wire) → List (String × String)
  | [] => []
  | (k, w) :: rest => (keyText k, json sorted w) :: jsonMembers sorted rest

end

end Wire

end DocMapper
