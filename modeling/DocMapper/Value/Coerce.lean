import DocMapper.Fault
/-!
# Reading a value as another shape

`Value.toDict` reads a value as a dictionary: a dictionary is one, an instance is the dictionary
of its fields, and a sequence is one when each of its elements is a pair of a key and a value. A
two-character text is a pair too.

`Value.items` reads a value as a sequence: the elements of a list or tuple, the characters of a
text, the keys of a dictionary.
-/

namespace DocMapper

/-- A value that does not support what is asked of it. -/
abbrev wrongKind : Fault := .misuse .wrongKind

/-- A value without the member that is asked for. -/
abbrev noMember : Fault := .misuse .noMember

/-- A value that is not acceptable. -/
abbrev badValue : Fault := .misuse .badValue

/-- A position outside a sequence. -/
abbrev outOfRange : Fault := .misuse .outOfRange

namespace Value

/-- The fields of a reference. -/
def refFields (r : Ref) : List (String × Value) :=
  [("id", .text r.id),
    ("collection", match r.collection with
      | none => .null
      | some c => .ref c),
    ("database", match r.database with
      | none => .null
      | some d => .ref d)]

/-- What a value has under a name: a field of an instance, or a part of a reference. -/
def member (v : Value) (name : String) : Except Fault Value :=
  let fields := match v with
    | .record _ fields => fields
    | .ref r => refFields r
    | _ => []
  match fields.lookup name with
  | some v => .ok v
  | none => .error noMember

/-- The elements of a value, if it is a sequence or can be walked like one. -/
def items? : Value → Option (List Value)
  | .list items => some items
  | .tuple items => some items
  | .text s => some (s.toList.map fun c => .text (String.singleton c))
  | .bytes b => some (b.map fun byte => .int byte.toNat)
  | .dict entries => some (entries.map fun entry => ofKey entry.1)
  | .record _ fields => some (fields.map fun field => .tuple [.text field.1, field.2])
  | .ref r => some ((refFields r).map fun field => .tuple [.text field.1, field.2])
  | _ => none

/-- The elements of a value, or a fault if it has none. -/
def items (v : Value) : Except Fault (List Value) :=
  match v.items? with
  | some items => .ok items
  | none => .error wrongKind

/-- The entry that a pair is. -/
def toEntry (pair : Value) : Except Fault (Key × Value) :=
  match pair.items? with
  | none => .error wrongKind
  | some [key, value] =>
    match key.toKey? with
    | some key => .ok (key, value)
    | none => .error wrongKind
  | some _ => .error badValue

/-- A value as a dictionary. -/
def toDict (v : Value) : Except Fault (Dict Value) :=
  match v with
  | .dict entries => .ok entries
  | _ => do
    let pairs ← v.items
    let entries ← pairs.mapM toEntry
    return Dict.ofEntries entries

/-- The stored form of a value, or a fault if some part of it has none. -/
def stored (v : Value) : Except Fault Value :=
  match v.unstorable? with
  | some reason => .error (.misuse (.unstorable reason))
  | none => .ok (jsonDump .plain v)

/-- The entries of a dictionary; no other value has entries. -/
def entries : Value → Except Fault (Dict Value)
  | .dict entries => .ok entries
  | _ => .error noMember

/-- The entries of a dictionary of named options: every key is a text. -/
def named : Value → Except Fault (Dict Value)
  | .dict entries =>
    if entries.all fun entry => entry.1.isText then .ok entries else .error wrongKind
  | _ => .error wrongKind

mutual

/-- Whether a value can be looked up by: values that are made to be changed cannot. -/
def lookable : Value → Bool
  | .list _ => false
  | .dict _ => false
  | .record .. => false
  | .tuple items => lookableAll items
  | _ => true

/-- Whether each element can be looked up by. -/
def lookableAll : List Value → Bool
  | [] => true
  | v :: rest => v.lookable && lookableAll rest

end

/-- The key that a value looks up. A value that is no key finds nothing, and one that cannot be
looked up by is a fault. -/
def asKey (v : Value) : Except Fault (Option Key) :=
  match v.toKey? with
  | some key => .ok (some key)
  | none => if v.lookable then .ok none else .error wrongKind

/-- What a dictionary has for a value that is looked up. -/
def find {α : Type} (d : Dict α) (v : Value) : Except Fault (Option α) := do
  let key ← v.asKey
  return key.bind d.get?

theorem find_ofKey {α : Type} (d : Dict α) (key : Key) : find d (ofKey key) = .ok (d.get? key) := by
  rw [find, asKey, toKey?_ofKey]
  rfl

end Value

end DocMapper
