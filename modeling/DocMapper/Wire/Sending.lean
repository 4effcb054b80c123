import DocMapper.Value.Display
import DocMapper.Fault
/-!
# Wire forms that can be sent

An instance in a query is sent in its stored form, which it need not have: `Value.wire` and
`Query.wire` are the wire forms of values and queries, or the fault of the first such instance.

Strict JSON has no notation for infinite numbers, for keys other than texts, numbers, truth values
and null, and for what is no JSON data at all. `Wire.sendable` gives the JSON data of a form, with
the keys of its objects as texts, or the first fault on the way.
-/

namespace DocMapper

namespace Wire

mutual

/-- Why a form is none: the first instance in it that cannot be stored. -/
def unstorable? : Wire → Option Unstorable
  | .array items => unstorableIn? items
  | .tuple items => unstorableIn? items
  | .object members => unstorableMember? members
  | .foreign (.record schema fields) _ => (Value.record schema fields).unstorable?
  | _ => none

/-- `unstorable?` on the elements, in order. -/
def unstorableIn? : List Wire → Option Unstorable
  | [] => none
  | w :: rest => w.unstorable? <|> unstorableIn? rest

/-- `unstorable?` on the members, in order. -/
def unstorableMember? : List (Key × Wire) → Option Unstorable
  | [] => none
  | (_, w) :: rest => w.unstorable? <|> unstorableMember? rest

end

/-- A form, unless an instance in it cannot be stored. -/
def checked (w : Wire) : Except Fault Wire :=
  match w.unstorable? with
  | some reason => .error (.misuse (.unstorable reason))
  | none => .ok w

/-! ## JSON data -/

/-- The text of a key in strict JSON. -/
def sendableKey (key : Key) : Except Fault Key :=
  match key with
  | .float x => if x.isFinite then .ok (.text (keyText key)) else .error (.misuse .badValue)
  | key =>
    match keyText? key with
    | some s => .ok (.text s)
    | none => .error (.misuse .wrongKind)

mutual

/-- The JSON data of a value that stands in a wire form as it is. -/
def sendableValue : Value → Except Fault Wire
  | .null => .ok .null
  | .bool b => .ok (.bool b)
  | .int n => .ok (.int n)
  | .float x => if x.isFinite then .ok (.float x) else .error (.misuse .badValue)
  | .text s => .ok (.text s)
  | .list items => do return .array (← sendableValues items)
  | .tuple items => do return .array (← sendableValues items)
  | .dict entries => do return .object (Dict.ofEntries (← sendableEntries entries))
  | _ => .error (.misuse .wrongKind)

/-- `sendableValue` on each element. -/
def sendableValues : List Value → Except Fault (List Wire)
  | [] => .ok []
  | v :: rest => do
    let w ← sendableValue v
    return w :: (← sendableValues rest)

/-- `sendableValue` on each entry. -/
def sendableEntries : List (Key × Value) → Except Fault (List (Key × Wire))
  | [] => .ok []
  | (k, v) :: rest => do
    let k ← sendableKey k
    let w ← sendableValue v
    return (k, w) :: (← sendableEntries rest)

end

mutual

/-- The JSON data of a wire form. -/
def sendable : Wire → Except Fault Wire
  | .float x => if x.isFinite then .ok (.float x) else .error (.misuse .badValue)
  | .array items => do return .array (← sendableItems items)
  | .tuple items => do return .array (← sendableItems items)
  | .object members => do return .object (Dict.ofEntries (← sendableMembers members))
  | .foreign v _ => sendableValue v
  | w => .ok w

/-- `sendable` on each element. -/
def sendableItems : List Wire → Except Fault (List Wire)
  | [] => .ok []
  | w :: rest => do
    let w ← sendable w
    return w :: (← sendableItems rest)

/-- `sendable` on each member, with the key as a text. -/
def sendableMembers : List (Key × Wire) → Except Fault (List (Key × Wire))
  | [] => .ok []
  | (k, w) :: rest => do
    let k ← sendableKey k
    let w ← sendable w
    return (k, w) :: (← sendableMembers rest)

end

end Wire

/-- The wire form of a value. -/
def Value.wire (v : Value) : Except Fault Wire := v.toWire.checked

/-- The wire form of a query. -/
def Query.wire (q : Query) : Except Fault Wire := q.toWire.checked

end DocMapper
