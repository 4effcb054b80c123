import DocMapper.Path.Recording
import DocMapper.Schema.Scalar
/-!
# Field paths

A path to a field of a document is given as a text with dots, as a sequence of keys, or as an
accessor. `Value.asFieldPath` reads a value as such a notation and keeps it as it is given;
`resolvePath` turns each of the three into the list of keys when the path is used.
-/

namespace DocMapper

namespace Value

/-- Reads each element of a sequence as a text. -/
def asTexts (items : List Value) : Checked (List Value) :=
  Checked.all (items.mapIdx fun i v => Checked.under (toString i) (v.asText.map Value.text))

/-- Reads a value as the notation of a path. -/
def asFieldPath : Value → Checked Value
  | .list items => (asTexts items).map Value.list
  | .tuple items => (asTexts items).map Value.tuple
  | .accessor steps => .ok (.accessor steps)
  | .thunk target => .ok (.thunk target)
  | v => v.asText.map Value.text

end Value

/-- The parts of a text between dots. -/
def splitDots (text : String) : List String :=
  (text.toList.splitOn '.').map String.ofList

/-- The keys of a path in any of its three notations, unchecked. -/
def pathKeys : Value → Except Fault (List String)
  | .accessor steps => accessedKeys steps
  | .thunk _ => .error wrongKind
  | .text s => .ok (splitDots s)
  | path => do
    let items ← path.items
    return items.map Value.toText

/-- The keys of a path: at least one, and none of them empty. -/
def resolvePath (path : Value) : Except Fault (List String) := do
  let keys ← pathKeys path
  if keys.isEmpty || keys.any String.isEmpty then
    throw (.misconfigured "resolve_path" path "path must contain at least one key")
  else return keys

end DocMapper
