import DocMapper.Path
import DocMapper.Schema.Validate
/-!
# Index definitions

An index definition says by which fields documents are looked up (its terms), which fields each
entry of the index shows and sorts by (its values), and whether two documents may agree on all
terms. `IndexDefinition.ofValue` takes one from a dictionary, and takes an instance as it is.
-/

namespace DocMapper

/-- A field that the entries of an index show. -/
structure IndexValue where
  field : Value
  /-- sorts from the largest to the smallest -/
  reverse : Bool := false

/-- What an index looks documents up by and what its entries show. -/
structure IndexDefinition where
  unique : Bool := false
  terms : List Value := []
  values : List IndexValue := []
  serialized : Option Bool := none
  data : Option (Dict Value) := none

namespace IndexValue

/-- The name of the structure in reports. -/
def title : String := "IndexValue"

/-- Takes a field of an index from the members of a dictionary. -/
def ofMembers (members : Dict Value) : Checked IndexValue :=
  (Checked.both (Checked.member members "field" Value.asFieldPath)
    (Checked.memberOr false members "reverse" Value.asBool)).map fun (field, reverse) =>
      ⟨field, reverse⟩

/-- Reads a field of an index. -/
def read (v : Value) : Checked IndexValue :=
  match v.members? title with
  | some members => ofMembers members
  | none => Checked.reject (.notInstance title) v

/-- The instance that stands for a field of an index. -/
def toValue (v : IndexValue) : Value :=
  .record title [("field", v.field), ("reverse", .bool v.reverse)]

end IndexValue

namespace IndexDefinition

/-- The name under which flaws of a definition are reported. -/
def title : String := "IndexDefinition"

/-- Reads each element of a list. -/
def readList {α : Type} (read : Value → Checked α) : Value → Checked (List α)
  | .list items => Checked.all (items.mapIdx fun i v => Checked.under (toString i) (read v))
  | .tuple items => Checked.all (items.mapIdx fun i v => Checked.under (toString i) (read v))
  | v => Checked.reject .notList v

/-- Reads a truth value or null. -/
def readSerialized : Value → Checked (Option Bool)
  | .null => .ok none
  | v => v.asBool.map some

/-- Reads a dictionary whose keys spell texts, or null. -/
def readData : Value → Checked (Option (Dict Value))
  | .null => .ok none
  | .dict entries =>
    (Checked.all (entries.map fun (key, v) => checkEntry key (.ok v))).map fun entries =>
      some (Dict.ofEntries entries)
  | v => Checked.reject .notDict v

/-- Takes a definition from the members of a dictionary. -/
def ofMembers (members : Dict Value) : Checked IndexDefinition :=
  let lists := Checked.both
    (Checked.memberOr [] members "terms" (readList Value.asFieldPath))
    (Checked.memberOr [] members "values" (readList IndexValue.read))
  let rest := Checked.both
    (Checked.memberOr none members "serialized" readSerialized)
    (Checked.memberOr none members "data" readData)
  (Checked.both (Checked.memberOr false members "unique" Value.asBool)
    (Checked.both lists rest)).map fun (unique, (terms, values), serialized, data) =>
      ⟨unique, terms, values, serialized, data⟩

/-- The instance that stands for a definition. -/
def toValue (d : IndexDefinition) : Value :=
  .record title [("unique", .bool d.unique), ("terms", .list d.terms),
    ("values", .list (d.values.map IndexValue.toValue)),
    ("serialized", match d.serialized with
      | none => .null
      | some b => .bool b),
    ("data", match d.data with
      | none => .null
      | some entries => .dict entries)]

/-- Reads a definition. -/
def read (v : Value) : Checked IndexDefinition :=
  match v.members? title with
  | some members => ofMembers members
  | none => Checked.reject (.notInstance title) v

/-- The definition that a caller gives: an instance, or a dictionary of named options. -/
def ofValue (v : Value) : Except Fault IndexDefinition := do
  if !v.isInstance title then
    let _ ← v.named
  Checked.orReject title (read v)

end IndexDefinition

end DocMapper
