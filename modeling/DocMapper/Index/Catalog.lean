import DocMapper.Index.Definition
import DocMapper.Query.Builders
import DocMapper.Schema.Path
/-!
# The indexes of a model

An `IndexCatalog` holds the index definitions of one model under their names. Once it belongs to a
model, an index has a full name, the model's name and its own with a hyphen between, and can be
looked up and created in the database.

* `IndexCatalog.bind` gives the catalog to a model and checks every path against its schema.
* `IndexCatalog.matching` is the query for the documents that agree with some terms.
* `IndexCatalog.creations` has one query per index that creates it unless it exists.
-/

namespace DocMapper

/-- The index definitions of a model, and the name of the model once there is one. -/
structure IndexCatalog where
  definitions : Dict IndexDefinition := []
  owner : Option String := none

namespace IndexCatalog

/-- The full name of an index of a model. -/
def fullNameOf (model index : String) : String := model ++ "-" ++ index

/-- Takes definitions from values, in order. -/
def ofEntries (entries : List (Key × Value)) : Except Fault IndexCatalog := do
  let definitions ← (Dict.ofEntries entries).mapM fun (name, v) => do
    return (name, ← IndexDefinition.ofValue v)
  return { definitions := definitions }

/-- The names of the indexes, in order. -/
def names (c : IndexCatalog) : List Value := c.definitions.keys.map Value.ofKey

/-- The definition under a name. -/
def get (c : IndexCatalog) (name : Value) : Except Fault IndexDefinition := do
  match ← Value.find c.definitions name with
  | some d => return d
  | none => throw (.misconfigured "index.get" name "no index with this name is defined")

/-- The full name of an index. -/
def fullName (c : IndexCatalog) (name : Value) : Except Fault String :=
  match c.owner with
  | some model => .ok (fullNameOf model name.toText)
  | none => .error (.misconfigured "full_index_name" name
      "attempted to retrieve the full index name before a model was set")

/-- The keys of the term paths of an index. -/
def termPaths (c : IndexCatalog) (name : Value) : Except Fault (List (List String)) := do
  let d ← c.get name
  d.terms.mapM resolvePath

/-- The keys of a path as a value. -/
def keysValue (keys : List String) : Value := .list (keys.map Value.text)

/-- A field that an index shows, with its keys resolved. -/
def valueField (field : List String) (reverse : Bool) : Value :=
  .object [("field", keysValue field), ("reverse", .bool reverse)]

/-- The fields that an index shows, with their keys resolved. -/
def valueFields (c : IndexCatalog) (name : Value) : Except Fault (List Value) := do
  let d ← c.get name
  d.values.mapM fun v => do return valueField (← resolvePath v.field) v.reverse

/-- Where an entry of an index holds the reference of its document: after the values it shows. An
index that shows none has the references themselves as entries. -/
def refPosition (c : IndexCatalog) (name : Value) : Except Fault (Option Nat) := do
  let d ← c.get name
  return if d.values.isEmpty then none else some d.values.length

/-- The parameters that create an index over a source. A reference follows the values, so that an
entry leads back to its document. -/
def creationParams (c : IndexCatalog) (name source : Value) : Except Fault (Dict Value) := do
  let full ← c.fullName name
  let d ← c.get name
  let shown ← c.valueFields name
  let terms ← c.termPaths name
  let values := if shown.isEmpty then [] else shown ++ [valueField ["ref"] false]
  return Dict.ofFields ([
    ("name", .text full),
    ("source", source),
    ("terms", .list (terms.map fun keys => .object [("field", keysValue keys)])),
    ("values", .list values),
    ("unique", .bool d.unique)]
    ++ (d.serialized.toList.map fun b => ("serialized", Value.bool b))
    ++ (d.data.toList.map fun entries => ("data", Value.dict entries)))

/-- The query that creates an index over a source. -/
def creation (c : IndexCatalog) (name source : Value) : Except Fault Query := do
  return .createIndex (← c.creationParams name source)

/-- The query that creates an index over a source unless it exists. -/
def guardedCreation (c : IndexCatalog) (name source : Value) : Except Fault Query := do
  let full ← c.fullName name
  let creation ← c.creation name source
  return .binding [
    ("name", .text full),
    ("exists", .query (.present (.query (.index (Query.named "name") none)))),
    ("created_index", .query (.ifElse (Query.named "exists") .null (.query creation)))]
    (Query.named "created_index")

/-- One query per index that creates it unless it exists. -/
def creations (c : IndexCatalog) (source : Value) : Except Fault (List Query) :=
  c.names.mapM fun name => c.guardedCreation name source

/-- The query for the entries of an index that agree with some terms. -/
def matching (c : IndexCatalog) (name : Value) (terms : List Value) : Except Fault Query := do
  let _ ← c.get name
  let full ← c.fullName name
  return .lookUp (.query (.index (.text full) none)) terms

/-- Checks every path of a definition against a schema. -/
def checkPaths (schema : Schema) (owner : String) (d : IndexDefinition) : Except Fault Unit := do
  for path in d.terms ++ d.values.map IndexValue.field do
    schema.checkPath (← resolvePath path) owner

/-- Gives the catalog to a model; every path has to lead to a field of its schema. -/
def bind (c : IndexCatalog) (model : String) (schema : Schema) : Except Fault IndexCatalog := do
  for (name, d) in c.definitions do
    checkPaths schema (fullNameOf model name.toText) d
  return { c with owner := some model }

end IndexCatalog

end DocMapper
