import DocMapper.Path
/-!
# The relations of a model

A relation names a field of a document and the model or models that the field points to. The target
is kept by name, so that models may point to each other in any order; it becomes known when the
relation is bound, or when its deferred target is called.

`RelationCatalog.related` tells what a relation points to.
-/

namespace DocMapper

/-- What a relation is declared to point to. -/
inductive RelatedTarget
  /-- models given by name -/
  | named (target : Target)
  /-- a function that gives the models when it is called -/
  | function (value : Value)

/-- A field and the models it points to. -/
structure RelationDefinition where
  field : Value
  target : RelatedTarget

/-- A model as a registry has it: its number, and the name that it is registered under. -/
structure Registered where
  number : Nat
  name : String
  deriving DecidableEq

/-- What a relation turns out to point to. -/
inductive Related
  /-- a model that was found under its name -/
  | model (model : Registered)
  /-- models that were found under their names, in the order of these -/
  | models (models : List Registered)
  /-- the models that a function gave -/
  | called (target : Target)
  /-- something else that it was bound to -/
  | value (value : Value)

namespace RelatedTarget

/-- Reads the target of a relation. -/
def read : Value → Checked RelatedTarget
  | .accessor steps => .ok (.function (.accessor steps))
  | .thunk target => .ok (.function (.thunk target))
  | .list items => (readNames items).map fun names => .named (.many names)
  | .tuple items => (readNames items).map fun names => .named (.many names)
  | v => v.asText.map fun name => .named (.one name)
where
  readNames (items : List Value) : Checked (List String) :=
    Checked.all (items.mapIdx fun i v => Checked.under (toString i) v.asText)

/-- The value that stands for a target. -/
def toValue : RelatedTarget → Value
  | .named (.one name) => .text name
  | .named (.many names) => .list (names.map Value.text)
  | .function f => f

end RelatedTarget

namespace RelationDefinition

/-- The name under which flaws of a definition are reported. -/
def title : String := "RelationDefinition"

/-- Reads a definition. -/
def read (v : Value) : Checked RelationDefinition :=
  match v.members? title with
  | some members =>
    (Checked.both (Checked.member members "field" Value.asFieldPath)
      (Checked.member members "related_model" RelatedTarget.read)).map fun (field, target) =>
        ⟨field, target⟩
  | none => Checked.reject (.notInstance title) v

/-- The instance that stands for a definition. -/
def toValue (d : RelationDefinition) : Value :=
  .record title [("field", d.field), ("related_model", d.target.toValue)]

/-- The definition that a caller gives: an instance, or a dictionary of named options. -/
def ofValue (v : Value) : Except Fault RelationDefinition := do
  if !v.isInstance title then
    let _ ← v.named
  Checked.orReject title (read v)

end RelationDefinition

/-- The relations of a model, and what is known about their targets. -/
structure RelationCatalog where
  definitions : Dict RelationDefinition := []
  bound : Dict Related := []

namespace RelationCatalog

instance : Inhabited RelationCatalog := ⟨{}⟩

/-- Takes definitions from values, in order. -/
def ofEntries (entries : List (Key × Value)) : Except Fault RelationCatalog := do
  let definitions ← (Dict.ofEntries entries).mapM fun (name, v) => do
    return (name, ← RelationDefinition.ofValue v)
  return { definitions := definitions }

/-- The names of the relations, in order. -/
def names (c : RelationCatalog) : List Value := c.definitions.keys.map Value.ofKey

/-- The definition under a name. -/
def get (c : RelationCatalog) (name : Value) : Except Fault RelationDefinition := do
  match ← Value.find c.definitions name with
  | some d => return d
  | none => throw (.misconfigured "get_relation" name "no relation with this name is defined")

/-- The keys of the field of a relation. -/
def fieldPath (c : RelationCatalog) (name : Value) : Except Fault (List String) := do
  let d ← c.get name
  resolvePath d.field

/-- Records what a relation points to. -/
def bind (c : RelationCatalog) (name : Key) (related : Related) : RelationCatalog :=
  { c with bound := c.bound.put name related }

/-- The models that a deferred target gives, if all of them are known. -/
def call (known : String → Bool) : Value → Except Fault Related
  | .thunk target =>
    let names := match target with
      | .one name => [name]
      | .many names => names
    match names.find? fun name => !known name with
    | some name => .error (.missingKey (Text.quoted name))
    | none => .ok (.called target)
  | _ => .error wrongKind

/-- What a relation points to; the names that are known as models are given. -/
def related (c : RelationCatalog) (known : String → Bool) (name : Value) :
    Except Fault Related := do
  let d ← c.get name
  match ← Value.find c.bound name with
  | some related => return related
  | none =>
    match d.target with
    | .function f => call known f
    | .named _ => throw (.misconfigured "related_model" name
        "relation target is a model name; resolve it through a ModelRegistry first")

end RelationCatalog

end DocMapper
