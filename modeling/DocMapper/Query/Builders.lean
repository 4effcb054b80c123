import DocMapper.Path
/-!
# Building queries

Functions that build queries from argument values: optional arguments may be null, paths may be
given in short form, and parameters are read as dictionaries.
-/

namespace DocMapper

/-- An optional argument, null when it is not given. -/
def Value.given : Value → Option Value
  | .null => none
  | v => some v

namespace Query

/-- The variable of a name. -/
def named (name : String) : Value := .query (.var (.text name))

/-- Binds names in order around a body. -/
def binding (bindings : List (String × Value)) (body : Value) : Query :=
  .letIn (Dict.ofFields bindings) body

/-- Evaluates expressions in order; there has to be one. -/
def inOrder : List Value → Except Fault Query
  | [] => .error .emptySequence
  | items => .ok (.sequence items)

/-- The path of a selection: a text is split at its dots, and a single key is a path of one. -/
def selectPath : Value → List Value
  | .text s => (splitDots s).map Value.text
  | .list items => items
  | .tuple items => items
  | key => [key]

/-- Selects along a path. -/
def selecting (path source : Value) (fallback : Option Value) : Query :=
  .select (selectPath path) source fallback

/-- The documents that an index has for some terms: a single term stands for itself. -/
def lookUp (index : Value) : List Value → Query
  | [] => .matching index none
  | [term] => .matching index (some term)
  | terms => .matching index (some (.list terms))

/-- One page of a set. -/
def page (source size after before : Value) : Query :=
  .paginate source size.given after.given before.given

/-- Creates a document in a collection. -/
def creating (collection params : Value) : Except Fault Query := do
  return .create collection (← params.toDict)

/-- Merges data into a document. -/
def updating (target params : Value) : Except Fault Query := do
  return .update target (← params.toDict)

/-- Replaces the data of a document. -/
def replacing (target params : Value) : Except Fault Query := do
  return .replace target (← params.toDict)

/-- Creates a collection. -/
def creatingCollection (params : Value) : Except Fault Query := do
  return .createCollection (← params.toDict)

/-- Creates an index. -/
def creatingIndex (params : Value) : Except Fault Query := do
  return .createIndex (← params.toDict)

end Query

end DocMapper
