import DocMapper.Call
import DocMapper.Index.Catalog
import DocMapper.Relation.Catalog
/-!
# Calls of catalogs

`IndexCatalog.answer` answers calls about the indexes of a model, `RelationCatalog.answer` calls
about its relations. Only the binding of a relation changes anything.
-/

namespace DocMapper

namespace IndexCatalog

/-- The index and the terms of a call: those by position, or the index alone by its name. -/
def matchArguments (call : Call) : Except Fault (Value × List Value) :=
  match call.args, call.named with
  | index :: terms, [] => .ok (index, terms)
  | [], [("index_name", index)] => .ok (index, [])
  | _, _ => .error wrongKind

/-- Answers a call about the indexes. -/
def answer (c : IndexCatalog) (call : Call) : Except Fault Value := do
  match call.name with
  | "names" =>
    let _ ← call.bind []
    return .list c.names
  | "get" => return (← c.get (← call.only "name")).toValue
  | "full_index_name" => return .text (← c.fullName (← call.only "name"))
  | "term_paths" => return .list ((← c.termPaths (← call.only "name")).map Value.ofTexts)
  | "value_fields" => return .list (← c.valueFields (← call.only "name"))
  | "ref_position" =>
    return (← c.refPosition (← call.only "name")).elim .null fun (n : Nat) => .int n
  | "create_index" =>
    let arg ← call.bind [need "name", need "collection_expr"]
    return .query (← c.creation (arg "name") (arg "collection_expr"))
  | "create_queries" =>
    return .list ((← c.creations (← call.only "collection_expr")).map Value.query)
  | "match" =>
    let (index, terms) ← matchArguments call
    return .query (← c.matching index terms)
  | _ => throw (call.refusal ["definitions", "model"])

end IndexCatalog

namespace Related

/-- The answer that a relation's target is. -/
def toAnswer : Related → Answer
  | .model m => .models (.one m.name)
  | .models ms => .models (.many (ms.map Registered.name))
  | .called target => .models target
  | .value v => .value v

end Related

namespace RelationCatalog

/-- Answers a call about the relations; the names that are known as models are given. -/
def answer (known : String → Bool) (call : Call) : Action RelationCatalog Answer := do
  let c : RelationCatalog ← MonadState.get
  match call.name with
  | "names" =>
    let _ ← call.bind []
    return .value (.list c.names)
  | "get_relation" => return .value (← c.get (← call.only "name")).toValue
  | "field_path" => return .value (Value.ofTexts (← c.fieldPath (← call.only "name")))
  | "related_model" => return (← c.related known (← call.only "name")).toAnswer
  | "bind" =>
    let arg ← call.bind [need "name", need "target"]
    if let some key ← (arg "name").asKey then set (c.bind key (.value (arg "target")))
    return .done
  | _ => throw (call.refusal ["relations"])

end RelationCatalog

end DocMapper
