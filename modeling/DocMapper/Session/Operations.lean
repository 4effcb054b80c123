import DocMapper.Call.Catalog
import DocMapper.Model.Operations
import DocMapper.Session
/-!
# Calls of models and documents

`Session.callModel` performs an operation of a model by its name, and `Session.callDocument` one of
a document that was kept.
-/

namespace DocMapper.Session

/-- The executor of a session. -/
abbrev ex : Executor Remote := Remote.executor

/-- An operation that comes to a document, or to none. -/
def maybe (number : Nat) (op : Model → Op Remote (Option Document)) : Run Answer := do
  return .maybe number (← performOp number op)

/-- An operation that comes to a document. -/
def one (number : Nat) (op : Model → Op Remote Document) : Run Answer := do
  return .document number (← performOp number op)

/-- An operation that comes to documents. -/
def documents (number : Nat) (op : Model → Op Remote (List Document)) : Run Answer := do
  return .documents number (← performOp number op)

/-- An operation that comes to a page. -/
def page (number : Nat) (op : Model → Op Remote Page) : Run Answer := do
  return .page number (← performOp number op)

/-- The parameters of paging. -/
def paging : List Parameter := [may "size" (.int 100), may "after" .null, may "before" .null]

/-- Reads from a model by a call, if it is one that reads. -/
def read? (number : Nat) (c : Call) : Option (Run Answer) :=
  match c.name with
  | "get" => some do
    let id ← c.only "id"
    maybe number (·.get ex id)
  | "get_or_throw" => some do
    let id ← c.only "id"
    one number (·.getOrThrow ex id)
  | "get_many" => some do
    let ids ← c.only "ids"
    documents number (·.getMany ex ids)
  | "get_many_or_throw" => some do
    let ids ← c.only "ids"
    documents number (·.getManyOrThrow ex ids)
  | "list" => some do
    let arg ← c.bind paging
    page number (·.list ex (arg "size") (arg "after") (arg "before"))
  | "count" => some do
    let arg ← c.bind [may "max_docs" (.int 10000)]
    return .value (← performOp number (·.count ex (arg "max_docs")))
  | "get_first_by_index" => some do
    let (index, terms) ← IndexCatalog.matchArguments c
    maybe number (·.getFirstByIndex ex index terms)
  | "list_by_index" => some do
    let arg ← c.bind [need "index_name", need "terms", may "pagination" .null]
    page number (·.listByIndex ex (arg "index_name") (arg "terms") (arg "pagination"))
  | _ => none

/-- Writes to a model by a call, if it is one that writes. -/
def write? (number : Nat) (c : Call) : Option (Run Answer) :=
  match c.name with
  | "create" => some do
    let arg ← c.bind [need "data", may "ttl" .null]
    one number (·.create ex (arg "data") (arg "ttl"))
  | "create_many" => some do
    let items ← c.only "items"
    documents number (·.createMany ex items)
  | "update" => some (writeOne .update)
  | "replace" => some (writeOne .replace)
  | "update_many" => some (writeAll .update)
  | "replace_many" => some (writeAll .replace)
  | "delete" => some do
    let id ← c.only "id"
    maybe number (·.delete ex id)
  | "del_many" => some do
    let ids ← c.only "ids"
    documents number (·.deleteMany ex ids)
  | _ => none
where
  writeOne (w : Model.Writing) : Run Answer := do
    let arg ← c.bind [need "id", need "data"]
    maybe number (·.write ex w (arg "id") (arg "data"))
  writeAll (w : Model.Writing) : Run Answer := do
    let items ← c.only "items"
    documents number (·.writeMany ex w items)

/-- Runs a query of the caller for a model. -/
def execute (number : Nat) (c : Call) : Run Answer := do
  let arg ← c.bind [need "query", may "query_options" .null, may "with_metrics" (.bool false),
    may "error_on_failure" (.bool true), may "operation" (.text "execute"), may "target" .null]
  let exchange : Exchange := {
    operation := arg "operation", target := arg "target", options := arg "query_options",
    withMetrics := arg "with_metrics", raising := arg "error_on_failure" }
  match arg "query" with
  | .query q =>
    if exchange.raising.truthy then
      return .value (← performOp number fun m => exchange.run ex m.name q)
    else return .outcome (← performOp number fun m => exchange.capture ex m.name q)
  | _ =>
    performOp number fun m => exchange.requireBound m.name
    throw noMember

/-- Builds by a call, if it is one that builds. -/
def build? (number : Nat) (m : Model) (now : Int) (c : Call) : Option (Run Answer) :=
  match c.name with
  | "build" => some buildOne
  | "build_sync" => some buildOne
  | "build_bulk" => some buildAll
  | "build_bulk_sync" => some buildAll
  | "build_doc" => some buildDocument
  | "build_doc_sync" => some buildDocument
  | "build_bulk_docs" => some buildDocuments
  | "build_bulk_docs_sync" => some buildDocuments
  | "build_map_result" => some do return .page number (← m.buildPage now (← c.only "result"))
  | _ => none
where
  buildOne : Run Answer := do
    let arg ← c.bind [need "inp", may "operation" (.text "build"), may "target" .null]
    return .value (← m.build now (arg "inp") (arg "operation") (arg "target"))
  buildAll : Run Answer := do
    let arg ← c.bind [need "inp", may "operation" (.text "build_bulk"), may "target" .null]
    return .value (.list (← m.buildBulk now (arg "inp") (arg "operation") (arg "target")))
  buildDocument : Run Answer := do
    return .document number (← m.buildDocument now (← c.only "raw"))
  buildDocuments : Run Answer := do
    return .documents number (← m.buildDocuments now (← c.only "raws"))

/-- Answers a call of a model. -/
def callModel (number : Nat) (c : Call) : Run Answer := do
  let s ← get
  let m := (← s.member number).model
  if let some read := read? number c then read
  else if let some write := write? number c then write
  else if let some build := build? number m s.ambient.now c then build
  else
    match c.name with
    | "execute" => execute number c
    | "paginate" =>
      let arg ← c.bind paging
      let request ← PageRequest.ofNamed (.object
        [("size", arg "size"), ("after", arg "after"), ("before", arg "before")])
      return .value request.toValue
    | "ref" => return .value (.query (← m.refQuery (← c.only "id")))
    | "coll" =>
      let _ ← c.bind []
      return .value (.query m.collection)
    | "create_collection_query" =>
      let _ ← c.bind []
      return .value (.query m.createCollectionQuery)
    | "set_client" =>
      let client ← c.only "client"
      changeMember number fun m => { m with attached.bound := !client.isNull }
      return .done
    | "show" =>
      let _ ← c.bind []
      return .value (.text m.shown)
    | "to_json" =>
      let _ ← c.bind []
      return .value (.text m.json)
    | _ => throw (c.refusal ["name", "defined_schema", "index", "relation", "client", "log"])

/-- Answers a call of the document under a handle. -/
def callDocument (name : String) (c : Call) : Run Answer := do
  let s ← get
  let (number, doc) ← s.document name
  let m := (← s.member number).model
  match c.name with
  | "serialize" =>
    let _ ← c.bind []
    return .value (.dict (← doc.serialize))
  | "build_update" => return .value (← m.candidate s.ambient.now doc (← c.only "data"))
  | "build_update_sync" => return .value (← m.candidate s.ambient.now doc (← c.only "data"))
  | "pick_update" =>
    let data ← c.only "data"
    maybe number (·.updateDocument ex doc data)
  | "replace" =>
    let data ← c.only "data"
    maybe number (·.replaceDocument ex doc data)
  | "delete" =>
    let _ ← c.bind []
    maybe number (·.deleteDocument ex doc)
  | "refresh" =>
    let _ ← c.bind []
    maybe number (·.refresh ex doc)
  | "show" =>
    let _ ← c.bind []
    return .value (.text (m.documentShown doc))
  | _ => throw (c.refusal ["model", "raw", "data", "ref", "id", "ts", "ttl", "meta"])

end DocMapper.Session
