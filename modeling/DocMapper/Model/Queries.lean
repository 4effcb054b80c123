import DocMapper.Document.PageRequest
import DocMapper.Model
import DocMapper.Value.Subscript
/-!
# The queries of a model

Every operation of a model is one query. It binds the parts that it needs in order and ends in the
last of them; an operation on a document looks first whether the document exists, and comes to null
when it does not. Only `Model.deleteQuery` aborts then.

The bulk operations map one function over all their documents.
-/

namespace DocMapper.Model

open Query (named binding)

/-! ## Parts -/

/-- The collection of the model. -/
def collection (m : Model) : Query := .collection (.text m.name) none

/-- The collection of a reference, in its own database if it has one. -/
def collectionOf (collection : Value) : Except Fault Query := do
  let scope ← match ← collection.member "database" with
    | .null => pure none
    | database => do pure (some (Value.query (.database (← database.member "id"))))
  return .collection (← collection.member "id") scope

/-- The document that an id names in the model's collection, or that a reference, or an instance with
the same members, names in its own. -/
def refQuery (m : Model) (id : Value) : Except Fault Query :=
  match id with
  | .text id => .ok (.ref (.query m.collection) (.text id))
  | id => do
    let collection ← match ← id.member "collection" with
      | .null => pure m.collection
      | collection => collectionOf collection
    return .ref (.query collection) (← id.member "id")

/-- The document of each id of a sequence. -/
def refQueries (m : Model) (ids : List Value) : Except Fault (List Value) :=
  ids.mapM fun id => do return .query (← m.refQuery id)

/-- Whether the variable `ref` names something. -/
def refExists : Value := .query (.present (named "ref"))

/-- Something of the document that the variable `ref` names, if it exists. -/
def ifExists (what otherwise : Value) : Value :=
  .query (.ifElse (named "exists") what otherwise)

/-- The document that the variable `ref` names, or null. -/
def getOrNull : Value := .query (.ifElse refExists (.query (.get (named "ref"))) .null)

/-- Applies a function of one variable to every element of a variable. -/
def mapVar (source parameter : String) (body : Value) : Value :=
  .query (.map (.query (.lambda (.text parameter) body)) (named source))

/-- The creation of the model's collection. -/
def createCollectionQuery (m : Model) : Query :=
  .createCollection (Dict.ofFields [("name", .text m.name), ("data", .dict []),
    ("history_days", .null), ("ttl_days", .null)])

/-! ## Reads -/

/-- The document of an id, or null. -/
def getQuery (m : Model) (id : Value) : Except Fault Query := do
  return binding [
    ("ref", .query (← m.refQuery id)),
    ("exists", refExists),
    ("doc", ifExists (.query (.get (named "ref"))) .null)]
    (named "doc")

/-- The document of each id, or null. -/
def getManyQuery (m : Model) (ids : List Value) : Except Fault Query := do
  return binding [
    ("refs", .list (← m.refQueries ids)),
    ("docs", mapVar "refs" "ref" getOrNull)]
    (named "docs")

/-- One page of the collection. -/
def listQuery (m : Model) (size after before : Value) : Query :=
  binding [
    ("size", size),
    ("result", .query (.map
      (.query (.lambda (.text "ref") (.query (.get (named "ref")))))
      (.query (.page (.query (.documents (.query m.collection))) (named "size") after before))))]
    (named "result")

/-- The number of documents, up to a bound. -/
def countQuery (m : Model) (bound : Value) : Query :=
  binding [
    ("max_docs", bound),
    ("result", .query (.count (.query
      (.page (.query (.documents (.query m.collection))) (named "max_docs") .null .null)))),
    ("counted", .query (.select [.text "data", .int 0] (named "result") none))]
    (named "counted")

/-- The reference in an entry of an index: the entry itself, or its last value. -/
def entryRef (m : Model) (index : Value) (entry : Value) : Except Fault Value := do
  match ← m.indexes.refPosition index with
  | none => return entry
  | some n => return .query (.select [.int n] entry none)

/-- The first document that an index has for some terms, or null. -/
def firstByIndexQuery (m : Model) (index : Value) (terms : List Value) : Except Fault Query := do
  let matched ← m.indexes.matching index terms
  let first : Value := .query (.select [.text "data", .int 0]
    (.query (.page (named "matched") (.int 1) .null .null)) none)
  return binding [
    ("matched", .query matched),
    ("found", .query (.ifElse (.query (.present (named "matched")))
      (.query (.get (← m.entryRef index first))) .null))]
    (named "found")

/-- One page of the documents that an index has for some terms. -/
def listByIndexQuery (m : Model) (index : Value) (terms : List Value) (request : PageRequest) :
    Except Fault Query := do
  let matched ← m.indexes.matching index terms
  let entry ← m.entryRef index (named "entry")
  return binding [
    ("matched", .query matched),
    ("listed", .query (.map
      (.query (.lambda (.text "entry") (.query (.get entry))))
      (.query (.page (named "matched") (.int request.size) request.after request.before))))]
    (named "listed")

/-! ## Writes -/

/-- What is written for some data: the stored form of an instance, and anything else as it is. -/
def stored (data : Value) : Except Fault Value :=
  match data with
  | .record .. => data.stored
  | .ref _ => data.stored
  | v => .ok v

/-- The creation of a document from data in stored form. -/
def createQuery (m : Model) (data ttl : Value) : Query :=
  binding [
    ("data", data),
    ("doc", .query (.create (.query m.collection)
      (Dict.ofFields ([("data", named "data")] ++ (match ttl with
        | .null => []
        | ttl => [("ttl", ttl)])))))]
    (named "doc")

/-- The creation of documents from data in stored form. -/
def createManyQuery (m : Model) (data : List Value) : Query :=
  binding [
    ("docs", .list data),
    ("created", mapVar "docs" "data" (.query (.create (.query m.collection)
      (Dict.ofFields [("data", named "data")]))))]
    (named "created")

/-- How data is written to a document. -/
inductive Writing
  /-- laid over the data that is there -/
  | update
  /-- in place of the data that is there -/
  | replace
  deriving DecidableEq

/-- The query that writes data to a document. -/
def Writing.query (w : Writing) (target data : Value) : Query :=
  let params := Dict.ofFields [("data", data)]
  match w with
  | .update => .update target params
  | .replace => .replace target params

/-- The bindings of a write that takes place if the document exists. -/
def guardedWrite (w : Writing) (target data : Value) : List (String × Value) :=
  [("ref", target), ("exists", refExists), ("data", data),
    ("result", ifExists (.query (w.query (named "ref") (named "data"))) .null)]

/-- The write of data to the document of an id, if it exists. -/
def writeQuery (m : Model) (w : Writing) (id data : Value) : Except Fault Query := do
  let target ← m.refQuery id
  return binding (guardedWrite w (.query target) (← stored data)) (named "result")

/-- The id and the data of an item of a bulk write: a dictionary that names them, or a pair. -/
def pairOf (item : Value) : Except Fault (Value × Value) :=
  match item with
  | .dict _ => do
    let id ← item.subscript (.text "id")
    return (id, ← item.subscript (.text "data"))
  | item => do
    match ← item.items with
    | [id, data] => return (id, data)
    | _ => throw badValue

/-- An item of a bulk write, as the query takes it. -/
def pairValue (m : Model) (item : Value) : Except Fault Value := do
  let (id, data) ← pairOf item
  let target ← m.refQuery id
  return .object [("ref", .query target), ("data", ← stored data)]

/-- The write of data to each of some documents, as far as they exist. -/
def writeManyQuery (m : Model) (w : Writing) (items : List Value) : Except Fault Query := do
  let docs ← items.mapM m.pairValue
  return binding [
    ("docs", .list docs),
    ("results", mapVar "docs" "doc" (.query (binding
      (guardedWrite w
        (.query (.select [.text "ref"] (named "doc") none))
        (.query (.select [.text "data"] (named "doc") none)))
      (named "result"))))]
    (named "results")

/-- The removal of the document of an id; without such a document the query aborts. -/
def deleteQuery (m : Model) (id : Value) : Except Fault Query := do
  return binding [
    ("ref", .query (← m.refQuery id)),
    ("exists", refExists),
    ("deleted", ifExists (.query (.delete (named "ref")))
      (.query (.abort (.text "No document to delete!"))))]
    (named "deleted")

/-- The removal of the document of each id, as far as they exist. -/
def deleteManyQuery (m : Model) (ids : List Value) : Except Fault Query := do
  return binding [
    ("refs", .list (← m.refQueries ids)),
    ("deleted", mapVar "refs" "ref"
      (.query (.ifElse refExists (.query (.delete (named "ref"))) .null)))]
    (named "deleted")

end DocMapper.Model
