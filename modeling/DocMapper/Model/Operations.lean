import DocMapper.Execution.Exchange
import DocMapper.Model.Queries
/-!
# The operations of a model

Each operation compiles its query, runs it once and builds documents from the result. What cannot be
compiled or does not fit the schema fails before anything is run.

`Model.updateDocument`, `Model.replaceDocument`, `Model.deleteDocument` and `Model.refresh` are the
operations on a document that was read before; they go by its id.
-/

namespace DocMapper.Model

variable {σ : Type}

/-! ## Running and building -/

/-- Runs a query for the model. -/
def run (m : Model) (ex : Executor σ) (operation target : Value) (q : Query) :
    Op σ Value :=
  Exchange.run { operation := operation, target := target } ex m.name q

/-- Builds an instance of the schema at the present time. -/
def buildNow (m : Model) (input operation target : Value) : Op σ Value := do
  m.build (← Op.now) input operation target

/-- Builds the document of a result. -/
def documentNow (m : Model) (raw : Value) : Op σ Document := do
  m.buildDocument (← Op.now) raw

/-- Builds the document of a result that may be none. -/
def documentOrNone (m : Model) (raw : Value) : Op σ (Option Document) :=
  if raw.truthy then do return some (← m.documentNow raw) else pure none

/-- Builds the documents of a result that may be none. -/
def documentsNow (m : Model) (raws : Value) : Op σ (List Document) := do
  if raws.truthy then m.buildDocuments (← Op.now) raws else return []

/-- The elements of a result that are not null. -/
def present (raws : Value) : Except Fault (List Value) :=
  if raws.truthy then do return (← raws.items).filter fun raw => !raw.isNull else .ok []

/-- Builds the documents of the elements of a result that are not null. -/
def presentDocuments (m : Model) (raws : Value) : Op σ (List Document) := do
  let raws ← present raws
  m.buildDocuments (← Op.now) (.list raws)

/-- Builds the page of a result that may be none. -/
def pageNow (m : Model) (result : Value) : Op σ Page := do
  m.buildPage (← Op.now) (if result.truthy then result else .dict [])

/-! ## Reads -/

/-- The document of an id, if there is one. -/
def get (m : Model) (ex : Executor σ) (id : Value) : Op σ (Option Document) := do
  let q ← m.getQuery id
  Op.onLog (Log.add .debug ("Retrieving document by id: " ++ id.toText) .null)
  m.documentOrNone (← m.run ex "get" id q)

/-- The document of an id, which has to be there. -/
def getOrThrow (m : Model) (ex : Executor σ) (id : Value) : Op σ Document := do
  match ← m.get ex id with
  | some doc => return doc
  | none => throw (.absent "get_or_throw" id ("expected a document in '" ++ m.name ++ "'"))

/-- The documents of some ids, as far as there are any. -/
def getMany (m : Model) (ex : Executor σ) (ids : Value) : Op σ (List Document) := do
  let items ← ids.items
  let q ← m.getManyQuery items
  Op.onLog (Log.add .debug
    ("Retrieving a total of " ++ toString (← ids.length) ++ " documents") .null)
  m.presentDocuments (← m.run ex "get_many" (.list items) q)

/-- The documents of some ids, all of which have to be there. -/
def getManyOrThrow (m : Model) (ex : Executor σ) (ids : Value) : Op σ (List Document) := do
  let docs ← m.getMany ex ids
  let requested ← ids.length
  if docs.length ≠ requested then
    throw (.countMismatch "get_many_or_throw" (.int requested) (.int docs.length) (.text m.name))
  return docs

/-- One page of the collection. -/
def list (m : Model) (ex : Executor σ) (size after before : Value) : Op σ Page := do
  m.pageNow (← m.run ex "list" (.text m.name) (m.listQuery size after before))

/-- The number of documents, up to a bound. -/
def count (m : Model) (ex : Executor σ) (bound : Value) : Op σ Value :=
  m.run ex "count" (.text m.name) (m.countQuery bound)

/-- The first document that an index has for some terms, if there is one. -/
def getFirstByIndex (m : Model) (ex : Executor σ) (index : Value) (terms : List Value) :
    Op σ (Option Document) := do
  let q ← m.firstByIndexQuery index terms
  m.documentOrNone (← m.run ex "get_first_by_index" index q)

/-- One page of the documents that an index has for some terms. -/
def listByIndex (m : Model) (ex : Executor σ) (index terms options : Value) : Op σ Page := do
  let request ← PageRequest.ofOptions options
  let q ← m.listByIndexQuery index (← terms.items) request
  m.pageNow (← m.run ex "list_by_index" index q)

/-! ## Writes -/

/-- Creates a document from input that fits the schema. -/
def create (m : Model) (ex : Executor σ) (input ttl : Value) : Op σ Document := do
  let built ← m.buildNow input "create" .null
  let q := m.createQuery (← stored built) ttl
  m.documentNow (← m.run ex "create" (.text m.name) q)

/-- Creates documents from inputs that all fit the schema. -/
def createMany (m : Model) (ex : Executor σ) (inputs : Value) : Op σ (List Document) := do
  let built ← m.buildBulk (← Op.now) inputs "create_many" .null
  let data ← (built.mapM stored : Except Fault (List Value))
  let q := m.createManyQuery data
  m.documentsNow (← m.run ex "create_many" (.text m.name) q)

/-- The name of the operation that writes in a way. -/
def Writing.operation : Writing → String
  | .update => "update"
  | .replace => "replace"

/-- Writes data to the document of an id, if there is one. -/
def write (m : Model) (ex : Executor σ) (w : Writing) (id data : Value) :
    Op σ (Option Document) := do
  let q ← m.writeQuery w id data
  m.documentOrNone (← m.run ex w.operation id q)

/-- Writes data to documents, as far as they exist. -/
def writeMany (m : Model) (ex : Executor σ) (w : Writing) (items : Value) :
    Op σ (List Document) := do
  let q ← m.writeManyQuery w (← items.items)
  m.presentDocuments (← m.run ex (w.operation ++ "_many") (.text m.name) q)

/-- Removes the document of an id, which has to be there. -/
def delete (m : Model) (ex : Executor σ) (id : Value) : Op σ (Option Document) := do
  let q ← m.deleteQuery id
  m.documentOrNone (← m.run ex "delete" id q)

/-- Removes the documents of some ids, as far as there are any. -/
def deleteMany (m : Model) (ex : Executor σ) (ids : Value) : Op σ (List Document) := do
  let items ← ids.items
  let q ← m.deleteManyQuery items
  m.presentDocuments (← m.run ex "del_many" (.list items) q)

/-! ## Operations on a document -/

/-- The document with changes laid over its data, as an instance; nothing is written. -/
def candidate (m : Model) (now : Int) (doc : Document) (changes : Value) : Except Fault Value := do
  m.build now (← doc.merged changes) "build_update" (.text doc.id)

/-- Lays changes over the data of a document and writes all of it. -/
def updateDocument (m : Model) (ex : Executor σ) (doc : Document) (changes : Value) :
    Op σ (Option Document) := do
  let data ← m.candidate (← Op.now) doc changes
  m.write ex .update (.text doc.id) data

/-- Writes new data in place of that of a document. -/
def replaceDocument (m : Model) (ex : Executor σ) (doc : Document) (input : Value) :
    Op σ (Option Document) := do
  let data ← m.buildNow input "replace" (.text doc.id)
  m.write ex .replace (.text doc.id) data

/-- Removes a document. -/
def deleteDocument (m : Model) (ex : Executor σ) (doc : Document) : Op σ (Option Document) :=
  m.delete ex (.text doc.id)

/-- The document as it is now, if it is still there. -/
def refresh (m : Model) (ex : Executor σ) (doc : Document) : Op σ (Option Document) :=
  m.get ex (.text doc.id)

end DocMapper.Model
