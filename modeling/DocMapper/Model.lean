import DocMapper.Document.Stored
import DocMapper.Index.Catalog
import DocMapper.Log
import DocMapper.Schema.Parse
import DocMapper.Value.Merge
/-!
# Models

A model is a collection of documents of one schema, with its indexes. `Model.declare` makes one; it
checks that every path of its indexes leads to a field.

`Model.build` turns input into an instance of the schema and `Model.buildDocument` turns what came
back from a query into a document: the stored envelope with its data checked. A `Page` is a run of
documents with the places where the pages beside it begin.
-/

namespace DocMapper

/-- A collection of documents of one schema. -/
structure Model where
  name : String
  schema : Schema
  indexes : IndexCatalog

/-- A stored document whose data is an instance of its model's schema. -/
structure Document where
  stored : StoredDocument
  /-- the instance that the stored data was built into -/
  data : Value

/-- Documents, and the places where the next and the previous page begin. -/
structure Page where
  documents : List Document
  after : Value := .null
  before : Value := .null

namespace Document

/-- The id of a document. -/
def id (doc : Document) : String := doc.stored.ref.id

/-- The data of a document as a dictionary, with the id of the document in front. -/
def serialize (doc : Document) : Except Fault (Dict Value) := do
  let fields ← doc.data.dump.entries
  return Dict.putAll [(.text "id", .text doc.id)] fields

/-- The data of a document with changes laid over it. -/
def merged (doc : Document) (changes : Value) : Except Fault Value := do
  return .dict (← Value.merge doc.data.dump changes)

end Document

namespace Model

/-- Makes a model. -/
def declare (name : String) (schema : Schema) (indexes : IndexCatalog) : Except Fault Model := do
  return { name := name, schema := schema, indexes := ← indexes.bind name schema }

/-- The model with the schemas of a library in the places of their names, down to a depth. -/
def unfolded (m : Model) (lib : Library) (depth : Nat) : Model :=
  { m with schema := lib.unfold depth m.schema }

/-- The text that shows a model. -/
def shown (m : Model) : String := (Foreign.model m.name).text

/-- A model as JSON text. -/
def json (m : Model) : String := (Wire.single "model" (.text m.name)).json false

/-- The text that shows a document of a model. -/
def documentShown (m : Model) (doc : Document) : String :=
  (Foreign.document m.name doc.id).text

/-- A log for the operations of a model. -/
def newLog (m : Model) : Log :=
  { action := "docmodel:model:" ++ m.name, base := .object [("name", .text m.name)] }

/-! ## Building -/

/-- What a fault of building is about: the target, or the model where there is none. -/
def aim (m : Model) (target : Value) : Value := if target.truthy then target else .text m.name

/-- Builds an instance of the schema. -/
def build (m : Model) (now : Int) (input operation target : Value) : Except Fault Value :=
  m.schema.parse now input operation (m.aim target)

/-- Builds an instance of the schema from each element of a sequence. -/
def buildBulk (m : Model) (now : Int) (input operation target : Value) :
    Except Fault (List Value) :=
  m.schema.parseBulk now input operation (m.aim target)

/-- Builds a document from what is stored. -/
def buildDocument (m : Model) (now : Int) (raw : Value) : Except Fault Document := do
  let stored ← Checked.orReject StoredDocument.title (StoredDocument.read raw)
  let data ← m.build now stored.data "build_doc" (.text stored.ref.path)
  return ⟨stored, data⟩

/-- Builds a document from each element of a sequence. -/
def buildDocuments (m : Model) (now : Int) (raws : Value) : Except Fault (List Document) := do
  let items ← raws.items
  items.mapM (m.buildDocument now)

/-- A value, or null where it is nothing. -/
def orNull (v : Value) : Value := if v.truthy then v else .null

/-- Builds a page from the page of stored documents that a query gave. -/
def buildPage (m : Model) (now : Int) (result : Value) : Except Fault Page := do
  let members ← result.entries
  let data := Value.lookup members "data"
  let documents ← if data.truthy then m.buildDocuments now data else pure []
  return { documents := documents, after := orNull (Value.lookup members "after"),
           before := orNull (Value.lookup members "before") }

end Model

end DocMapper
