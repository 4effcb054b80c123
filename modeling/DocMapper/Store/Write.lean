import DocMapper.Data.RefReading
import DocMapper.Store.Lookup
import DocMapper.Value.Merge
/-!
# Operations on a store

Each operation takes values that are evaluated already and checks all there is to check before it
changes anything, so a refused operation leaves the store as it was.

* `Store.create`, `Store.update`, `Store.replace` and `Store.delete` are the writes of documents.
* `Store.createCollection` and `Store.createIndex` extend the store itself.
* `Store.insertGiven` and `Store.dataGiven` are for a store that is filled and looked into by hand.
* `Store.exists?`, `Store.fetch` and `Store.page` read.
-/

namespace DocMapper.Store

/-- The parts of a reference that a look-up uses: the id of its collection and its own. -/
def address (target : Value) : Except Fault (String × String) :=
  match target with
  | .ref ⟨id, some collection, _⟩ => .ok (collection.id, id)
  | _ => .error noMember

/-- The data that the parameters of a write carry: an empty dictionary unless there is some. -/
def dataOf (params : Value) : Except Fault Value := do
  let data := Value.lookup (← params.entries) "data"
  return if data.truthy then data else .dict []

/-- The fault of a document that is not there. -/
def documentMissing (target : Value) : Fault :=
  .aborted ("document " ++ target.toText ++ " not found")

/-- The fault of a collection that is not there. -/
def collectionMissing (name : String) : Fault :=
  .aborted ("collection " ++ name ++ " does not exist")

/-- The document that a reference names. -/
def documentOf (s : Store) (target : Value) : Except Fault StoredDocument := do
  let (collection, id) ← address target
  match s.find collection id with
  | some doc => return doc
  | none => throw (documentMissing target)

/-! ## Reading -/

/-- Whether there is what a value names: entries of a set, a collection, an index or a document. -/
def exists? (s : Store) (target : Value) : Except Fault Bool :=
  match target with
  | .rows entries => .ok !entries.isEmpty
  | .ref r =>
    if r.collection = some collectionsRef then .ok (s.collections.has r.id)
    else if r.collection = some indexesRef then .ok (s.indexes.has r.id)
    else do
      let (collection, id) ← address target
      return (s.find collection id).isSome
  | _ => .error noMember

/-- The document of a reference, as queries see it. -/
def fetchRef (s : Store) (target : Value) : Except Fault Value :=
  match target with
  | .ref r => do
    let doc ← s.documentOf (.ref r)
    return .dict doc.members
  | v => .error (.aborted ("cannot Get() a non-reference value " ++ v.inspect))

/-- The document of a reference, or of the first entry of a set. -/
def fetch (s : Store) (target : Value) : Except Fault Value :=
  match target with
  | .rows [] => .error (.aborted "set is empty")
  | .rows (entry :: _) => s.fetchRef entry
  | target => s.fetchRef target

/-- Where a page that ends before a position begins. -/
def startBefore (stop : Int) (size : Value) : Except Fault Int :=
  match size with
  | .float x =>
    match (Magnitude.ofBinary64 x).compare? (.ofInt stop) with
    | some .lt => .error wrongKind
    | _ => .ok 0
  | size => do return max 0 (stop - (← size.asPosition))

/-- The part of a set that a page shows: from which position to which. A position that was given
stays as it is. -/
def pageBounds (size after before : Value) : Except Fault (Value × Value) :=
  match before with
  | .null => do
    let start := if after.truthy then after else .int 0
    return (start, .int ((← start.asPosition) + (← size.asPosition)))
  | before => do return (.int (← startBefore (← before.asPosition) size), before)

/-- The page of some entries from one position to another, with the positions at which its
neighbours begin and end. -/
def pageOf (entries : List Value) (start stop : Value) : Except Fault Value := do
  let first ← start.asPosition
  let last ← stop.asPosition
  return .object ([("data", .list (slice entries first last))]
    ++ (if last < entries.length then [("after", stop)] else [])
    ++ (if 0 < first then [("before", start)] else []))

/-- Whether a value is a set. -/
def isSet : Value → Bool
  | .rows _ => true
  | _ => false

/-- A page of a set. -/
def page (source size after before : Value) : Except Fault Value :=
  match source with
  | .rows entries => do
    let (start, stop) ← pageBounds size after before
    pageOf entries start stop
  | _ => .error noMember

/-- The number of entries of a page, a set or a sequence; that of a page is a page itself. -/
def count (target : Value) : Except Fault Value :=
  match target with
  | .dict entries => do
    let data ← (Value.dict entries).subscript (.text "data")
    return .dict (Dict.put entries "data" (.list [.int (← data.length)]))
  | .rows entries => .ok (.int entries.length)
  | v => do return .int (← v.length)

/-- What a path leads to in a value, if it leads anywhere. -/
def select? : Value → List Value → Option Value
  | v, [] => some v
  | v, key :: rest =>
    match v.subscript key with
    | .ok next => select? next rest
    | .error _ => none

/-- The fault of a path that leads nowhere. -/
def pathMissing (path : List Value) : Fault :=
  .aborted ("value not found at path " ++ (Value.list path).inspect)

/-! ## Writing documents -/

/-- Creates a document in a collection. -/
def create (collection params : Value) : Action Store Value := do
  let s ← get
  let name ← IndexParams.idOf collection
  if !s.collections.has name then throw (collectionMissing name)
  let data ← dataOf params
  s.checkUnique name data none
  let (s, doc) := s.insert name data (Value.lookup (← params.entries) "ttl")
  set s
  return .dict doc.members

/-- Gives a document new data, at the next time. -/
def write (target : Value) (newData : Value → Value) : Action Store Value := do
  let s ← get
  let doc ← s.documentOf target
  let (collection, id) ← address target
  let data := newData doc.data
  s.checkUnique collection data (some id)
  let s := s.tick
  let doc := { doc with data := data, ts := s.clock }
  set (s.put collection id doc)
  return .dict doc.members

/-- Patches the data of a document. -/
def update (target params : Value) : Action Store Value := do
  let data ← dataOf params
  write target fun old => old.patch data

/-- Replaces the data of a document. -/
def replace (target params : Value) : Action Store Value := do
  let data ← dataOf params
  write target fun _ => data

/-- Removes a document and gives it back. -/
def delete (target : Value) : Action Store Value := do
  let s ← get
  let doc ← s.documentOf target
  let (collection, id) ← address target
  set (s.erase collection id)
  return .dict doc.members

/-! ## Extending the store -/

/-- The fault of a name that is taken. -/
def taken : Fault := .aborted "instance already exists"

/-- The name in the parameters of a creation. -/
def nameOf (params : Value) : Except Fault (Value × Key) := do
  let name ← params.subscript (.text "name")
  match ← name.asKey with
  | some key => return (name, key)
  | none => Checked.orReject "Ref" (Checked.under "id" (Checked.reject Value.notText name))

/-- The id that a value is. -/
def idFrom (v : Value) : Except Fault String :=
  Checked.orReject "Ref" (Checked.under "id" v.asText)

/-- What the creation of a collection or index gives. -/
def created (refTo : String → Ref) (name : Value) : Except Fault Value := do
  return .object [("ref", .ref (refTo (← idFrom name))), ("name", name)]

/-- Creates a collection without documents. -/
def createCollection (params : Value) : Action Store Value := do
  let s ← get
  let (name, key) ← nameOf params
  if s.collections.has key then throw taken
  set { s with collections := s.collections.put key [] }
  created collectionRef name

/-- Creates an index over a collection. -/
def createIndex (params : Value) : Action Store Value := do
  let s ← get
  let (name, key) ← nameOf params
  if s.indexes.has key then throw taken
  let source ← IndexParams.idOf (← params.subscript (.text "source"))
  if !s.collections.has source then throw (collectionMissing source)
  set { s with indexes := s.indexes.put key (← params.entries) }
  created indexRef name

/-! ## By hand -/

/-- Takes a document into a collection, which need not be there, under a given id or else the next
one, and gives the id. -/
def insertGiven (collection data id : Value) : Action Store Value := do
  let name ← idFrom collection
  let collectionKey := collection.toKey?.getD (.text name)
  modify fun s => { s with
    collections := s.collections.put collectionKey ((s.collections.get? collectionKey).getD []) }
  let s ← get
  let (id, s) := if id.truthy then (id, s) else (.text s.freshId, s.takeId)
  let idText ← idFrom id
  let s := s.tick
  let doc : StoredDocument :=
    { ref := { id := idText, collection := some (collectionRef name) }, ts := s.clock,
      data := data }
  let docs := ((s.collections.get? collectionKey).getD []).put (id.toKey?.getD (.text idText)) doc
  set { s with collections := s.collections.put collectionKey docs }
  return id

/-- The data of the document of an id in a collection, if there is one. -/
def dataGiven (s : Store) (collection id : Value) : Except Fault (Option Value) := do
  let docs ← Value.find s.collections collection
  let doc ← Value.find (docs.getD []) id
  return doc.map StoredDocument.data

end DocMapper.Store
