import DocMapper.Store
import DocMapper.Value.Order
import DocMapper.Value.Sorting
import DocMapper.Value.Subscript
/-!
# Looking documents up

An index finds the documents of its source whose term fields equal the terms asked for. Without
values its entries are the references of those documents; with values they are rows of the value
fields, in the order of the values. A unique index forbids two documents of its source to agree on
all term fields.

* `Store.matching` are the documents that agree with some terms.
* `sortRows` orders rows by one position after another, the last one first; since sorting is stable,
  an earlier position counts for more.
* `Store.checkUnique` refuses data that a unique index has already.
-/

namespace DocMapper

/-- The parameters of an index. -/
abbrev IndexParams := Dict Value

namespace IndexParams

/-- A parameter that has to be there. -/
def required (p : IndexParams) (name : String) : Except Fault Value :=
  (Value.dict p).subscript (.text name)

/-- The path of a field of an index, given as the member `field` of a dictionary. -/
def path (v : Value) : Except Fault Value := v.subscript (.text "field")

/-- The paths of the terms. -/
def termPaths (p : IndexParams) : Except Fault (List Value) := do
  let terms ← (← p.required "terms").items
  terms.mapM path

/-- The id of a reference, or of a document. -/
def idOf : Value → Except Fault String
  | .ref r => .ok r.id
  | .foreign (.document _ id) => .ok id
  | _ => .error noMember

/-- The name of the collection that an index is over. -/
def source (p : IndexParams) : Except Fault String := do idOf (← p.required "source")

/-- The fields that the entries of an index show. -/
def values (p : IndexParams) : Except Fault (List Value) := do
  let values := Value.lookup p "values"
  if values.truthy then values.items else return []

/-- Whether a value of an index sorts from the largest to the smallest. -/
def reversed (v : Value) : Except Fault Bool :=
  match v with
  | .dict entries =>
    match Value.lookup entries "reverse" with
    | .bool b => .ok b
    | .int n => .ok (n != 0)
    | .null => if Dict.has entries "reverse" then .error wrongKind else .ok false
    | _ => .error wrongKind
  | _ => .error noMember

end IndexParams

/-- What a row has at a position. -/
def rowAt (position : Nat) (row : List Value) : Value := row[position]?.getD .null

/-- Sorts rows by what they have at a position; rows that are level keep their order. -/
def sortAt (position : Nat) (descending : Bool) (rows : List (List Value)) :
    Except Fault (List (List Value)) :=
  Sorting.sort (fun a b => (rowAt position a).comesBefore (rowAt position b)) descending rows

/-- Sorts rows by the positions from `first` on, each descending or not. Rows with values that have
no order cannot be sorted. -/
def sortRows (first : Nat) : List Value → List (List Value) → Except Fault (List (List Value))
  | [], rows => .ok rows
  | value :: rest, rows => do
    let rows ← sortRows (first + 1) rest rows
    sortAt first (← IndexParams.reversed value) rows

/-- What a value has at a path that is a value itself. -/
def Value.atPath (v path : Value) : Except Fault Value := do v.fieldAt (← path.items)

namespace StoredDocument

/-- The field of a document at a path. -/
def field (doc : StoredDocument) (path : Value) : Except Fault Value :=
  (Value.dict doc.members).atPath path

/-- The fields of a document at some paths. -/
def fields (doc : StoredDocument) (paths : List Value) : Except Fault (List Value) :=
  paths.mapM doc.field

end StoredDocument

namespace Store

/-- The documents among some whose fields at the paths equal the wanted values. -/
def agreeing (paths : List Value) (wanted : List Value) :
    Dict StoredDocument → Except Fault (Dict StoredDocument)
  | [] => .ok []
  | (id, doc) :: rest => do
    let fields ← doc.fields paths
    let others ← agreeing paths wanted rest
    return if Value.sameList fields wanted then (id, doc) :: others else others

/-- The values that terms ask for: with one term field the terms stand for themselves. -/
def wantedTerms (paths : List Value) (terms : Value) : Except Fault (List Value) :=
  match paths with
  | [_] => .ok [terms]
  | _ => terms.items

/-- The entries of an index for some terms. -/
def entriesOf (s : Store) (params : IndexParams) (terms : Value) : Except Fault (List Value) := do
  let paths ← params.termPaths
  let wanted ← wantedTerms paths terms
  let found ← agreeing paths wanted (s.documents (← params.source))
  let values ← params.values
  if values.isEmpty then return found.values.map fun doc => .ref doc.ref
  let rows ← found.values.mapM fun doc => do
    values.mapM fun value => do doc.field (← IndexParams.path value)
  return (← sortRows 0 values rows).map Value.list

/-- The index that a reference names. -/
def index (s : Store) (target : Value) : Except Fault IndexParams := do
  let name ← IndexParams.idOf target
  match s.indexes.get? name with
  | some params => return params
  | none => throw (.missingKey (Text.quoted name))

/-- Refuses data for a document if an index is unique and another document has the same terms. -/
def checkIndex (s : Store) (collection : String) (data : Value) (own : Option String)
    (params : IndexParams) : Except Fault Unit := do
  if !(← params.required "unique").truthy then return
  if (← params.source) ≠ collection then return
  let paths ← params.termPaths
  let candidate ← paths.mapM (Value.dict [(.text "data", data)]).atPath
  let others := (s.documents collection).filter fun (id, _) =>
    !(own.map Key.text).any id.same
  let found ← agreeing paths candidate others
  if !found.isEmpty then throw (.aborted "instance not unique")

/-- Refuses data for a document of a collection if some unique index has it already; the document
that the data is for does not count. -/
def checkUnique (s : Store) (collection : String) (data : Value) (own : Option String) :
    Except Fault Unit :=
  s.indexes.values.forM (s.checkIndex collection data own)

end Store

end DocMapper
