import DocMapper.Calendar.Timestamp
import DocMapper.Data.Dict
import DocMapper.Data.Ref
/-!
# Values and queries

`Value` is every value that documents, inputs and query results are made of; `Query` is an inert
expression tree of the query language. The two are mutual: a query may stand wherever a value
stands, and any value may stand in an argument position of a query.

Besides plain data a value can be an instance of a schema (`record`), a recipe that reads a path
off a document (`accessor`), a deferred relation target (`thunk`), a thing that is no data at all
(`foreign`), and, while a query is being evaluated, a set of entries (`rows`) or a function
(`closure`).
-/

namespace DocMapper

/-- One step of an accessor, applied to the place reached so far. -/
inductive Step
  /-- reads a named member -/
  | attribute (name : String)
  /-- reads the member at a key, or the element at a position if the key is one -/
  | item (key : String) (position : Option Int)
  /-- goes back to the document -/
  | restart
  /-- tries to assign a member, which is refused -/
  | assign (name : String)
  deriving DecidableEq

/-- What a deferred relation points to: one name, or a list of names. -/
inductive Target
  | one (name : String)
  | many (names : List String)
  deriving DecidableEq

/-- A thing that may stand where a value does but is no data. -/
inductive Foreign
  /-- a document of a model -/
  | document (model id : String)
  | model (name : String)
  /-- how a run ended, by the text that shows it -/
  | outcome (shown : String)
  /-- a function that belongs to a thing, by its name -/
  | method (name : String)
  deriving DecidableEq

/-- How a value of a type is put into stored form. -/
inductive Storing
  /-- by what the value itself is -/
  | plain
  /-- as a number, which stays as it is even if it is not finite -/
  | number
  /-- as an integer, which a truth value becomes -/
  | integer
  /-- each element or entry in one way -/
  | each (inner : Storing)
  deriving DecidableEq

/-- How the elements or entries of a value are put into stored form. -/
def Storing.inner : Storing → Storing
  | .each inner => inner
  | _ => .plain

/-- What an instance tells of its schema. Two schemas may have one name; the declaration tells them
apart. -/
structure Signature where
  name : String
  /-- which of the declarations of the name it is -/
  declaration : Nat := 0
  /-- how the declared fields are put into stored form; all others are by what they are -/
  storing : List (String × Storing) := []
  /-- the members of the input that hold fields of other names -/
  members : List (String × String) := []
  deriving DecidableEq

instance : Coe String Signature := ⟨fun name => { name := name }⟩

/-- How a field is put into stored form. -/
def Signature.storingOf (s : Signature) (field : String) : Storing :=
  (s.storing.lookup field).getD .plain

/-- The member of the input that holds a field. -/
def Signature.memberOf (s : Signature) (field : String) : String :=
  (s.members.lookup field).getD field

mutual

/-- A value of a document, an input or a query result. -/
inductive Value
  | null
  | bool (value : Bool)
  | int (value : Int)
  | float (value : Binary64)
  | text (value : String)
  | bytes (value : List UInt8)
  | timestamp (value : Timestamp)
  | date (value : Date)
  | ref (value : Ref)
  | list (items : List Value)
  | tuple (items : List Value)
  | dict (entries : List (Key × Value))
  /-- an instance of a schema, with its fields in order -/
  | record (schema : Signature) (fields : List (String × Value))
  | accessor (steps : List Step)
  | thunk (target : Target)
  | query (query : Query)
  /-- the entries of a set -/
  | rows (entries : List Value)
  /-- a function with the bindings it was made under; those of a `let` that may still have added
  some are found in its frame -/
  | closure (parameter : Value) (body : Value) (bindings : List (Key × Value)) (frame : Option Nat)
  | foreign (thing : Foreign)

/-- An expression tree of the query language. -/
inductive Query
  /-- binds names in order, later ones seeing earlier ones -/
  | letIn (bindings : List (Key × Value)) (body : Value)
  | var (name : Value)
  | ifElse (condition consequent alternative : Value)
  /-- evaluates all and returns the last -/
  | sequence (items : List Value)
  | abort (message : Value)
  | lambda (parameter body : Value)
  | map (function source : Value)
  | select (path : List Value) (source : Value) (fallback : Option Value)
  | database (name : Value)
  | collection (name : Value) (scope : Option Value)
  | index (name : Value) (scope : Option Value)
  | ref (collection id : Value)
  | documents (collection : Value)
  | present (target : Value)
  | get (target : Value)
  | matching (index : Value) (terms : Option Value)
  | paginate (source : Value) (size after before : Option Value)
  | count (target : Value)
  | create (collection : Value) (params : List (Key × Value))
  | update (target : Value) (params : List (Key × Value))
  | replace (target : Value) (params : List (Key × Value))
  | delete (target : Value)
  | createCollection (params : List (Key × Value))
  | createIndex (params : List (Key × Value))

end

instance : Inhabited Value := ⟨.null⟩

namespace Value

instance : Coe String Value := ⟨.text⟩

/-- The value with named fields, in the order given. -/
def object (fields : List (String × Value)) : Value := .dict (Dict.ofFields fields)

/-- The value at a name, null when there is none. -/
def lookup (entries : Dict Value) (name : String) : Value := (entries.get? name).getD .null

/-- Whether a value is null. -/
def isNull : Value → Bool
  | .null => true
  | _ => false

/-- Whether a value is an instance of a schema. -/
def isInstance (schema : Signature) : Value → Bool
  | .record own _ => own == schema
  | _ => false

/-- The members of a dictionary, or of an instance of a schema. -/
def members? (schema : Signature) : Value → Option (Dict Value)
  | .dict entries => some entries
  | .record own fields =>
    if own = schema then some (fields.map fun field => (Key.text field.1, field.2)) else none
  | _ => none

mutual

/-- The key that a value is as a dictionary key, if it can be one. -/
def toKey? : Value → Option Key
  | .text s => some (.text s)
  | .int n => some (.int n)
  | .bool b => some (.bool b)
  | .null => some .null
  | .float x => some (.float x)
  | .bytes b => some (.bytes b)
  | .timestamp t => some (.timestamp t)
  | .date d => some (.date d)
  | .ref r => some (.ref r)
  | .tuple items => (toKeys? items).map Key.tuple
  | _ => none

/-- The keys that values are, if all of them can be keys. -/
def toKeys? : List Value → Option (List Key)
  | [] => some []
  | v :: rest =>
    match v.toKey?, toKeys? rest with
    | some k, some ks => some (k :: ks)
    | _, _ => none

end

mutual

/-- The value that spells a key. -/
def ofKey : Key → Value
  | .text s => .text s
  | .int n => .int n
  | .bool b => .bool b
  | .null => .null
  | .float x => .float x
  | .bytes b => .bytes b
  | .timestamp t => .timestamp t
  | .date d => .date d
  | .ref r => .ref r
  | .tuple items => .tuple (ofKeys items)

/-- The values that spell keys. -/
def ofKeys : List Key → List Value
  | [] => []
  | k :: rest => ofKey k :: ofKeys rest

end

mutual

@[simp] theorem toKey?_ofKey : (k : Key) → (ofKey k).toKey? = some k
  | .text _ => rfl
  | .int _ => rfl
  | .bool _ => rfl
  | .null => rfl
  | .float _ => rfl
  | .bytes _ => rfl
  | .timestamp _ => rfl
  | .date _ => rfl
  | .ref _ => rfl
  | .tuple items => by simp [ofKey, toKey?, toKeys?_ofKeys items]

@[simp] theorem toKeys?_ofKeys : (ks : List Key) → toKeys? (ofKeys ks) = some ks
  | [] => rfl
  | k :: rest => by simp [ofKeys, toKeys?, toKey?_ofKey k, toKeys?_ofKeys rest]

end

/-- Whether a value counts as true in a condition: null, false, zero and empty values do not. -/
def truthy : Value → Bool
  | .null => false
  | .bool b => b
  | .int n => n != 0
  | .float x => !x.isZero
  | .text s => !s.isEmpty
  | .bytes b => !b.isEmpty
  | .list items => !items.isEmpty
  | .tuple items => !items.isEmpty
  | .dict entries => !entries.isEmpty
  | _ => true

end Value

namespace Query

/-- The name of the operation at the root of a query. -/
def operation : Query → String
  | .letIn .. => "let"
  | .var .. => "var"
  | .ifElse .. => "if"
  | .sequence .. => "do"
  | .abort .. => "abort"
  | .lambda .. => "lambda"
  | .map .. => "map"
  | .select .. => "select"
  | .database .. => "database"
  | .collection .. => "collection"
  | .index .. => "index"
  | .ref .. => "ref"
  | .documents .. => "documents"
  | .present .. => "exists"
  | .get .. => "get"
  | .matching .. => "match"
  | .paginate .. => "paginate"
  | .count .. => "count"
  | .create .. => "create"
  | .update .. => "update"
  | .replace .. => "replace"
  | .delete .. => "delete"
  | .createCollection .. => "create_collection"
  | .createIndex .. => "create_index"

end Query

end DocMapper
