import DocMapper.Calendar.Iso
import DocMapper.Value.Dump
import DocMapper.Wire
/-!
# Text and wire form of values

* `Value.toWire` is the form in which a value is sent. Literal dictionaries are wrapped under
  `object`, so that data is never read as an operation; references, timestamps and dates are
  tagged; a query becomes the object of its arguments.
* `Value.inspect` is the text that shows a value with its structure, `Value.toText` the text that
  stands for a value in a message, where a text stands for itself, and `Value.kind` the name of the
  kind of a value.

The text of a query shows its wire form, and a wire form holds the text of what JSON cannot
express, so the functions are defined together.
-/

namespace DocMapper

/-! ## Wire forms of leaves -/

/-- The wire form of a reference, without its tag. Absent parts are left out. -/
def Ref.toWire : Ref → Wire
  | ⟨id, collection, database⟩ =>
    .object ((.text "id", .text id)
      :: ((match collection with
          | none => []
          | some ref => [(Key.text "collection", Wire.single "@ref" ref.toWire)])
        ++ (match database with
          | none => []
          | some ref => [(Key.text "database", Wire.single "@ref" ref.toWire)])))

/-- The text of a reference that shows its parts. -/
def Ref.inspect : Ref → String
  | ⟨id, collection, database⟩ =>
    "Ref(id=" ++ Text.quoted id
      ++ ", collection=" ++ (match collection with
        | none => "None"
        | some ref => ref.inspect)
      ++ ", database=" ++ (match database with
        | none => "None"
        | some ref => ref.inspect) ++ ")"

/-- The text of an offset that shows its parts: whole days, then seconds and microseconds. One that
was worked out from input shows its seconds only. -/
def Offset.inspect (o : Offset) : String :=
  if o.fromInput then "TzInfo(" ++ toString (o.microseconds / 1000000) ++ ")"
  else if o.microseconds = 0 then "datetime.timezone.utc"
  else
    let days := o.microseconds / microsecondsPerDay
    let rest := o.microseconds % microsecondsPerDay
    let parts := [("days", days), ("seconds", rest / 1000000), ("microseconds", rest % 1000000)]
    let shown := (parts.filter fun part => part.2 ≠ 0).map fun part =>
      part.1 ++ "=" ++ toString part.2
    "datetime.timezone(datetime.timedelta(" ++ ", ".intercalate shown ++ "))"

/-- The text of a timestamp that shows its parts; trailing zero parts of the time are left out. -/
def Timestamp.inspect (t : Timestamp) : String :=
  let numbers := [t.date.year, t.date.month, t.date.day, t.hour, t.minute]
    ++ (if t.second = 0 ∧ t.microsecond = 0 then [] else [t.second])
    ++ (if t.microsecond = 0 then [] else [t.microsecond])
  "datetime.datetime(" ++ ", ".intercalate (numbers.map toString)
    ++ (match t.offset with
      | none => ""
      | some o => ", tzinfo=" ++ o.inspect) ++ ")"

/-- The text of a date that shows its parts. -/
def Date.inspect (d : Date) : String :=
  "datetime.date(" ++ ", ".intercalate ([d.year, d.month, d.day].map toString) ++ ")"

/-- A list of texts as the elements of a tuple: a single one is followed by a comma. -/
def tupleText : List String → String
  | [item] => "(" ++ item ++ ",)"
  | items => "(" ++ ", ".intercalate items ++ ")"

mutual

/-- The text of a key that shows its kind. -/
def Key.inspect : Key → String
  | .text s => Text.quoted s
  | .int n => toString n
  | .bool b => if b then "True" else "False"
  | .null => "None"
  | .float x => x.text
  | .bytes b => Text.quotedBytes b
  | .timestamp t => t.inspect
  | .date d => d.inspect
  | .ref r => r.inspect
  | .tuple items => tupleText (Key.inspectAll items)

/-- The text of each key of a tuple. -/
def Key.inspectAll : List Key → List String
  | [] => []
  | k :: rest => k.inspect :: Key.inspectAll rest

end

/-- The text that a key stands for. -/
def Key.toText : Key → String
  | .text s => s
  | .timestamp t => String.ofList (t.isoChars ' ')
  | .date d => d.iso
  | .ref r => r.path
  | k => k.inspect

/-- The name of the kind of a thing that is no data. -/
def Foreign.kind : Foreign → String
  | .document .. => "BuiltDocument"
  | .model _ => "Model"
  | .outcome _ => "Outcome"
  | .method _ => "builtin_function_or_method"

/-- The text of a thing that is no data. A function is shown by its kind alone: what it belongs to
has no text that is the same in two runs. -/
def Foreign.text : Foreign → String
  | .document owner id => "BuiltDocument(" ++ owner ++ "/" ++ id ++ ")"
  | .model name => "[Model: \"" ++ name ++ "\"]"
  | .outcome shown => shown
  | .method name => (Foreign.method name).kind

/-- The text of an accessor. -/
def accessorText : String := "<accessor>"

/-- The text of a deferred relation target. -/
def thunkText : String := "<thunk>"

namespace Value

mutual

/-- The wire form of a value in stored form. -/
def storedWire : Value → Wire
  | .null => .null
  | .bool b => .bool b
  | .int n => .int n
  | .float x => .float x
  | .text s => .text s
  | .list items => .array (storedWireList items)
  | .dict entries => Wire.single "object" (.object (Dict.ofEntries (storedWireEntries entries)))
  | v => .foreign v "null"

/-- `storedWire` on each element. -/
def storedWireList : List Value → List Wire
  | [] => []
  | v :: rest => v.storedWire :: storedWireList rest

/-- `storedWire` on each entry. -/
def storedWireEntries : List (Key × Value) → List (Key × Wire)
  | [] => []
  | (k, v) :: rest => (.text k.toText, v.storedWire) :: storedWireEntries rest

end

end Value

/-! ## The functions on values and queries -/

mutual

/-- The wire form of a value. -/
def Value.toWire : Value → Wire
  | .null => .null
  | .bool b => .bool b
  | .int n => .int n
  | .float x => .float x
  | .text s => .text s
  | .bytes b => .foreign (.bytes b) (Text.jsonString (Text.quotedBytes b))
  | .timestamp t => Wire.single "@ts" (.text t.iso)
  | .date d => Wire.single "@date" (.text d.iso)
  | .ref r => Wire.single "@ref" r.toWire
  | .list items => .array (Value.toWireList items)
  | .tuple items => .array (Value.toWireList items)
  | .dict entries => Wire.single "object" (.object (Dict.ofEntries (Value.toWireEntries entries)))
  | .record schema fields =>
    match Value.unstorableField? fields with
    | none => (Value.jsonDump .plain (.record schema fields)).storedWire
    | some _ => .foreign (.record schema fields) "null"
  | .accessor steps => .foreign (.accessor steps) (Text.jsonString accessorText)
  | .thunk target => .foreign (.thunk target) (Text.jsonString thunkText)
  | .query q => q.toWire
  | .rows entries => .foreign (.rows entries) "null"
  | .closure p b bindings frame => .foreign (.closure p b bindings frame) "null"
  | .foreign thing => .foreign (.foreign thing) (Text.jsonString thing.text)

/-- The wire form of each element. -/
def Value.toWireList : List Value → List Wire
  | [] => []
  | v :: rest => v.toWire :: Value.toWireList rest

/-- The wire form of each entry, under its key as text. -/
def Value.toWireEntries : List (Key × Value) → List (Key × Wire)
  | [] => []
  | (k, v) :: rest => (.text k.toText, v.toWire) :: Value.toWireEntries rest

/-- The bindings of a `let`, each an object of its own so that their order is kept. -/
def Value.toWireBindings : List (Key × Value) → List Wire
  | [] => []
  | (k, v) :: rest => .object [(k, v.toWire)] :: Value.toWireBindings rest

/-- The member that an optional argument adds, if it is given. -/
def Value.toWireOption (name : String) : Option Value → List (Key × Wire)
  | none => []
  | some v => [(.text name, v.toWire)]

/-- The wire form of a query. -/
def Query.toWire : Query → Wire
  | .letIn bindings body => Wire.fields [
      ("let", .array (Value.toWireBindings bindings)), ("in", body.toWire)]
  | .var name => Wire.fields [("var", name.toWire)]
  | .ifElse condition consequent alternative => Wire.fields [
      ("if", condition.toWire), ("then", consequent.toWire), ("else", alternative.toWire)]
  | .sequence items => Wire.fields [("do", .array (Value.toWireList items))]
  | .abort message => Wire.fields [("abort", message.toWire)]
  | .lambda parameter body => Wire.fields [
      ("lambda", parameter.toWire), ("expr", body.toWire)]
  | .map function source => Wire.fields [
      ("map", function.toWire), ("collection", source.toWire)]
  | .select path source fallback => .object (
      [(.text "select", .array (Value.rawList path)), (.text "from", source.toWire)]
        ++ Value.toWireOption "default" fallback)
  | .database name => Wire.fields [("database", name.toWire)]
  | .collection name scope => .object (
      (.text "collection", name.toWire) :: Value.toWireOption "scope" scope)
  | .index name scope => .object (
      (.text "index", name.toWire) :: Value.toWireOption "scope" scope)
  | .ref collection id => Wire.fields [("ref", collection.toWire), ("id", id.toWire)]
  | .documents collection => Wire.fields [("documents", collection.toWire)]
  | .present target => Wire.fields [("exists", target.toWire)]
  | .get target => Wire.fields [("get", target.toWire)]
  | .matching index terms => .object (
      (.text "match", index.toWire) :: Value.toWireOption "terms" terms)
  | .paginate source size after before => .object (
      (.text "paginate", source.toWire) :: (Value.toWireOption "size" size
        ++ Value.toWireOption "after" after ++ Value.toWireOption "before" before))
  | .count target => Wire.fields [("count", target.toWire)]
  | .create collection params => Wire.fields [("create", collection.toWire),
      ("params", Wire.single "object" (.object (Dict.ofEntries (Value.toWireEntries params))))]
  | .update target params => Wire.fields [("update", target.toWire),
      ("params", Wire.single "object" (.object (Dict.ofEntries (Value.toWireEntries params))))]
  | .replace target params => Wire.fields [("replace", target.toWire),
      ("params", Wire.single "object" (.object (Dict.ofEntries (Value.toWireEntries params))))]
  | .delete target => Wire.fields [("delete", target.toWire)]
  | .createCollection params => Wire.fields [("create_collection",
      Wire.single "object" (.object (Dict.ofEntries (Value.toWireEntries params))))]
  | .createIndex params => Wire.fields [("create_index",
      Wire.single "object" (.object (Dict.ofEntries (Value.toWireEntries params))))]

/-- A value as it stands, without the conversions of `toWire`. -/
def Value.raw : Value → Wire
  | .null => .null
  | .bool b => .bool b
  | .int n => .int n
  | .float x => .float x
  | .text s => .text s
  | .list items => .array (Value.rawList items)
  | .dict entries => .object (Value.rawEntries entries)
  | .tuple items => .tuple (Value.rawList items)
  | .bytes b => .foreign (.bytes b) (Text.jsonString (Text.quotedBytes b))
  | .timestamp t => .foreign (.timestamp t) (Text.jsonString (String.ofList (t.isoChars ' ')))
  | .date d => .foreign (.date d) (Text.jsonString d.iso)
  | .ref r => .foreign (.ref r) (Text.jsonString r.path)
  | .record schema fields => .foreign (.record schema fields)
      (Text.jsonString (" ".intercalate (Value.inspectFields fields)))
  | .accessor steps => .foreign (.accessor steps) (Text.jsonString accessorText)
  | .thunk target => .foreign (.thunk target) (Text.jsonString thunkText)
  | .query q => .foreign (.query q) (Text.jsonString ("Expr(" ++ (q.toWire).json false ++ ")"))
  | .rows entries => .foreign (.rows entries) "null"
  | .closure p b bindings frame => .foreign (.closure p b bindings frame) "null"
  | .foreign thing => .foreign (.foreign thing) (Text.jsonString thing.text)

/-- `raw` on each element. -/
def Value.rawList : List Value → List Wire
  | [] => []
  | v :: rest => v.raw :: Value.rawList rest

/-- `raw` on each entry. -/
def Value.rawEntries : List (Key × Value) → List (Key × Wire)
  | [] => []
  | (k, v) :: rest => (k, v.raw) :: Value.rawEntries rest

/-- The text of a value that shows its structure. -/
def Value.inspect : Value → String
  | .null => "None"
  | .bool b => if b then "True" else "False"
  | .int n => toString n
  | .float x => x.text
  | .text s => Text.quoted s
  | .bytes b => Text.quotedBytes b
  | .timestamp t => t.inspect
  | .date d => d.inspect
  | .ref r => r.inspect
  | .list items => "[" ++ ", ".intercalate (Value.inspectList items) ++ "]"
  | .tuple items => tupleText (Value.inspectList items)
  | .dict entries => "\x7b" ++ ", ".intercalate (Value.inspectEntries entries) ++ "\x7d"
  | .record schema fields =>
    schema.name ++ "(" ++ ", ".intercalate (Value.inspectFields fields) ++ ")"
  | .accessor _ => accessorText
  | .thunk _ => thunkText
  | .query q => "Expr(" ++ (q.toWire).json false ++ ")"
  | .rows _ => "<set>"
  | .closure .. => "<function>"
  | .foreign thing => thing.text

/-- The text of each element. -/
def Value.inspectList : List Value → List String
  | [] => []
  | v :: rest => v.inspect :: Value.inspectList rest

/-- The text of each entry. -/
def Value.inspectEntries : List (Key × Value) → List String
  | [] => []
  | (k, v) :: rest => (k.inspect ++ ": " ++ v.inspect) :: Value.inspectEntries rest

/-- The text of each field. -/
def Value.inspectFields : List (String × Value) → List String
  | [] => []
  | (name, v) :: rest => (name ++ "=" ++ v.inspect) :: Value.inspectFields rest

end

/-- The name of the kind of a value. -/
def Value.kind : Value → String
  | .null => "NoneType"
  | .bool _ => "bool"
  | .int _ => "int"
  | .float _ => "float"
  | .text _ => "str"
  | .bytes _ => "bytes"
  | .timestamp _ => "datetime"
  | .date _ => "date"
  | .ref _ => "Ref"
  | .list _ => "list"
  | .tuple _ => "tuple"
  | .dict _ => "dict"
  | .record schema _ => schema.name
  | .accessor _ => "function"
  | .thunk _ => "function"
  | .query _ => "Expr"
  | .rows _ => "DocumentSet"
  | .closure .. => "Closure"
  | .foreign thing => thing.kind

/-- The text that stands for a value in a message. -/
def Value.toText : Value → String
  | .text s => s
  | .timestamp t => String.ofList (t.isoChars ' ')
  | .date d => d.iso
  | .ref r => r.path
  | .record _ fields => " ".intercalate (Value.inspectFields fields)
  | v => v.inspect

/-- The text of a query that shows its wire form. -/
def Query.inspect (q : Query) : String := "Expr(" ++ q.toWire.json false ++ ")"

/-- The text by which queries are told apart in look-up tables: the wire form with members in
ascending order. -/
def Query.hashText (q : Query) : String := q.toWire.json true

end DocMapper
