import DocMapper.Calendar.Iso
import DocMapper.Number.Shortest
import DocMapper.Text.Encoding
import DocMapper.Value
/-!
# Plain data of an instance

`Value.dump` turns the instances and references inside a value into plain dictionaries of their
fields. `Value.jsonDump` goes further, to what can be stored and sent: timestamps and dates become
text, bytes become the text they encode, tuples become lists and every key becomes a text.

`Value.unstorable?` finds the first part that has no such form: functions, queries and bytes that
encode no text have none and are left as they are.
-/

namespace DocMapper

/-- The plain dictionary of a reference; absent parts are null. -/
def Ref.dump : Ref → Value
  | ⟨id, collection, database⟩ =>
    .dict [(.text "id", .text id),
      (.text "collection", match collection with
        | none => .null
        | some ref => ref.dump),
      (.text "database", match database with
        | none => .null
        | some ref => ref.dump)]

mutual

/-- The text that stands for a key in stored data. -/
def Key.jsonText : Key → String
  | .text s => s
  | .int n => toString n
  | .bool b => if b then "true" else "false"
  | .null => "None"
  | .float x => x.text
  | .bytes b => (Text.decode? b).getD ""
  | .timestamp t => t.zulu
  | .date d => d.iso
  | .ref r => r.path
  | .tuple items => ",".intercalate (Key.jsonTexts items)

/-- The texts that stand for keys in stored data. -/
def Key.jsonTexts : List Key → List String
  | [] => []
  | k :: rest => k.jsonText :: Key.jsonTexts rest

end

/-- Why a value has no stored form. -/
inductive Unstorable
  /-- bytes that encode no text -/
  | bytes
  /-- a query or a function -/
  | code
  /-- a key for which no text stands -/
  | key
  deriving DecidableEq

mutual

/-- The first part of a key for which no text stands, by its kind. -/
def Key.unstorable? : Key → Option Unstorable
  | .bytes b => if (Text.decode? b).isSome then none else some .bytes
  | .ref _ => some .key
  | .tuple items => Key.unstorableIn? items
  | _ => none

/-- `unstorable?` on the elements of a tuple, in order. -/
def Key.unstorableIn? : List Key → Option Unstorable
  | [] => none
  | k :: rest => k.unstorable? <|> Key.unstorableIn? rest

end

namespace Value

mutual

/-- A value with its instances and references turned into dictionaries. -/
def dump : Value → Value
  | .ref r => r.dump
  | .list items => .list (dumpList items)
  | .tuple items => .tuple (dumpList items)
  | .dict entries => .dict (dumpEntries entries)
  | .record _ fields => .dict (dumpFields fields)
  | v => v

/-- `dump` on each element. -/
def dumpList : List Value → List Value
  | [] => []
  | v :: rest => v.dump :: dumpList rest

/-- `dump` on each entry. -/
def dumpEntries : List (Key × Value) → List (Key × Value)
  | [] => []
  | (k, v) :: rest => (k, v.dump) :: dumpEntries rest

/-- The entries of the fields of an instance. -/
def dumpFields : List (String × Value) → List (Key × Value)
  | [] => []
  | (name, v) :: rest => (.text name, v.dump) :: dumpFields rest

end

mutual

/-- The stored form of a value. A number that is not finite is stored as null, unless it stands where
a number is declared; a truth value is stored as an integer where an integer is declared. -/
def jsonDump : Storing → Value → Value
  | storing, .float x =>
    if storing = .number ∨ x.isFinite then .float x else .null
  | storing, .bool b => if storing = .integer then .int (if b then 1 else 0) else .bool b
  | _, .bytes b =>
    match Text.decode? b with
    | some s => .text s
    | none => .bytes b
  | _, .timestamp t => .text t.zulu
  | _, .date d => .text d.iso
  | _, .ref r => r.dump
  | storing, .list items => .list (jsonDumpList storing.inner items)
  | _, .tuple items => .list (jsonDumpList .plain items)
  | storing, .dict entries => .dict (Dict.ofEntries (jsonDumpEntries storing.inner entries))
  | _, .record schema fields => .dict (jsonDumpFields schema fields)
  | _, v => v

/-- `jsonDump` on each element. -/
def jsonDumpList (storing : Storing) : List Value → List Value
  | [] => []
  | v :: rest => jsonDump storing v :: jsonDumpList storing rest

/-- `jsonDump` on each entry, with the key as text. -/
def jsonDumpEntries (storing : Storing) : List (Key × Value) → List (Key × Value)
  | [] => []
  | (k, v) :: rest => (.text k.jsonText, jsonDump storing v) :: jsonDumpEntries storing rest

/-- The stored entries of the fields of an instance of a schema. -/
def jsonDumpFields (schema : Signature) : List (String × Value) → List (Key × Value)
  | [] => []
  | (name, v) :: rest =>
    (.text name, jsonDump (schema.storingOf name) v) :: jsonDumpFields schema rest

end

mutual

/-- A value whose instances name their fields by the members of the input that hold them. -/
def byMember : Value → Value
  | .list items => .list (byMemberList items)
  | .tuple items => .tuple (byMemberList items)
  | .dict entries => .dict (byMemberEntries entries)
  | .record schema fields =>
    .record { schema with storing := schema.storing.map fun (name, how) => (schema.memberOf name, how) }
      (byMemberFields schema fields)
  | v => v

/-- `byMember` on each element. -/
def byMemberList : List Value → List Value
  | [] => []
  | v :: rest => v.byMember :: byMemberList rest

/-- `byMember` on each entry. -/
def byMemberEntries : List (Key × Value) → List (Key × Value)
  | [] => []
  | (k, v) :: rest => (k, v.byMember) :: byMemberEntries rest

/-- The fields of an instance of a schema by the members that hold them. -/
def byMemberFields (schema : Signature) : List (String × Value) → List (String × Value)
  | [] => []
  | (name, v) :: rest => (schema.memberOf name, v.byMember) :: byMemberFields schema rest

end

mutual

/-- The first part of a value that has no stored form, by its kind. -/
def unstorable? : Value → Option Unstorable
  | .bytes b => if (Text.decode? b).isSome then none else some .bytes
  | .list items => unstorableIn? items
  | .tuple items => unstorableIn? items
  | .dict entries => unstorableEntry? entries
  | .record _ fields => unstorableField? fields
  | .accessor _ => some .code
  | .thunk _ => some .code
  | .query _ => some .code
  | .rows _ => some .code
  | .closure .. => some .code
  | .foreign _ => some .code
  | _ => none

/-- `unstorable?` on the elements, in order. -/
def unstorableIn? : List Value → Option Unstorable
  | [] => none
  | v :: rest => v.unstorable? <|> unstorableIn? rest

/-- `unstorable?` on the entries, in order. -/
def unstorableEntry? : List (Key × Value) → Option Unstorable
  | [] => none
  | (k, v) :: rest => k.unstorable? <|> v.unstorable? <|> unstorableEntry? rest

/-- `unstorable?` on the fields, in order. -/
def unstorableField? : List (String × Value) → Option Unstorable
  | [] => none
  | (_, v) :: rest => v.unstorable? <|> unstorableField? rest

end

end Value

end DocMapper
