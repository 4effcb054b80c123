import DocMapper.Schema.Validate
import DocMapper.Text.Case
/-!
# Describing a schema

`Schema.inputShape` describes, in the JSON notation for schemas, what a schema accepts, and
`Schema.outputShape` what its instances look like: there every declared field is present. Nested
schemas are described once each, under `$defs`, and referred to by name.
-/

namespace DocMapper

/-- The title of a name: its words in title case, with spaces for underscores. -/
def titleOf (name : String) : String :=
  let spaced := (Text.titled name).toList.map fun c => if c = '_' then ' ' else c
  String.ofList (Text.trimmed Text.isSpacing spaced)

namespace Limits

/-- The members that the limits on lengths add, under names of their own. -/
def describeLengths (limits : Limits) (least most : String) : List (String × Wire) :=
  (limits.minLength.toList.map fun (n : Nat) => (least, Wire.int n))
    ++ (limits.maxLength.toList.map fun (n : Nat) => (most, Wire.int n))

/-- The members that the bounds of a number add. -/
def describeNumber (limits : Limits) : List (String × Wire) :=
  (limits.atLeast.toList.map fun v => ("minimum", v.raw))
    ++ (limits.above.toList.map fun v => ("exclusiveMinimum", v.raw))
    ++ (limits.atMost.toList.map fun v => ("maximum", v.raw))
    ++ (limits.below.toList.map fun v => ("exclusiveMaximum", v.raw))

/-- The members that bounds add which are held against a value of a type without bounds. -/
def describeBounds (limits : Limits) : List (String × Wire) :=
  let shape (v : Value) : Wire := (v.jsonDump .plain).raw
  (limits.atLeast.toList.map fun v => ("ge", shape v))
    ++ (limits.above.toList.map fun v => ("gt", shape v))
    ++ (limits.atMost.toList.map fun v => ("le", shape v))
    ++ (limits.below.toList.map fun v => ("lt", shape v))

/-- The members that limits add which are held against a value of a type without limits. -/
def describeHeld (limits : Limits) : List (String × Wire) :=
  limits.describeLengths "minLength" "maxLength" ++ limits.describeBounds

end Limits

/-- A reference to the description of a named schema. -/
def definitionRef (name : String) : Wire := Wire.fields [("$ref", .text ("#/$defs/" ++ name))]

/-- The description of null. -/
def nullShape : Wire := Wire.fields [("type", .text "null")]

/-- The description of a value that matches one of several. -/
def anyOf (shapes : List Wire) : Wire := Wire.fields [("anyOf", .array shapes)]

/-- The description of references. -/
def refShape : Wire :=
  let part (title : String) : String × Wire :=
    (title, Wire.fields [("anyOf", .array [definitionRef "Ref", nullShape]), ("default", .null)])
  Wire.fields [
    ("description", .text "Identity of a document, collection, index or database."),
    ("properties", Wire.fields [
      ("id", Wire.fields [("title", .text "Id"), ("type", .text "string")]),
      part "collection", part "database"]),
    ("required", .array [.text "id"]), ("title", .text "Ref"), ("type", .text "object")]

/-- The plain JSON of a default, as an input would spell it. -/
def defaultShape (v : Value) : Wire :=
  match v with
  | .float x => .float x
  | v => (v.byMember.jsonDump .plain).raw

/-- Adds members to a description. -/
def Wire.extend (shape : Wire) (members : List (String × Wire)) : Wire :=
  match shape with
  | .object held => .object (held ++ members.map fun member => (Key.text member.1, member.2))
  | shape => shape

namespace FieldType

/-- Whether the description of a field is titled: one that only refers to another is not. -/
def titled : FieldType → Bool
  | .optional inner => titled inner
  | .record .. | .byName .. => false
  | .ref => false
  | _ => true

/-- The required members of an instance, if there are any. -/
def requiredMembers (fields : List (Field × FieldType)) : List String :=
  fields.filterMap fun (f, _) =>
    match f.default with
    | .required => some f.member
    | _ => none

/-- The members that say what becomes of undeclared members. -/
def extraShape : Extra → List (String × Wire)
  | .ignored => []
  | .kept => [("additionalProperties", .bool true)]
  | .refused => [("additionalProperties", .bool false)]

/-- The description of an instance whose properties are described already. -/
def instanceShape (name : String) (extra : Extra) (properties : List (String × Wire))
    (required : List String) : Wire :=
  Wire.fields ([("properties", Wire.fields properties)]
    ++ (if required.isEmpty then [] else [("required", .array (required.map Wire.text))])
    ++ extraShape extra ++ [("title", .text name), ("type", .text "object")])

/-- The default that the description of a field shows. Code is not shown. -/
def defaultMembers : Default → List (String × Wire)
  | .value v => if v.unstorable?.isSome then [] else [("default", defaultShape v)]
  | _ => []

mutual

/-- The description of a type, nested schemas by reference. -/
def describe (limits : Limits) : FieldType → Wire
  | .text => Wire.fields (limits.describeHeld ++ [("type", .text "string")])
  | .int => Wire.fields (limits.describeNumber
      ++ limits.describeLengths "minLength" "maxLength" ++ [("type", .text "integer")])
  | .float => Wire.fields (limits.describeNumber
      ++ limits.describeLengths "minLength" "maxLength" ++ [("type", .text "number")])
  | .bool => Wire.fields (limits.describeHeld ++ [("type", .text "boolean")])
  | .any => Wire.fields limits.describeHeld
  | .timestamp => Wire.fields (limits.describeLengths "minLength" "maxLength"
      ++ [("format", .text "date-time"), ("type", .text "string")])
  | .date => Wire.fields (limits.describeLengths "minLength" "maxLength"
      ++ [("format", .text "date"), ("type", .text "string")])
  | .ref => (definitionRef "Ref").extend limits.describeHeld
  | .dict => Wire.fields (limits.describeLengths "minProperties" "maxProperties"
      ++ limits.describeBounds
      ++ [("additionalProperties", .bool true), ("type", .text "object")])
  | .optional inner =>
    match inner with
    | .optional _ => describe limits inner
    | _ => anyOf [describe limits inner, nullShape]
  | .list item => Wire.fields (limits.describeLengths "minItems" "maxItems"
      ++ limits.describeBounds
      ++ [("items", describe {} item), ("type", .text "array")])
  | .entries value =>
    let values :=
      match value with
      | .any => .bool true
      | _ => describe {} value
    Wire.fields (limits.describeLengths "minProperties" "maxProperties"
      ++ limits.describeBounds
      ++ [("additionalProperties", values), ("type", .text "object")])
  | .set item => Wire.fields [
      ("items", describe {} item), ("type", .text "array"), ("uniqueItems", .bool true)]
  | .tuple items => Wire.fields [("maxItems", .int items.length), ("minItems", .int items.length),
      ("prefixItems", .array (describeAll items)), ("type", .text "array")]
  | .union members => anyOf (describeAll members)
  | .record name .. | .byName name _ => (definitionRef name).extend limits.describeHeld

/-- The description of each type of a list. -/
def describeAll : List FieldType → List Wire
  | [] => []
  | type :: rest => describe {} type :: describeAll rest

end

/-- The description of each field, under the member that holds it. -/
def properties (fields : List (Field × FieldType)) : List (String × Wire) :=
  fields.map fun (f, type) =>
    (f.member, (describe f.limits type).extend (defaultMembers f.default
      ++ (if type.titled then [("title", .text (titleOf f.member))] else [])))

mutual

/-- The descriptions of the schemas nested in a type, by name. -/
def definitions : FieldType → List (String × Wire)
  | .ref => [("Ref", refShape)]
  | .optional inner => definitions inner
  | .list item => definitions item
  | .entries value => definitions value
  | .set item => definitions item
  | .tuple items => definitionsOfAll items
  | .union members => definitionsOfAll members
  | .record name _ extra fields =>
    (name, instanceShape name extra (properties fields) (requiredMembers fields))
      :: definitionsOfFields fields
  | _ => []

/-- The descriptions of the schemas nested in the types of a list. -/
def definitionsOfAll : List FieldType → List (String × Wire)
  | [] => []
  | type :: rest => definitions type ++ definitionsOfAll rest

/-- The descriptions of the schemas nested in fields. -/
def definitionsOfFields : List (Field × FieldType) → List (String × Wire)
  | [] => []
  | (_, type) :: rest => definitions type ++ definitionsOfFields rest

end

end FieldType

namespace FieldType

mutual

/-- The defaults of the fields of the schemas nested in a type. -/
def defaults : FieldType → List Value
  | .optional inner => defaults inner
  | .list item => defaults item
  | .entries value => defaults value
  | .set item => defaults item
  | .tuple items => defaultsOfAll items
  | .union members => defaultsOfAll members
  | .record _ _ _ fields => defaultsOfFields fields
  | _ => []

/-- The defaults in the types of a list. -/
def defaultsOfAll : List FieldType → List Value
  | [] => []
  | type :: rest => defaults type ++ defaultsOfAll rest

/-- The defaults of fields and those in their types. -/
def defaultsOfFields : List (Field × FieldType) → List Value
  | [] => []
  | (f, type) :: rest =>
    (match f.default with
      | .value v => [v]
      | _ => [])
      ++ defaults type ++ defaultsOfFields rest

end

end FieldType

namespace Schema

/-- The description of a schema with a given list of required members. A default without a text,
such as bytes that encode none, is a fault. -/
def shapeWith (s : Schema) (required : Option (List String)) : Except Fault Wire := do
  for v in FieldType.defaultsOfFields s.fields do
    match v.unstorable? with
    | none => pure ()
    | some .code => pure ()
    | some reason => throw (.misuse (.unstorable reason))
  let nested := Dict.ofFields (FieldType.definitionsOfFields s.fields)
  let body := FieldType.instanceShape s.name s.extra (FieldType.properties s.fields)
    (required.getD (FieldType.requiredMembers s.fields))
  let body :=
    match required with
    | some [] => body.extend [("required", .array [])]
    | _ => body
  return if nested.isEmpty then body else body.extend [("$defs", .object nested)]

/-- What the schema accepts. -/
def inputShape (s : Schema) : Except Fault Wire := s.shapeWith none

/-- What the instances of the schema look like: every member of a declared field is there. -/
def outputShape (s : Schema) : Except Fault Wire :=
  s.shapeWith (some (s.fields.map fun (f, _) => f.member).eraseDups)

end Schema

end DocMapper
