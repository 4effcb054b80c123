import DocMapper.Value
/-!
# Schemas

A schema names the fields of a document and gives each a type. `FieldType` is the type of a value;
the type of an instance carries the name of its schema, its fields and what becomes of members that
are not declared. Two schemas of one name are told apart by their declarations, so that an instance
of one is no instance of the other (`signatureOf`).

A type is a finite tree, and a schema that refers to itself, or to one that refers back to it, is in
it by its name (`FieldType.byName`). The schemas that are named are kept in a `Library`, and
`Library.unfold` puts them in for their names down to a depth. A value of a type that is still named
below that depth is refused.

`Schema.documentMeta` is the bookkeeping block that a schema can carry as its first field, and
`Schema.withMeta` adds it.
-/

namespace DocMapper

/-- Limits on the length of a value and bounds to hold it against. -/
structure Limits where
  minLength : Option Nat := none
  maxLength : Option Nat := none
  atLeast : Option Value := none
  above : Option Value := none
  atMost : Option Value := none
  below : Option Value := none

/-- What a field is when it is not given. -/
inductive Default
  /-- the field has to be given -/
  | required
  /-- a fixed value -/
  | value (value : Value)
  /-- the reading of the clock -/
  | now
  /-- the value of the field's type that is built from nothing -/
  | fresh

/-- What becomes of members that a schema does not declare. -/
inductive Extra
  | ignored
  | kept
  | refused
  deriving DecidableEq

/-- A declared field, apart from its type. -/
structure Field where
  name : String
  /-- the member of the input that holds the field, if it is not called like the field -/
  givenAs : Option String := none
  default : Default := .required
  limits : Limits := {}

/-- The member of the input that holds a field. -/
def Field.member (f : Field) : String := f.givenAs.getD f.name

/-- The type of a value. -/
inductive FieldType
  | text
  | int
  | float
  | bool
  | any
  | timestamp
  | date
  | ref
  /-- a dictionary with any keys and values -/
  | dict
  | optional (inner : FieldType)
  | list (item : FieldType)
  /-- a dictionary whose keys are texts -/
  | entries (value : FieldType)
  | set (item : FieldType)
  | tuple (items : List FieldType)
  | union (members : List FieldType)
  /-- an instance of the schema of a name and declaration -/
  | record (name : String) (declaration : Nat) (extra : Extra) (fields : List (Field × FieldType))
  /-- an instance of the schema that is kept elsewhere under a name and declaration -/
  | byName (name : String) (declaration : Nat)

instance : Inhabited FieldType := ⟨.any⟩

/-- How a value of a type is put into stored form. -/
def FieldType.storing : FieldType → Storing
  | .float => .number
  | .int => .integer
  | .optional inner => inner.storing
  | .list item => .each item.storing
  | .entries value => .each value.storing
  | _ => .plain

/-- What the instances of a schema tell of it. -/
def signatureOf (name : String) (declaration : Nat) (fields : List (Field × FieldType)) :
    Signature where
  name := name
  declaration := declaration
  storing := fields.filterMap fun (f, type) =>
    match type.storing with
    | .plain => none
    | storing => some (f.name, storing)
  members := fields.filterMap fun (f, _) => f.givenAs.map fun member => (f.name, member)

/-- A named list of typed fields. -/
structure Schema where
  name : String
  fields : List (Field × FieldType)
  extra : Extra := .ignored
  /-- which of the declarations of the name it is -/
  declaration : Nat := 0

instance : Inhabited Schema := ⟨{ name := "", fields := [] }⟩

/-- Declares a field: in place of a field of the same name, or after the others. -/
def putField (field : Field × FieldType) :
    List (Field × FieldType) → List (Field × FieldType)
  | [] => [field]
  | other :: rest =>
    if other.1.name = field.1.name then field :: rest else other :: putField field rest

/-- Declares fields one after another. -/
def putFields (declared fields : List (Field × FieldType)) : List (Field × FieldType) :=
  fields.foldl (fun declared field => putField field declared) declared

namespace Schema

/-- The type of the instances of a schema. -/
def type (s : Schema) : FieldType := .record s.name s.declaration s.extra s.fields

/-- What the instances of the schema tell of it. -/
def signature (s : Schema) : Signature := signatureOf s.name s.declaration s.fields

/-- The bookkeeping block: a version and two times. -/
def documentMeta : Schema where
  name := "DocumentMeta"
  fields := [
    ({ name := "version", default := .value (.text "1") }, .text),
    ({ name := "created_at", default := .now }, .int),
    ({ name := "updated_at", default := .now }, .int)]

/-- The schema with the bookkeeping block as its first field, unless it declares the field itself. -/
def withMeta (s : Schema) : Schema :=
  { s with fields := putFields [({ name := "meta", default := .fresh }, documentMeta.type)] s.fields }

end Schema

/-! ## Schemas that refer to one another -/

namespace FieldType

mutual

/-- The type with schemas in the places of their names. -/
def resolve (schemas : String → Nat → Option Schema) : FieldType → FieldType
  | .optional inner => .optional (resolve schemas inner)
  | .list item => .list (resolve schemas item)
  | .entries value => .entries (resolve schemas value)
  | .set item => .set (resolve schemas item)
  | .tuple items => .tuple (resolveAll schemas items)
  | .union members => .union (resolveAll schemas members)
  | .record name declaration extra fields =>
    .record name declaration extra (resolveFields schemas fields)
  | .byName name declaration =>
    ((schemas name declaration).map Schema.type).getD (.byName name declaration)
  | type => type

/-- Each type of a list with schemas in the places of their names. -/
def resolveAll (schemas : String → Nat → Option Schema) : List FieldType → List FieldType
  | [] => []
  | type :: rest => resolve schemas type :: resolveAll schemas rest

/-- Fields with schemas in the places of their names. -/
def resolveFields (schemas : String → Nat → Option Schema) :
    List (Field × FieldType) → List (Field × FieldType)
  | [] => []
  | (f, type) :: rest => (f, resolve schemas type) :: resolveFields schemas rest

end

end FieldType

/-- The schema with others in the places of their names. -/
def Schema.resolve (schemas : String → Nat → Option Schema) (s : Schema) : Schema :=
  { s with fields := FieldType.resolveFields schemas s.fields }

/-- Schemas that refer to one another by their names. -/
abbrev Library := List Schema

namespace Library

/-- The schema of a name and declaration, in whose fields the schemas of the library take the places of
their names down to a depth. -/
def schemas (lib : Library) : Nat → String → Nat → Option Schema
  | 0, _, _ => none
  | depth + 1, name, declaration =>
    (lib.find? fun s => s.name = name ∧ s.declaration = declaration).map
      (Schema.resolve (schemas lib depth))

/-- The schema in whose fields the schemas of the library take the places of their names down to a
depth. -/
def unfold (lib : Library) (depth : Nat) (s : Schema) : Schema := s.resolve (lib.schemas depth)

end Library

end DocMapper
