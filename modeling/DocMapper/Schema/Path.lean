import DocMapper.Fault
import DocMapper.Schema
/-!
# Paths into a schema

A path into a document starts at one of the members of the stored envelope. Under `data` it walks
through the declared fields as long as they hold instances; from a field of any other type on, the
rest of the path is free.

`Schema.checkPath` accepts a path or tells which of its keys is not declared.
-/

namespace DocMapper

/-- The members of a stored document. -/
def envelopeMembers : List String := ["ref", "ts", "ttl", "data"]

/-- What a path can walk into: an instance of a schema, or a reference. -/
inductive Shape
  | record (name : String) (declaration : Nat) (fields : List (Field × FieldType))
  /-- an instance of a schema of which no more than the name is there -/
  | byName (name : String) (declaration : Nat)
  | ref

namespace Shape

/-- The name of what is walked into. -/
def name : Shape → String
  | .record name .. | .byName name _ => name
  | .ref => "Ref"

/-- Which of the declarations of its name a shape is. -/
def declaration : Shape → Nat
  | .record _ declaration _ | .byName _ declaration => declaration
  | .ref => 0

end Shape

namespace FieldType

mutual

/-- The types that a value of a type may have, null aside. -/
def alternatives : FieldType → List FieldType
  | .optional inner => alternatives inner
  | .union members => alternativesOf members
  | type => [type]

/-- The alternatives of each type of a list. -/
def alternativesOf : List FieldType → List FieldType
  | [] => []
  | type :: rest => alternatives type ++ alternativesOf rest

end

/-- The shape of a type that is one by itself. -/
def ownShape? : FieldType → Option Shape
  | .record name declaration _ fields => some (.record name declaration fields)
  | .byName name declaration => some (.byName name declaration)
  | .ref => some .ref
  | _ => none

/-- The one shape among the alternatives of a type, if there is exactly one. -/
def shape? (type : FieldType) : Option Shape :=
  match type.alternatives.filterMap ownShape? with
  | [] => none
  | shape :: rest =>
    if rest.all fun other => other.name = shape.name ∧ other.declaration = shape.declaration then
      some shape
    else none

end FieldType

namespace Shape

/-- The field of a name: nothing when it is not declared, otherwise the shape of its values, if
they have one. -/
def field? : Shape → String → Option (Option Shape)
  | .record _ _ fields, key =>
    (fields.find? fun (f, _) => f.name = key).map fun (_, type) => type.shape?
  | .byName _ _, _ => none
  | .ref, key =>
    if key = "id" then some none
    else if key = "collection" ∨ key = "database" then some (some .ref)
    else none

end Shape

/-- The fault of a path, which is about its owner or, without one, about the path. -/
def pathFault (owner : String) (keys : List String) (message : String) : Fault :=
  .misconfigured "validate_path"
    (.text (if owner.isEmpty then ".".intercalate keys else owner)) message

/-- Walks the rest of a path, of which some keys are passed already. -/
def walkPath (fault : String → Fault) (passed : List String) :
    Option Shape → List String → Except Fault Unit
  | _, [] => .ok ()
  | none, _ => .ok ()
  | some shape, key :: rest =>
    match shape.field? key with
    | none => .error (fault
        ("'" ++ ".".intercalate (passed ++ [key]) ++ "' is not declared on " ++ shape.name))
    | some next => walkPath fault (passed ++ [key]) next rest

/-- Checks a path against the stored envelope and the schema. -/
def Schema.checkPath (s : Schema) (keys : List String) (owner : String) : Except Fault Unit :=
  match keys with
  | [] => .error (.misuse .outOfRange)
  | first :: rest =>
    if envelopeMembers.contains first then
      if first = "data" then
        walkPath (pathFault owner keys) ["data"] (some (.record s.name s.declaration s.fields)) rest
      else .ok ()
    else
      .error (pathFault owner keys ("'" ++ first ++ "' is not a document field (expected one of "
        ++ tupleText (envelopeMembers.map Text.quoted) ++ ")"))

end DocMapper
