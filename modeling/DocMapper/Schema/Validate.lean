import DocMapper.Data.RefReading
import DocMapper.Schema.Limits
/-!
# Checking values against a schema

`FieldType.check` reads a value as a value of a type: it fills in defaults, converts what can be
converted and otherwise reports every flaw, in the order of the fields. It recurses on the type, so
it ends whatever the value. Sets, tuples and unions are types that a path can lead to; a value of
such a type is not read but passed on as it is, so that what is said of such types is said of paths
alone. No value is of a type that is still only named: each is refused.

`Schema.check` reads a value as an instance of a schema. An instance is taken as it is; a dictionary
is checked field by field (`FieldType.checkFields`), and its other members are passed over, kept or
refused as the schema says.
-/

namespace DocMapper

/-! ## Dictionaries and instances -/

/-- The place of a key in a location. -/
def Key.place : Key → String
  | .text s => s
  | .bool b => if b then "1" else "0"
  | k => k.inspect

/-- A key is no text. -/
def notKey : Reason := ⟨"invalid_key", "Keys should be strings"⟩

/-- Refuses a key that is no text. -/
def rejectKey {α : Type} (key : Key) : Checked α :=
  Checked.under key.place (Checked.reject notKey (Value.ofKey key))

/-- An entry whose value is checked already; its key has to spell a text. -/
def checkEntry (key : Key) (value : Checked Value) : Checked (Key × Value) :=
  let name : Checked String := Checked.under "[key]" (Value.ofKey key).asText
  (Checked.under key.place (Checked.both name value)).map fun (s, v) => (.text s, v)

/-- The members of a dictionary that no field takes. -/
def otherMembers (fields : List (Field × FieldType)) (members : Dict Value) : Dict Value :=
  members.filter fun (key, _) =>
    match key with
    | .text s => fields.all fun (f, _) => f.member ≠ s
    | _ => true

/-- The fields that undeclared members add to an instance. -/
def checkExtra (extra : Extra) (others : Dict Value) : Checked (List (String × Value)) :=
  match extra with
  | .ignored => .ok []
  | .kept => Checked.all (others.map fun (key, value) =>
    match key with
    | .text s => .ok (s, value)
    | key => rejectKey key)
  | .refused => Checked.all (others.map fun (key, value) =>
    match key with
    | .text s => Checked.under s
        (Checked.reject ⟨"extra_forbidden", "Extra inputs are not permitted"⟩ value)
    | key => rejectKey key)

/-- Fields with others laid over them: a name that both have keeps its place and takes the other's
value. -/
def overlay (declared others : List (String × Value)) : List (String × Value) :=
  declared.map (fun (name, v) => (name, (others.lookup name).getD v))
    ++ others.filter fun (name, _) => declared.all fun d => d.1 ≠ name

namespace FieldType

mutual

/-- Reads a value as a value of a type, at a reading of the clock, within limits. -/
def check (now : Int) (limits : Limits) : FieldType → Value → Checked Value
  | .text, v => do
    limits.holdBounds (← limits.checkText (← v.asText))
  | .int, v => do
    limits.holdLengths (← (limits.ofType .int).checkBounds (.int (← v.asInt)))
  | .float, v => do
    limits.holdLengths (← (limits.ofType .float).checkBounds (.float (← v.asFloat)))
  | .bool, v => do limits.hold (.bool (← v.asBool))
  | .any, v => limits.hold v
  | .timestamp, v => do
    limits.holdLengths (← (limits.ofType .timestamp).checkBounds (.timestamp (← v.asTimestamp)))
  | .date, v => do
    limits.holdLengths (← (limits.ofType .date).checkBounds (.date (← v.asDate)))
  | .ref, v => do limits.hold (.ref (← Ref.read v))
  | .dict, v =>
    match v with
    | .dict members => do limits.holdBounds (← limits.checkDict members)
    | v => Checked.reject .notDict v
  | .optional inner, v =>
    match v with
    | .null => .ok .null
    | v => check now limits inner v
  | .list item, v =>
    let read (items : List Value) : Checked Value :=
      limits.checkList v (items.mapIdx fun i v => Checked.under (toString i) (check now {} item v))
    match v with
    | .list items => do limits.holdBounds (← read items)
    | .tuple items => do limits.holdBounds (← read items)
    | v => Checked.reject .notList v
  | .entries value, v =>
    match v with
    | .dict members => do
      let entries ← Checked.all (members.map fun (key, v) => checkEntry key (check now {} value v))
      limits.holdBounds (← limits.checkDict (Dict.ofEntries entries))
    | v => Checked.reject .notDict v
  | .set _, v => .ok v
  | .tuple _, v => .ok v
  | .union _, v => .ok v
  | .record name declaration extra fields, v =>
    let signature := signatureOf name declaration fields
    match v with
    | .record own held =>
      if own = signature then limits.hold (.record own held)
      else Checked.reject (.notInstance name) (.record own held)
    | .dict members => do
      let (declared, others) ← Checked.both (Checked.all (checkFields now fields members))
        (checkExtra extra (otherMembers fields members))
      limits.hold (.record signature (overlay declared others))
    | v => Checked.reject (.notInstance name) v
  | .byName _ _, v => Checked.reject .tooDeep v

/-- Reads each field from the members of a dictionary. -/
def checkFields (now : Int) :
    List (Field × FieldType) → Dict Value → List (Checked (String × Value))
  | [], _ => []
  | (f, type) :: rest, members =>
    let outcome : Checked Value :=
      match Dict.get? members (.text f.member) with
      | some v => Checked.under f.member (check now f.limits type v)
      | none =>
        match f.default with
        | .required => Checked.under f.member (Checked.reject .missing (.dict members))
        | .value v => .ok v
        | .now => .ok (.int now)
        | .fresh => Checked.under f.member (check now f.limits type (.dict []))
    outcome.map (fun v => (f.name, v)) :: checkFields now rest members

end

/-- The default of a field. For an instance of a schema, or for a reference, it is null or the named
parts of one; for every other type it is taken as it is given. -/
def default (type : FieldType) (now : Int) (given : Value) : Except Fault Default :=
  let build (title : String) : Except Fault Default :=
    match given with
    | .null => .ok (.value .null)
    | given => do
      let _ ← given.named
      return .value (← Checked.orReject title (type.check now {} given))
  match type with
  | .record name .. | .byName name _ => build name
  | .ref => build "Ref"
  | _ => .ok (.value given)

end FieldType

/-- Reads a value as an instance of a schema. -/
def Schema.check (s : Schema) (now : Int) (v : Value) : Checked Value := s.type.check now {} v

/-- Declares a schema. A field name may not begin with an underscore, and bounds have to be of the
kind of the field's values. -/
def Schema.declare (name : String) (declaration : Nat) (fields : List (Field × FieldType))
    (extra : Extra) : Except Fault Schema := do
  if fields.any fun (f, _) => f.name.startsWith "_" then throw (.misuse .privateName)
  if !(fields.all fun (f, type) => f.limits.fits type) then throw (.misuse .unfitBound)
  return { name := name, declaration := declaration, fields := putFields [] fields, extra := extra }

end DocMapper
