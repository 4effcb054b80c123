import DocMapper.Schema.Scalar
import DocMapper.Value.Coerce
/-!
# References from data

`Ref.read` reads a reference from a value: a reference is one already, and a dictionary is one when
its `id` is a text and its `collection` and `database`, where present and not null, are references.
Everything that is wrong is reported, each flaw with the path to it.
-/

namespace DocMapper

namespace Ref

/-- What reading gave for one member of a dictionary: the member itself and the reference in it. -/
structure Member where
  value : Value
  reading : Checked Ref

/-- An optional part of a reference: absent and null parts are left out. -/
def part (name : String) (members : Dict Member) : Checked (Option Ref) :=
  match members.get? name with
  | none => .ok none
  | some member =>
    match member.value with
    | .null => .ok none
    | _ => (Checked.under name member.reading).map some

/-- The id of a reference that is read from a given dictionary. -/
def idPart (given : Value) (members : Dict Member) : Checked String :=
  match members.get? "id" with
  | none => Checked.under "id" (Checked.reject .missing given)
  | some member => Checked.under "id" member.value.asText

/-- Puts the parts of a reference together, or reports what is wrong with each of them. -/
def assemble (given : Value) (members : Dict Member) : Checked Ref :=
  (Checked.both (idPart given members)
    (Checked.both (part "collection" members) (part "database" members))).map
      fun (id, collection, database) => ⟨id, collection, database⟩

mutual

/-- Reads a reference. -/
def read : Value → Checked Ref
  | .ref r => .ok r
  | .dict entries => assemble (.dict entries) (readMembers entries)
  | v => Checked.reject (.notInstance "Ref") v

/-- Reads every member of a dictionary as a reference. -/
def readMembers : List (Key × Value) → Dict Member
  | [] => []
  | (k, v) :: rest => (k, ⟨v, read v⟩) :: readMembers rest

end

end Ref

end DocMapper
