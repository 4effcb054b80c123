import DocMapper.Data.RefReading
import DocMapper.Text.Base64
/-!
# Decoding responses

Responses tag what JSON has no notation for: an object whose only member is one of the tags `@ref`,
`@obj`, `@ts`, `@date`, `@set` or `@bytes` stands for a reference, a literal object, a timestamp, a
date, a set or bytes. `Wire.decode` replaces tagged objects, at any depth, by what they stand for.
-/

namespace DocMapper

namespace Wire

/-- The text with each `Z` spelled out as the offset it stands for. -/
def expandZulu (text : String) : String :=
  String.ofList (text.toList.flatMap fun c => if c = 'Z' then "+00:00".toList else [c])

/-- The timestamp of a tag. -/
def decodeTimestamp : Wire → Except Fault Value
  | .text s =>
    match Timestamp.ofIso? (expandZulu s) with
    | some t => .ok (.timestamp t)
    | none => .error badValue
  | _ => .error noMember

/-- The date of a tag. -/
def decodeDate : Wire → Except Fault Value
  | .text s =>
    match Date.ofIso? s with
    | some d => .ok (.date d)
    | none => .error badValue
  | _ => .error wrongKind

/-- The bytes of a tag. -/
def decodeBytes : Wire → Except Fault Value
  | .text s =>
    if s.toList.all fun c => c.toNat < 0x80 then
      match Base64.decode? s.toList with
      | some bytes => .ok (.bytes bytes)
      | none => .error (.misuse .badPadding)
    else .error badValue
  | _ => .error wrongKind

/-- The reference of a tag, given the members of the tagged object and what each decodes to. -/
def decodeRef (members : Dict (Wire × Except Fault Value)) : Except Fault Value := do
  let id ← match members.get? "id" with
    | some (id, _) => pure id.toValue
    | none => throw (.missingKey (Text.quoted "id"))
  let collection ← match members.get? "collection" with
    | some (_, decoded) => decoded
    | none => pure .null
  let database ← match members.get? "database" with
    | some (_, decoded) => decoded
    | none => pure .null
  return .ref (← Checked.orReject "Ref"
    (Ref.read (.object [("id", id), ("collection", collection), ("database", database)])))

/-- The first fault of a list of decoded values, or all of them. -/
def collect : List (Except Fault Value) → Except Fault (List Value)
  | [] => .ok []
  | r :: rest => do
    let v ← r
    let vs ← collect rest
    return v :: vs

/-- The first fault of decoded members, or the dictionary of all of them. -/
def collectMembers : Dict (Wire × Except Fault Value) → Except Fault (Dict Value)
  | [] => .ok []
  | (k, (_, r)) :: rest => do
    let v ← r
    let vs ← collectMembers rest
    return (k, v) :: vs

mutual

/-- The value that a wire form stands for. -/
def decode : Wire → Except Fault Value
  | .array items => do return .list (← collect (decodeItems items))
  | .object [(key, inner)] =>
    match key with
    | .text "@ref" =>
      match inner with
      | .object members => decodeRef (decodeMembers members)
      | _ => .error wrongKind
    | .text "@obj" =>
      match inner with
      | .object members => do return .dict (← collectMembers (decodeMembers members))
      | _ => .error noMember
    | .text "@ts" => decodeTimestamp inner
    | .text "@date" => decodeDate inner
    | .text "@set" => decode inner
    | .text "@bytes" => decodeBytes inner
    | key => do return .dict [(key, ← decode inner)]
  | .object members => do return .dict (← collectMembers (decodeMembers members))
  | w => .ok w.toValue

/-- What each element decodes to. -/
def decodeItems : List Wire → List (Except Fault Value)
  | [] => []
  | w :: rest => decode w :: decodeItems rest

/-- What each member decodes to, beside the member itself. -/
def decodeMembers : List (Key × Wire) → Dict (Wire × Except Fault Value)
  | [] => []
  | (k, w) :: rest => (k, (w, decode w)) :: decodeMembers rest

end

end Wire

end DocMapper
