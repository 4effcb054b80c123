import DocMapper.Http.Header
import DocMapper.Http.Reason
import DocMapper.Value.Decode
import DocMapper.Value.Subscript
import DocMapper.Wire.Reading
/-!
# Replies

What comes back from the database is a response, or a failure on the way to it. `Response.read`
takes the result out of a response. A status of 400 or more, and errors in the body, are a transport
fault that carries the status and the errors; so is a body that is not readable as JSON.
-/

namespace DocMapper.Http

/-- A response of the database. -/
structure Response where
  status : Int := 200
  headers : Headers := []
  body : List UInt8

/-- What comes back for a request. -/
inductive Reply
  | response (response : Response)
  /-- a failure of the transfer, of a kind -/
  | transferFailed (kind message : String)
  /-- any other failure -/
  | broken (message : String)

namespace Response

/-- The operation in whose name responses are read. -/
def operation : String := "query"

/-- The description of the first of some errors. -/
def description (errors : Value) : Except Fault Value := do
  let first ← errors.subscript (.int 0)
  let members ← first.entries
  return (members.get? "description").getD "unknown error"

/-- The fault of a response that reports errors, or has a status that means one. -/
def refusal (r : Response) (errors : Value) : Except Fault Fault := do
  let message ← if errors.truthy then description errors else pure (.text (reason r.status))
  let errors ← if errors.truthy then errors.items else pure []
  return .transport (.text operation) message .null none (.int r.status) (.list errors) false

/-- The fault of a body that is not readable as JSON, for a cause. -/
def unreadable (r : Response) (cause : Fault) : Fault :=
  .transport (.text operation)
    (.text ("unreadable response (status " ++ toString r.status ++ ")")) .null (some cause)
    (.int r.status) (.list []) true

/-- The body as JSON. -/
def json (r : Response) : Except Fault Wire :=
  match Text.recognised? r.body with
  | none => .error (.misuse .undecodable)
  | some text => Wire.ofJson text

/-- The members of a readable body. -/
def members (body : Wire) : Except Fault (Dict Wire) :=
  match body with
  | .object members => .ok members
  | _ => .error noMember

/-- The result in a response. -/
def read (r : Response) : Except Fault Value := do
  match r.json with
  | .error cause => throw (r.unreadable cause)
  | .ok body =>
    let members ← members body
    let errors := ((members.get? "errors").getD .null).toValue
    if 400 ≤ r.status ∨ errors.truthy then throw (← r.refusal errors)
    ((members.get? "resource").getD .null).decode

/-- The place that a response sends on to, if it does. -/
def location? (r : Response) : Option String :=
  if [301, 302, 303, 307, 308].contains r.status then (joined r.headers).lookup "location"
  else none

/-- The metrics in a response: its extension headers. -/
def metrics (r : Response) : Dict Value :=
  Dict.ofFields ((extensions r.headers).map fun h => (h.1, .text h.2))

end Response

end DocMapper.Http
