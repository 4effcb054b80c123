import DocMapper.Http.Deflated
import DocMapper.Http.Reply
import DocMapper.Text.Case
/-!
# The content of responses

The headers of a response say how its body is packed. `Response.unpacked` is the response with the
body that was packed, or with the reason why nothing was packed in it.
-/

namespace DocMapper.Http

/-- A way to pack a body. -/
inductive Packing
  | gzip
  | deflate
  deriving DecidableEq

namespace Packing

/-- The packing of a name. -/
def ofName? (name : String) : Option Packing :=
  if name = "gzip" then some .gzip else if name = "deflate" then some .deflate else none

/-- The body that is packed in one, or why there is none. What begins like text is never packed by
`gzip`; too little of it is not yet the beginning of anything. Deflated data may be wrapped. -/
def unpack : Packing → List UInt8 → Except String (List UInt8)
  | .gzip, body => if body.length < 2 then .ok [] else .error "incorrect header check"
  | .deflate, body =>
    match Deflated.unwrapped? body with
    | some body => .ok body
    | none => (Deflated.inflate body).mapError Deflated.Flaw.message

/-- The message of a body that is not packed as it should be. -/
def refusal (flaw : String) : String := "Error -3 while decompressing data: " ++ flaw

end Packing

namespace Response

/-- The names of the packings in a header. -/
def packingNames (header : String) : List String :=
  (header.splitOn ",").map fun name =>
    Text.small (String.ofList (Text.trimmed Text.isSpacing name.toList))

/-- How the body is packed, the last packing first. -/
def packings (r : Response) : List Packing :=
  let header := (joined r.headers).lookup "content-encoding"
  ((header.elim [] packingNames).filterMap Packing.ofName?).reverse

/-- The response with the body that was packed, or why it has none. Headers that are no plain texts
are refused. -/
def unpacked (r : Response) : Except Fault (Except String Response) := do
  if !(r.headers.all fun h => isPlain h.1 && isPlain h.2) then throw (.misuse .unencodable)
  let body := r.packings.foldlM (fun body packing => packing.unpack body) r.body
  return (body.mapError Packing.refusal).map fun body => { r with body := body }

end Response

end DocMapper.Http
