import DocMapper.Schema.Scalar
import DocMapper.Value.Coerce
/-!
# Page requests

A page request asks for a number of entries after a position or before one. `PageRequest.read` takes
one from a dictionary, `PageRequest.ofOptions` from what a caller gives as options: nothing at all,
a request that was made earlier, or a dictionary.
-/

namespace DocMapper

/-- Which part of a set a page shows. -/
structure PageRequest where
  size : Int := 100
  after : Value := .null
  before : Value := .null

namespace PageRequest

/-- The name under which flaws of a page request are reported. -/
def title : String := "PaginateOptions"

/-- Takes a page request from the members of a dictionary. -/
def ofMembers (members : Dict Value) : Checked PageRequest :=
  (Checked.memberOr 100 members "size" Value.asInt).map fun size =>
    { size := size, after := Value.lookup members "after", before := Value.lookup members "before" }

/-- Reads a page request. -/
def read (v : Value) : Checked PageRequest :=
  match v.members? title with
  | some members => ofMembers members
  | none => Checked.reject (.notInstance title) v

/-- The instance that stands for a page request. -/
def toValue (request : PageRequest) : Value :=
  .record title [("size", .int request.size), ("after", request.after), ("before", request.before)]

/-- The page request that an instance stands for, if it stands for one. -/
def ofValue? : Value → Option PageRequest
  | .record schema [("size", .int size), ("after", after), ("before", before)] =>
    if schema = title then some ⟨size, after, before⟩ else none
  | _ => none

@[simp] theorem ofValue?_toValue (request : PageRequest) :
    ofValue? request.toValue = some request := by
  simp [ofValue?, toValue]

/-- Takes a page request from a dictionary of named options. -/
def ofNamed (options : Value) : Except Fault PageRequest := do
  let members ← options.named
  Checked.orReject title (ofMembers members)

/-- The page request that options ask for; without options it is the first hundred entries. -/
def ofOptions (options : Value) : Except Fault PageRequest :=
  match ofValue? options with
  | some request => .ok request
  | none => if options.truthy then ofNamed options else .ok {}

end PageRequest

end DocMapper
