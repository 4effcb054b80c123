import DocMapper.Call
/-!
# Making faults

The faults of document operations can be made from named values: `FaultKind.make` takes the value of
each parameter of a kind of fault, and `FaultKind.ancestry` tells the kinds that a kind belongs to.
The values of a fault are kept as they are given; only the issues of an invalid value have to be
pairs.
-/

namespace DocMapper

/-- The kinds of faults of document operations. -/
inductive FaultKind
  | failed
  | invalid
  | misconfigured
  | absent
  | countMismatch
  | transport
  deriving DecidableEq

namespace FaultKind

/-- The kinds that a kind belongs to, itself first: every kind is a failure. -/
def ancestry (kind : FaultKind) : List FaultKind :=
  if kind = .failed then [.failed] else [kind, .failed]

/-- The named values that a kind of fault is made from. -/
def parameters : FaultKind → List Parameter
  | .invalid => [need "operation", need "issues", may "target" .null]
  | .countMismatch =>
    [need "operation", need "requested", need "returned", may "target" .null]
  | .transport =>
    [need "operation", need "message", may "target" .null, may "cause" .null,
      may "status_code" .null, may "errors" .null]
  | _ => [need "operation", may "target" .null, may "message" (.text "")]

/-- The issue that a pair tells. -/
def issueOf (pair : Value) : Except Fault Issue := do
  match ← pair.items with
  | [path, reason] => return { path := path, reason := reason }
  | _ => throw badValue

/-- The cause that a text tells; without a text there is none. -/
def causeOf : Value → Option Fault
  | .null => none
  | told => some (.remote none told.toText)

/-- Makes a fault of a kind from named values. -/
def make (kind : FaultKind) (given : Value) : Except Fault Fault := do
  let named := (← given.named).map fun (name, v) => (name.toText, v)
  let arg ← Call.bind { name := "", named := named } kind.parameters
  let operation := arg "operation"
  let target := arg "target"
  let message := arg "message"
  match kind with
  | .failed => return .failed operation target message
  | .invalid => return .invalid operation (← (← (arg "issues").items).mapM issueOf) target
  | .misconfigured => return .misconfigured operation target message
  | .absent => return .absent operation target message
  | .countMismatch => return .countMismatch operation (arg "requested") (arg "returned") target
  | .transport =>
    let errors := if (arg "errors").truthy then arg "errors" else .list []
    return .transport operation message target (causeOf (arg "cause")) (arg "status_code") errors
      false

end FaultKind

/-- The outcome with the named values that a caller gives; an error is told by the named values of
a transport fault. -/
def Outcome.ofNamed (given : Value) : Except Fault Outcome := do
  let named := (← given.named).map fun (name, v) => (name.toText, v)
  let arg ← Call.bind { name := "", named := named }
    [may "value" .null, may "error" .null, may "metrics" (.dict [])]
  let error ← match arg "error" with
    | .null => pure none
    | told => do pure (some (← FaultKind.transport.make told))
  return { value := arg "value", error := error, metrics := arg "metrics" }

end DocMapper
