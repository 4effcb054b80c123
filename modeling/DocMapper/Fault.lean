import DocMapper.Value.Display
/-!
# Faults

`Fault` lists what can go wrong, by cause. The first group are the faults of document operations:
each names the operation and, where there is one, the thing it was about. The second group are
faults of the parts that operations are built from, which reach a caller unchanged.

`Fault.detail` is the message of a fault and `Fault.text` the whole line, with the operation in
brackets and the target in quotes. The message about a structure that does not match is a report: it
counts the flaws and tells of each where it is, what kind of mismatch it is and what was given there
(`Flaw.report`).
-/

namespace DocMapper

/-- Why a value does not match: the name of the kind of mismatch, and the reason in words. -/
structure Reason where
  kind : String
  text : String
  deriving DecidableEq

/-- One place where a value does not match its schema: the keys and positions that lead to it,
outermost first, and the reason. -/
structure Flaw where
  location : List String
  reason : Reason
  /-- what was given in the place; for a member that is not there, what it is missing from -/
  given : Value

/-- One reason why a value does not match its schema, with the path to the offending part. -/
structure Issue where
  path : Value
  reason : Value
  /-- the flaw itself, where it is kept -/
  flaw : Option Flaw := none

/-- A use of a value that its kind does not allow. -/
inductive Misuse
  /-- an operation that the kind does not have at all -/
  | wrongKind
  /-- a member that the value does not have -/
  | noMember
  /-- a value of the right kind that is not acceptable -/
  | badValue
  /-- a position outside a sequence -/
  | outOfRange
  /-- a number that is too large for its purpose -/
  | tooLarge
  /-- base64 text with incomplete groups -/
  | badPadding
  /-- text that does not fit the alphabet of a header -/
  | unencodable
  /-- bytes that encode no text -/
  | undecodable
  /-- data without a stored form -/
  | unstorable (reason : Unstorable)
  /-- a declared field whose name is kept for the inside -/
  | privateName
  /-- a declared bound that is not of the kind of the field's values -/
  | unfitBound
  /-- a beginning of names that is no text -/
  | unfitName
  /-- functions applied to functions too deeply -/
  | tooDeep
  deriving DecidableEq

/-- What can go wrong. -/
inductive Fault
  /-- a failure of no particular class -/
  | failed (operation target message : Value)
  /-- a value does not match its declared schema -/
  | invalid (operation : Value) (issues : List Issue) (target : Value)
  /-- something is used before it has been declared or bound -/
  | misconfigured (operation target message : Value)
  /-- a document that was expected to exist was not found -/
  | absent (operation target message : Value)
  /-- a bulk fetch returned fewer documents than requested -/
  | countMismatch (operation requested returned target : Value)
  /-- the executor rejected a query -/
  | transport (operation message target : Value) (cause : Option Fault) (status errors : Value)
      (chained : Bool)
  /-- a value does not match the shape of a named built-in structure -/
  | rejected (title : String) (issues : List Issue)
  /-- a query stopped itself -/
  | aborted (message : String)
  /-- a sequence of expressions was empty -/
  | emptySequence
  /-- a name or key is not there; the text shows it -/
  | missingKey (shown : String)
  | misuse (kind : Misuse)
  /-- a body is not readable as JSON -/
  | unreadable
  /-- a failure on the way to the remote side or on that side, with its kind if it has one -/
  | remote (kind : Option String) (message : String)

instance : Inhabited Fault := ⟨.emptySequence⟩

namespace Flaw

/-- A key or position as a report shows it: one that holds a dot stands in backquotes. -/
def step (key : String) : String := if key.contains '.' then "`" ++ key ++ "`" else key

/-- The line of a place in a report; the value as a whole has none. -/
def placeLine (location : List String) : String :=
  if location.isEmpty then "" else ".".intercalate (location.map step) ++ "\n"

/-- The lines of a flaw in a report. -/
def report (flaw : Flaw) : String :=
  placeLine flaw.location ++ "  " ++ flaw.reason.text ++ " [type=" ++ flaw.reason.kind
    ++ ", input_value=" ++ Text.shortened flaw.given.inspect
    ++ ", input_type=" ++ flaw.given.kind ++ "]\n    For further information visit "
    ++ "https://errors.pydantic.dev/2.14/v/" ++ flaw.reason.kind

end Flaw

/-- The lines of an issue in a report. -/
def Issue.report (issue : Issue) : String :=
  match issue.flaw with
  | some flaw => flaw.report
  | none => issue.path.toText ++ "\n  " ++ issue.reason.toText

namespace Fault

/-- The target of a message: nothing when there is none. -/
def place : Value → String
  | .null => ""
  | target => " for '" ++ target.toText ++ "'"

/-- The line of a fault of a document operation. -/
def line (operation target detail : Value) : String :=
  "[" ++ operation.toText ++ "]" ++ place target ++ ": " ++ detail.toText

/-- The issues of an invalid value, in order. -/
def issuesText (issues : List Issue) : String :=
  "; ".intercalate (issues.map fun issue =>
    issue.path.toText ++ ": " ++ issue.reason.toText)

/-- The report on a structure that does not match. -/
def rejection (title : String) (issues : List Issue) : String :=
  toString issues.length ++ " validation error" ++ (if issues.length = 1 then "" else "s")
    ++ " for " ++ title ++ "\n" ++ "\n".intercalate (issues.map Issue.report)

/-- The message of a fault, without operation and target. -/
def detail : Fault → Value
  | .failed _ _ message => message
  | .invalid _ issues _ => .text ("invalid value (" ++ issuesText issues ++ ")")
  | .misconfigured _ _ message => message
  | .absent _ _ message => message
  | .countMismatch _ requested returned _ =>
    .text ("requested " ++ requested.toText ++ " documents but " ++ returned.toText
      ++ " were returned")
  | .transport _ message _ _ _ _ _ => message
  | .rejected title issues => .text (rejection title issues)
  | .aborted message => .text message
  | .emptySequence => .text "do() needs at least one expression"
  | .missingKey shown => .text shown
  | .misuse _ => .text ""
  | .unreadable => .text ""
  | .remote _ message => .text message

/-- The whole text of a fault. -/
def text (fault : Fault) : String :=
  match fault with
  | .failed operation target _ => line operation target fault.detail
  | .invalid operation _ target => line operation target fault.detail
  | .misconfigured operation target _ => line operation target fault.detail
  | .absent operation target _ => line operation target fault.detail
  | .countMismatch operation _ _ target => line operation target fault.detail
  | .transport operation _ target _ _ _ _ => line operation target fault.detail
  | _ => fault.detail.toText

/-- The status that a fault reports to the operation above it, null if it has none. -/
def status : Fault → Value
  | .transport _ _ _ _ status _ _ => status
  | _ => .null

/-- The errors that a fault reports to the operation above it. A fault that lists what is wrong with
a structure has a function of this name, which stands here uncalled. -/
def errors : Fault → Value
  | .transport _ _ _ _ _ errors _ => errors
  | .rejected _ _ => .foreign (.method "errors")
  | .misuse .unfitBound => .foreign (.method "errors")
  | _ => .list []

end Fault

end DocMapper
