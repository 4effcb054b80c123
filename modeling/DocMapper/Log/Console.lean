import DocMapper.Fault
/-!
# The console

Log entries that are echoed go to a console, which shows those that are serious enough. Levels are
numbers: the console shows a line when the level of the line is at least its own. A console whose
level is zero has no level of its own and shows warnings and errors.
-/

namespace DocMapper

/-- How serious a log entry is. -/
inductive Severity
  | debug
  | info
  | warn
  | error
  deriving DecidableEq

namespace Severity

/-- The name of a severity. -/
def name : Severity → String
  | .debug => "debug"
  | .info => "info"
  | .warn => "warn"
  | .error => "error"

/-- The severities by name. -/
def byName : Dict Severity :=
  [debug, info, warn, error].map fun s => (.text s.name, s)

@[simp] theorem get?_byName (s : Severity) : byName.get? s.name = some s := by
  cases s <;> simp [byName, name, Dict.get?]

/-- The level of a severity. -/
def level : Severity → Int
  | .debug => 10
  | .info => 20
  | .warn => 30
  | .error => 40

/-- The name of a severity on the console. -/
def label : Severity → String
  | .debug => "DEBUG"
  | .info => "INFO"
  | .warn => "WARNING"
  | .error => "ERROR"

end Severity

/-- Letters outside the basic alphabet whose capitals lie within it. -/
def strayCapitals : List (Char × String) :=
  [('ß', "SS"), ('ı', "I"), ('ſ', "S"), ('ﬀ', "FF"), ('ﬁ', "FI"), ('ﬂ', "FL"), ('ﬃ', "FFI"),
    ('ﬄ', "FFL"), ('ﬅ', "ST"), ('ﬆ', "ST")]

/-- A letter in capitals, as far as the names of levels have them. -/
def capitals (c : Char) : List Char :=
  match strayCapitals.lookup c with
  | some written => written.toList
  | none => [c.toUpper]

/-- The level of a name, in letters of any case; unknown names are the level of information. Two
names belong to other settings of a log and are refused. -/
def levelOfName (name : String) : Except Fault Int :=
  match String.ofList (name.toList.flatMap capitals) with
  | "NOTSET" => .ok 0
  | "DEBUG" => .ok 10
  | "WARN" => .ok 30
  | "WARNING" => .ok 30
  | "ERROR" => .ok 40
  | "CRITICAL" => .ok 50
  | "FATAL" => .ok 50
  | "BASIC_FORMAT" => .error (.misuse .badValue)
  | "_STYLES" => .error (.misuse .wrongKind)
  | _ => .ok 20

/-- Where log entries are echoed. -/
structure Console where
  level : Int := 0
  handlers : Nat := 0
  /-- what was shown, each line under the label of its severity -/
  lines : List (String × String) := []

namespace Console

/-- The least level that the console shows. -/
def threshold (c : Console) : Int := if c.level = 0 then 30 else c.level

/-- Shows a line, if it is serious enough. -/
def write (c : Console) (severity : Severity) (text : String) : Console :=
  if c.threshold ≤ severity.level then { c with lines := c.lines ++ [(severity.label, text)] }
  else c

/-- Sets the level. A handler is attached when it is asked for and there is none. -/
def configure (c : Console) (level : String) (attach : Bool) : Except Fault Console := do
  let level ← levelOfName level
  return { c with
    level := level
    handlers := if attach && c.handlers == 0 then 1 else c.handlers }

end Console

end DocMapper
