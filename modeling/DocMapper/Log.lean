import DocMapper.Action
import DocMapper.Log.Console
import DocMapper.Value.Merge
import DocMapper.Value.Subscript
/-!
# Logs

A log belongs to one activity. It keeps the last entries that were added to it, each with the log's
own metadata under the entry's, and the last spans of time that were measured.

`Log.entries` is the tail of all entries ever added (`keepLast`), and `Log.add` is the action that
adds one: it merges the metadata, keeps the entry and, where the log is echoed, shows it on the
console.
-/

namespace DocMapper

/-- A dictionary of details is taken as it is, even if it is empty. -/
theorem Value.orEmpty_dict (d : Dict Value) :
    (if (Value.dict d).truthy then Value.dict d else .dict []) = .dict d := by
  cases d <;> rfl

/-- The last elements of a list, up to a bound if there is one. -/
def keepLast {α : Type} (bound : Option Nat) (xs : List α) : List α :=
  match bound with
  | none => xs
  | some n => xs.drop (xs.length - n)

@[simp] theorem keepLast_none {α : Type} (xs : List α) : keepLast none xs = xs := rfl

/-- Keeping the last elements early loses nothing of those that are kept in the end. -/
theorem keepLast_append_keepLast {α : Type} (bound : Option Nat) (xs ys : List α) :
    keepLast bound (keepLast bound xs ++ ys) = keepLast bound (xs ++ ys) := by
  cases bound with
  | none => rfl
  | some n =>
    simp only [keepLast, List.length_append, List.length_drop, List.drop_append, List.drop_drop]
    congr 2 <;> omega

/-- What a log keeps of one call. -/
structure LogEntry where
  severity : Value
  message : Value
  details : Dict Value

/-- The value that stands for an entry. -/
def LogEntry.toValue (e : LogEntry) : Value :=
  .object [("severity", e.severity), ("message", e.message), ("meta", .dict e.details)]

/-- A span of time, with the time of its end once it has ended. -/
structure Span where
  action : Value
  details : Value
  start : Int
  finish : Option Int := none

/-- What surrounds every activity: the clock, and the console. -/
structure Ambient where
  /-- the reading of the clock, in milliseconds -/
  now : Int := 0
  console : Console := {}

instance : Inhabited Ambient := ⟨{}⟩

namespace Span

/-- A span that begins. -/
def begin (action details : Value) (now : Int) : Span :=
  { action := action, details := if details.truthy then details else .dict [], start := now }

/-- The span with its end. -/
def ended (s : Span) (now : Int) : Span := { s with finish := some now }

/-- How long a span took, once it has ended. -/
def duration (s : Span) : Option Int := s.finish.map (· - s.start)

/-- The span with more details. -/
def withDetails (s : Span) (more : Dict Value) : Span :=
  match s.details with
  | .dict details => { s with details := .dict (Dict.putAll details more) }
  | _ => s

/-- An integer, or null where there is none. -/
def optionalInt : Option Int → Value
  | none => .null
  | some n => .int n

/-- The value that stands for a span. -/
def toValue (s : Span) : Value :=
  .object [("action", s.action), ("start", .int s.start),
    ("end", optionalInt s.finish), ("duration", optionalInt s.duration), ("meta", s.details)]

end Span

/-- The entries and spans of one activity. -/
structure Log where
  action : Value
  /-- metadata under that of every entry -/
  base : Value := .dict []
  /-- whether entries are shown on the console -/
  echo : Bool := false
  /-- how many entries and spans are kept, if not all -/
  history : Option Nat := some 500
  entries : List LogEntry := []
  /-- the kept spans, each under the number of its beginning -/
  spans : List (Nat × Span) := []
  /-- how many spans have begun -/
  begun : Nat := 0

instance : Inhabited Log := ⟨{ action := .null }⟩

/-- A log and its surroundings. -/
structure Logging where
  log : Log
  ambient : Ambient

instance : Inhabited Logging := ⟨⟨default, default⟩⟩

namespace Log

/-- The bound that a value is: null is none, and a negative one is not acceptable. It has to be a
64-bit integer. -/
def boundOf (history : Value) : Except Fault (Option Nat) :=
  match history with
  | .null => .ok none
  | history => do
    let n ← history.asPosition
    if n < -(Nat.pow 2 63 : Nat) ∨ (Nat.pow 2 63 : Nat) ≤ n then throw (.misuse .tooLarge)
    if n < 0 then throw badValue
    return some n.toNat

/-- A log that nothing was added to. -/
def new (action base : Value) (echo : Bool) (history : Value) : Except Fault Log := do
  return { action := action, base := if base.truthy then base else .dict [],
           echo := echo, history := ← boundOf history }

/-- The entry of a call: the log's metadata with the call's laid over it. -/
def entry (log : Log) (severity message details : Value) : Except Fault LogEntry := do
  let details ← Value.merge log.base (if details.truthy then details else .dict [])
  return ⟨severity, message, details⟩

/-- Keeps an entry. -/
def keep (log : Log) (e : LogEntry) : Log :=
  { log with entries := keepLast log.history (log.entries ++ [e]) }

/-- The line that shows an entry. -/
def line (log : Log) (e : LogEntry) : String :=
  "(" ++ log.action.toText ++ ") " ++ e.message.toText ++ " - " ++ (Value.dict e.details).inspect

/-- Shows an entry on the console, if the log is echoed. -/
def echoed (log : Log) (e : LogEntry) (console : Console) : Except Fault Console :=
  if log.echo then do
    match ← Value.find Severity.byName e.severity with
    | some severity => return console.write severity (log.line e)
    | none => throw (.missingKey e.severity.inspect)
  else .ok console

/-- Adds an entry. An entry of a severity that the console does not know is kept and then refused. -/
def addAs (severity message details : Value) : Action Logging LogEntry := do
  let s ← get
  let e ← s.log.entry severity message details
  set { s with log := s.log.keep e }
  let console ← s.log.echoed e s.ambient.console
  modify fun s => { s with ambient.console := console }
  return e

/-- Adds an entry of a severity. -/
def add (severity : Severity) (message : String) (details : Value) : Action Logging Unit := do
  let _ ← addAs (.text severity.name) (.text message) details

/-- Begins a span and gives its number. -/
def beginSpan (action details : Value) : Action Logging Nat := do
  let s ← get
  let number := s.log.begun
  let span := Span.begin action details s.ambient.now
  set { s with log := { s.log with
    spans := keepLast s.log.history (s.log.spans ++ [(number, span)]), begun := number + 1 } }
  return number

/-- Changes the span of a number, if it is still kept. -/
def changeSpan (number : Nat) (change : Span → Span) : Action Logging Unit :=
  modify fun s => { s with log := { s.log with
    spans := s.log.spans.map fun (n, span) => (n, if n = number then change span else span) } }

/-- Ends the span of a number. -/
def endSpan (number : Nat) : Action Logging Unit := do
  let s ← get
  changeSpan number (·.ended s.ambient.now)

/-- The log without its entries and spans. -/
def cleared (log : Log) : Log := { log with entries := [], spans := [] }

end Log

end DocMapper
