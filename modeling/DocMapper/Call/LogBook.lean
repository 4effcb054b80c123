import DocMapper.Call
import DocMapper.Settings
/-!
# Calls of a log

A `LogBook` is a log with its surroundings and with every span that was ever begun in it; the log
itself keeps only the last ones. `LogBook.answer` answers calls about it, and `Console.answer` the
call that configures the console.
-/

namespace DocMapper

/-- A log with its surroundings, and every span ever begun, in order. -/
structure LogBook where
  logging : Logging
  spans : List Span := []

namespace LogBook

/-- An action on the log. -/
def onLog {α : Type} (action : Action Logging α) : Action LogBook α :=
  action.zoom LogBook.logging fun logging s => { s with logging := logging }

/-- Adds an entry. -/
def addEntry (severity message details : Value) : Action LogBook Answer := do
  return .entry (← onLog (Log.addAs severity message details))

/-- The number of the span that a value tells, counted from the end where it is negative. -/
def spanNumber (book : LogBook) (position : Value) : Except Fault Nat := do
  match position? book.spans.length (← position.asPosition) with
  | some number => return number
  | none => throw outOfRange

/-- The span of a number. -/
def spanAt (book : LogBook) (number : Nat) : Except Fault Span :=
  match book.spans[number]? with
  | some span => .ok span
  | none => .error outOfRange

/-- Begins a span and shows it. -/
def begin (action details : Value) : Action LogBook Answer := do
  let book ← get
  let _ ← onLog (Log.beginSpan action details)
  let span := Span.begin action details book.logging.ambient.now
  modify fun book => { book with spans := book.spans ++ [span] }
  return .value span.toValue

/-- Ends the span of a number. -/
def finish (number : Nat) : Action LogBook Unit := do
  let book ← get
  let span ← book.spanAt number
  onLog (Log.endSpan number)
  modify fun b => { b with spans := b.spans.set number (span.ended book.logging.ambient.now) }

/-- The first argument of a call, of which the others do not count. -/
def firstArgument (call : Call) : Except Fault Value :=
  match call.args with
  | v :: _ => .ok v
  | [] => .error outOfRange

/-- Answers a call about a log. The severities that have names are calls too. -/
def answer (call : Call) : Action LogBook Answer := do
  match call.name with
  | "add_log" =>
    let arg ← call.bind [need "severity", need "message", may "meta" .null]
    addEntry (arg "severity") (arg "message") (arg "meta")
  | "monitor" =>
    let arg ← call.bind [need "action", may "meta" .null]
    begin (arg "action") (arg "meta")
  | "finished" =>
    finish (← (← get).spanNumber (← firstArgument call))
    return .done
  | "serialize" =>
    let book ← get
    return .value (← book.spanAt (← book.spanNumber (← firstArgument call))).toValue
  | "advance" =>
    let ms ← (← firstArgument call).asPosition
    modify fun book => { book with logging.ambient.now := book.logging.ambient.now + ms }
    return .done
  | "meta" => return .value (← get).logging.log.base
  | "kept_monitors" =>
    return .value (.list ((← get).logging.log.spans.map fun (_, span) => span.action))
  | name =>
    match Severity.byName.get? (.text name) with
    | none => throw (.missingKey (Text.quoted name))
    | some _ =>
      let arg ← call.bind [need "message", may "meta" .null]
      addEntry (.text name) (arg "message") (arg "meta")

end LogBook

namespace Console

/-- The name of a level that a value gives. Bytes can be written in capitals too, but they name
nothing. -/
def levelName : Value → Except Fault String
  | .text level => .ok level
  | .bytes _ => .error wrongKind
  | _ => .error noMember

/-- Configures the console with a level, the usual one unless it is given, and with a handler if
one is asked for. -/
def answer (c : Console) (args : List Value) : Except Fault Console :=
  match args with
  | [] => c.configure ({} : Settings).logLevel false
  | [level] => do c.configure (← levelName level) false
  | [level, attach] => do c.configure (← levelName level) attach.truthy
  | _ => .error wrongKind

/-- The shown lines as a value. -/
def linesValue (c : Console) : Value :=
  .list (c.lines.map fun (label, text) => .list [.text label, .text text])

end Console

namespace Log

/-- The kept spans as a value. -/
def spansValue (log : Log) : Value := .list (log.spans.map fun (_, span) => span.toValue)

end Log

end DocMapper
