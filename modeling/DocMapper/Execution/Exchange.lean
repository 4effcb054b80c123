import DocMapper.Execution.Executor
import DocMapper.Wire.Sending
/-!
# Running a query

An `Exchange` says in whose name a query is run and how. `Exchange.run` runs it for its value and
fails with a transport fault when the executor fails; `Exchange.capture` puts both ways in which it
can end into an `Outcome`.

Every run is noted in the log: one entry before it and one for how it ended. With metrics there is
also a span for the time it took, which has ended when the run has, however it ended.
-/

namespace DocMapper

/-- What a captured run came to: a value, or a fault. -/
structure Outcome where
  value : Value := .null
  error : Option Fault := none
  metrics : Value := .dict []

namespace Outcome

/-- Whether the run had a value. -/
def ok (o : Outcome) : Bool := o.error.isNone

/-- The text that shows how a run ended. -/
def shown (o : Outcome) : String :=
  "Outcome(value=" ++ o.value.inspect
    ++ ", error=" ++ (o.error.elim "None" fun fault =>
      "TransportError(" ++ Text.quoted fault.text ++ ")")
    ++ ", metrics=" ++ o.metrics.inspect ++ ")"

/-- The value of the run, or its fault. -/
def unwrap (o : Outcome) : Except Fault Value :=
  match o.error with
  | none => .ok o.value
  | some fault => .error fault

end Outcome

/-- In whose name a query is run, and how. -/
structure Exchange where
  operation : Value := "execute"
  target : Value := .null
  /-- options for the way the query is sent -/
  options : Value := .null
  /-- whether metrics are asked for -/
  withMetrics : Value := .bool false
  /-- whether a failure ends the operation -/
  raising : Value := .bool true

namespace Exchange

variable {σ : Type}

/-- The entry before a run. -/
def announce (x : Exchange) (q : Query) : Op σ Unit := do
  let wire ← q.wire
  Op.onLog (Log.add .debug
    ("Executing query. With metrics: " ++ x.withMetrics.toText ++ ", error on failure: "
      ++ x.raising.toText)
    (.object [("operation", x.operation), ("query_options", x.options),
      ("raw_query", wire.toValue)]))

/-- The options that the executor gets: none at all when there is nothing in them. -/
def sentOptions (x : Exchange) : Value := if x.options.truthy then x.options else .dict []

/-- The reply of the executor, with its metrics if they are asked for. -/
def reply (x : Exchange) (ex : Executor σ) (q : Query) : Action σ (Value × Dict Value) :=
  if x.withMetrics.truthy then ex.queryWithMetrics q x.sentOptions
  else do return (← ex.query q x.sentOptions, [])

/-- Begins the span of a run, if there is one. -/
def beginSpan (x : Exchange) : Op σ (Option Nat) :=
  if x.withMetrics.truthy then do
    return some (← Op.onLog
      (Log.beginSpan x.operation (.object [("target", .text x.target.toText)])))
  else pure none

/-- Ends the span of a run, if there is one, with details of how it ended. -/
def endSpan (span : Option Nat) (details : Dict Value) : Op σ Unit :=
  match span with
  | none => pure ()
  | some number => Op.onLog do
    Log.endSpan number
    Log.changeSpan number (·.withDetails details)

/-- The fault of a run that a fault of the executor ended. -/
def failure (x : Exchange) (cause : Fault) : Fault :=
  .transport x.operation cause.text x.target (some cause) cause.status cause.errors
    x.raising.truthy

/-- Notes that a run failed. -/
def noteFailure (x : Exchange) (span : Option Nat) (cause : Fault) : Op σ Unit := do
  endSpan span [(.text "error", .text cause.text)]
  Op.onLog (Log.add .error "An error occurred while executing the query"
    (.object [("operation", x.operation), ("target", .text x.target.toText),
      ("error", .text cause.text)]))

/-- Notes that a run had a value. -/
def noteValue (x : Exchange) (span : Option Nat) (v : Value) (metrics : Dict Value) :
    Op σ Unit := do
  endSpan span metrics
  if x.withMetrics.truthy then
    Op.onLog (Log.add .debug "Query metrics"
      (.object [("operation", x.operation), ("metrics", .dict metrics)]))
  Op.onLog (Log.add .debug "Response for query"
    (.object [("operation", x.operation), ("response", .text v.inspect)]))

/-- Refuses to go on for an owner without an executor. -/
def requireBound (x : Exchange) (owner : String) : Op σ Unit := do
  if !(← get).bound then
    throw (.misconfigured x.operation (.text owner)
      "attempted to execute a query before a client was set")

/-- Runs a query for an owner and notes how it went: the value with its metrics, or the fault of
the executor. An owner without an executor cannot run queries. -/
def exchange (x : Exchange) (ex : Executor σ) (owner : String) (q : Query) :
    Op σ (Except Fault (Value × Dict Value)) := do
  x.requireBound owner
  x.announce q
  let span ← x.beginSpan
  let reply ← Op.onRemote (x.reply ex q).attempt
  match reply with
  | .error cause => x.noteFailure span cause
  | .ok (v, metrics) => x.noteValue span v metrics
  return reply

/-- Runs a query for its value. -/
def run (x : Exchange) (ex : Executor σ) (owner : String) (q : Query) : Op σ Value := do
  match ← x.exchange ex owner q with
  | .ok (v, _) => return v
  | .error cause => throw (x.failure cause)

/-- Runs a query and captures how it ends. -/
def capture (x : Exchange) (ex : Executor σ) (owner : String) (q : Query) : Op σ Outcome := do
  match ← x.exchange ex owner q with
  | .ok (v, metrics) => return { value := v, metrics := .dict metrics }
  | .error cause => return { error := some (x.failure cause) }

end Exchange

end DocMapper
