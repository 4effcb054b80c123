import DocMapper.Execution.Memory
import DocMapper.Execution.Scripted
import DocMapper.Http.Client
/-!
# The executors to choose from

A `Remote` is one of the executors with its state: the one in memory, the one with prepared replies,
or a client with its line. `Remote.executor` runs queries on whichever it is, `Remote.run` any value, and
`Remote.received` shows what it received, as values.
-/

namespace DocMapper

/-- An executor, with its state. -/
inductive Remote
  | memory (m : Memory)
  | scripted (s : Script)
  | http (client : Http.Client) (line : Http.Line)

namespace Http.Request

/-- Whether a header tells anything about a query: who sends it, what it is, or an extension. -/
def isTelling (name : String) : Bool :=
  name = "authorization" ∨ name = "content-type" ∨ isExtension name

/-- The value that shows a request, with its telling headers. -/
def toValue (r : Request) : Value :=
  let shown := r.headers.filter fun h => isTelling h.1
  .object [("method", .text "POST"), ("url", .text r.url),
    ("headers", .object (shown.map fun (name, text) => (name, .text text))),
    ("timeout", r.timeout), ("body", r.body.toValue)]

end Http.Request

namespace Event

/-- The value that shows an event. -/
def toValue : Event → Value
  | submitted n => .list [.text "submitted", .int n]
  | resolved n => .list [.text "resolved", .int n]

end Event

namespace Remote

/-- An action for each kind of executor, as one. -/
def act {α : Type} (memory : Action Memory α) (scripted : Action Script α)
    (http : Http.Client → Action Http.Line α) : Action Remote α :=
  Action.of fun remote =>
    match remote with
    | .memory m =>
      let (outcome, m) := memory.perform m
      (outcome, .memory m)
    | .scripted s =>
      let (outcome, s) := scripted.perform s
      (outcome, .scripted s)
    | .http c l =>
      let (outcome, l) := (http c).perform l
      (outcome, .http c l)

/-- An action that only the executor in memory can perform. -/
def inMemory {α : Type} (action : Action Memory α) : Action Remote α :=
  act action (throw noMember) fun _ => throw noMember

/-- Runs queries on whichever executor it is. -/
def executor : Executor Remote where
  query q options := act (Memory.executor.query q options) (Script.executor.query q options)
    fun c => c.executor.query q options
  queryWithMetrics q options := act (Memory.executor.queryWithMetrics q options)
    (Script.executor.queryWithMetrics q options) fun c => c.executor.queryWithMetrics q options

/-- Evaluates a value on whichever executor it is, with options for the way it is sent. -/
def run (e options : Value) : Action Remote Value :=
  act (Memory.run e) (Script.run e) fun c => c.run e options

/-- Evaluates a value and reports metrics. -/
def runWithMetrics (e options : Value) : Action Remote (Value × Dict Value) :=
  act (do return (← Memory.run e, Memory.metrics)) (do return (← Script.run e, Script.metrics))
    fun c => c.runWithMetrics e options

/-- The value that shows something received, which has to be a query. -/
def callValue : Value → Except Fault Value
  | .query q => do return (← q.wire).toValue
  | _ => .error noMember

/-- What was received since it was last asked for, in order. -/
def received : Remote → Except Fault (List Value)
  | .memory m => m.calls.mapM callValue
  | .scripted s => s.calls.mapM callValue
  | .http _ l => .ok (l.sent.map Http.Request.toValue)

/-- The executor with nothing received. -/
def forgotten : Remote → Remote
  | .memory m => .memory { m with calls := [] }
  | .scripted s => .scripted { s with calls := [] }
  | .http c l => .http c { l with sent := [] }

/-- Whether the executor is a client. -/
def isClient : Remote → Bool
  | .http .. => true
  | _ => false

/-- Whether the executor debugs. -/
def debugs : Remote → Bool
  | .http c _ => c.debug.truthy
  | _ => false

end Remote

end DocMapper
