import DocMapper.Call.Catalog
import DocMapper.Call.LogBook
import DocMapper.Session.Operations
import DocMapper.Store.Snapshot
/-!
# Requests

A request is a call in a session, together with the models that it is about. `Session.answer`
answers it: `index.`, `relation.`, `doc.` and `registry.` at the head of a call's name say what the
call is on; `Session.setUp` answers the call that sets models up; other calls are on the session
itself, on the executor, or on the first model that the request names.
-/

namespace DocMapper

/-- A model that a request brings: by its name, or as a new one. -/
inductive Entrant
  | known (name : String)
  | new (member : Except Fault Member)

/-- A call, and what it is about. -/
structure Request where
  call : Call
  /-- the model that the call is on -/
  model : Option String := none
  /-- the models that the call is about; all of them if not given -/
  models : Option (List Entrant) := none
  /-- the handle of what the call is on -/
  on : String := ""
  /-- the handle under which the answer is kept -/
  keepAs : Option String := none

namespace Session

/-- The number of a model that a request brings. -/
def enter : Entrant → Run Nat
  | .known name => do (← get).number name
  | .new member => do takeIn (← member)

/-- The numbers of the models that a request is about. -/
def about (models : Option (List Entrant)) : Run (List Nat) := do
  match models with
  | some entrants => entrants.mapM enter
  | none => return (← get).names.values

/-- Puts models back in their places. -/
def putBack (numbers : List Nat) (models : List Attached) : Run Unit :=
  (numbers.zip models).forM fun (number, attached) =>
    changeMember number fun m => { m with attached := attached }

/-- Sets models up, with a log for it: the log afterwards, and what it came to. -/
def setUp (numbers : List Nat) (log : Log) (create : Bool) : Run (Log × Except Fault Value) := do
  let s ← get
  let members ← numbers.mapM fun number => (s.member number : Except Fault Member)
  let start : SetupState Remote := {
    remote := s.remote, logging := ⟨log, s.ambient⟩, members := members.map Member.attached }
  let (outcome, state) := (Setup.run ex log.echo create).perform start
  set { s with remote := state.remote, ambient := state.logging.ambient }
  putBack numbers state.members
  return (state.logging.log, outcome.map SetupSummary.toValue)

/-- Sets models up by a call, with a log that is at hand from then on. Its arguments by name say how
the log is kept, and the one by position whether to create what the models need. -/
def answerSetup (r : Request) : Run Answer := do
  let echo := (← { r.call with args := [] }.bind [may "echo" (.bool false)]) "echo"
  let log := Setup.newLog echo.truthy
  modify fun s => { s with setupLog := some log }
  let numbers ← about r.models
  let create := (← { r.call with named := [] }.bind [may "setup" (.bool false)]) "setup"
  let (log, outcome) ← setUp numbers log create.truthy
  modify fun s => { s with setupLog := some log }
  return .value (← outcome)

/-- The log of the latest setting up. -/
def latestSetup : Run Log := do
  match (← get).setupLog with
  | some log => return log
  | none => throw noMember

/-- Answers a call of the registry. -/
def callRegistry (r : Request) (c : Call) : Run Answer := do
  match c.name with
  | "register" =>
    if r.models.isNone then throw (.missingKey (Text.quoted "models"))
    let numbers ← about r.models
    let members ← numbers.mapM fun number => do (← get).member number
    let named := (members.zip numbers).map fun (m, number) => (m.model.name, number)
    (Registry.register named).zoom Session.registry fun kept s => { s with registry := kept }
    return .value (.list (← get).registry.names)
  | "resolve" =>
    let s ← get
    let (outcome, catalogs) := s.registry.resolve.perform (s.members.map Member.relations)
    let members := s.members.zipWith (fun m c => { m with relations := c }) catalogs
    set { s with members := members }
    let _ ← outcome
    return .value (.list s.registry.names)
  | "get" => return .models (.one (← (← get).registry.find (← c.only "name")).name)
  | _ => throw (c.refusal ["models"])

/-- Answers a call of the executor, if it is one. -/
def callExecutor? (c : Call) : Option (Run Answer) :=
  match c.name with
  | "query" => some do
    let arg ← c.bind [need "expr", may "options" .null]
    return .value (← onRemote (Remote.run (arg "expr") (arg "options")))
  | "query_with_metrics" => some do
    let arg ← c.bind [need "expr", may "options" .null]
    let (v, metrics) ← onRemote (Remote.runWithMetrics (arg "expr") (arg "options"))
    return .value (.tuple [v, .dict metrics])
  | "sent" => some do return .value (.list (← showReceived))
  | "insert" => some do
    let arg ← c.bind [need "collection", need "data", may "doc_id" .null]
    onStore do
      return .value (← Store.insertGiven (arg "collection") (arg "data") (arg "doc_id"))
  | "stored" => some do
    let arg ← c.bind [need "collection", need "doc_id"]
    onStore do
      return .value ((← (← get).dataGiven (arg "collection") (arg "doc_id")).getD .null)
  | "dump" => some (onStore do return .value (← (← get).snapshot))
  | "events" => some (onRemote (Remote.inMemory do
      return .value (.list ((← get).events.map Event.toValue))))
  | _ => none

/-- Answers a call about logs and the console, if it is one. -/
def callLog? (number : Nat) (c : Call) : Option (Run Answer) :=
  match c.name with
  | "logs" => some do return .entries (← (← get).member number).attached.log.entries
  | "monitors" => some do return .value (← (← get).member number).attached.log.spansValue
  | "clear_logs" => some do
    let _ ← (← get).member number
    changeMember number fun m => { m with attached.log := m.attached.log.cleared }
    return .done
  | "set_echo" => some do
    let _ ← (← get).member number
    let echo := (c.args.headD .null).truthy
    changeMember number fun m => { m with attached.log.echo := echo }
    return .done
  | "setup_logs" => some do return .entries (← latestSetup).entries
  | "setup_monitors" => some do return .value (← latestSetup).spansValue
  | "echoed" => some do
    let s ← get
    set { s with ambient.console.lines := [] }
    return .value s.ambient.console.linesValue
  | "log_level" => some do return .value (.int (← get).ambient.console.level)
  | "configure_logging" => some do
    let console ← (← get).ambient.console.answer c.args
    modify fun s => { s with ambient.console := console }
    return .value (.int console.level)
  | "advance" => some do
    let ms ← (c.args.headD .null).asPosition
    modify fun s => { s with ambient.now := s.ambient.now + ms }
    return .done
  | _ => none

/-- Answers a call about setting models up, if it is one. -/
def callSetup? (r : Request) (number : Nat) : Option (Run Answer) :=
  let c := r.call
  match c.name with
  | "setup" => some (answerSetup r)
  | "client.init" => some do
    if !(← get).remote.isClient then throw noMember
    let numbers ← about r.models
    let create := (← c.bind [may "setup" (.bool false)]) "setup"
    let (_, outcome) ← setUp numbers (Setup.newLog (← get).remote.debugs) create.truthy
    return .value (← outcome)
  | "prepare" => some do
    let numbers ← about r.models
    let members ← numbers.mapM fun number => do (← get).member number
    let batches ← Setup.prepare (members.map Member.model)
    return .value (.object [("collections", .list (batches.collections.map Value.query)),
      ("indexes", .list (batches.indexes.map Value.query))])
  | "collection_query" => some do
    return .value (.query (Setup.collectionQuery (← (← get).member number).model))
  | "bound" => some do return .value (.bool (← (← get).member number).attached.bound)
  | _ => none

/-- Answers a request. -/
def answer (r : Request) : Run Answer := do
  let number ← match r.model with
    | some name => (← get).number name
    | none => pure (← get).firstNumber
  let c := r.call
  if let some c := c.within? "index." then
    return .value (← (← (← get).member number).model.indexes.answer c)
  else if let some c := c.within? "relation." then
    let s ← get
    let m ← s.member number
    let known (name : String) : Bool := s.names.has (.text name)
    let (outcome, relations) := (RelationCatalog.answer known c).perform m.relations
    changeMember number fun m => { m with relations := relations }
    return ← outcome
  else if let some c := c.within? "doc." then callDocument r.on c
  else if let some c := c.within? "registry." then callRegistry r c
  else if c.name = "unwrap" then
    match ← (← get).handle r.on with
    | .outcome o => return .value (← o.unwrap)
    | _ => throw noMember
  else if let some act := callSetup? r number then act
  else if let some act := callLog? number c then act
  else if let some act := callExecutor? c then act
  else callModel number c

/-- Answers a request and keeps the answer under the handle that the request gives. -/
def serve (r : Request) : Run Answer := do
  let answer ← answer r
  if let some name := r.keepAs then modify (·.keep name answer)
  return answer

end Session

end DocMapper
