import DocMapper.Execution.Exchange
import DocMapper.Model.Queries
/-!
# Setting models up

`Setup.run` gives models their executor and, if asked to, creates their collections and then their
indexes: two batches, each a single query that runs creations in order. Every creation is guarded by
a look whether the thing exists, so setting up again changes nothing. The second batch is run only
after the first has succeeded, since an index needs the collection it is over.
-/

namespace DocMapper

/-- A model, and what changes about it while a program runs. -/
structure Attached where
  model : Model
  /-- whether the model has an executor -/
  bound : Bool := false
  log : Log

/-- The state that setting up works on. -/
structure SetupState (σ : Type) where
  remote : σ
  logging : Logging
  members : List Attached

/-- The two batches of creations. -/
structure Batches where
  collections : List Query
  indexes : List Query

/-- What setting up came to. -/
structure SetupSummary where
  models : List String
  collections : Value := .null
  indexes : Value := .null

namespace SetupSummary

/-- The value that stands for a summary. -/
def toValue (s : SetupSummary) : Value :=
  .object [("models", .list (s.models.map Value.text)), ("collections", s.collections),
    ("indexes", s.indexes)]

end SetupSummary

namespace Setup

variable {σ : Type}

/-- The creation of a model's collection unless it exists. -/
def collectionQuery (m : Model) : Query :=
  .binding [
    ("name", .text m.name),
    ("exists", .query (.present (.query (.collection (Query.named "name") none)))),
    ("created_model", .query (.ifElse (Query.named "exists") .null
      (.query m.createCollectionQuery)))]
    (Query.named "created_model")

/-- The creations of the indexes of some models. -/
def indexQueries (models : List Model) : Except Fault (List Query) := do
  return (← models.mapM fun m => m.indexes.creations (.query m.collection)).flatten

/-- Both batches for some models. -/
def prepare (models : List Model) : Except Fault Batches := do
  return { collections := models.map collectionQuery, indexes := ← indexQueries models }

/-- A log for setting up. -/
def newLog (echo : Bool) : Log := { action := "docmodel:setup", echo := echo }

/-- An action on the log. -/
def onLog {α : Type} (action : Action Logging α) : Action (SetupState σ) α :=
  action.zoom SetupState.logging fun logging s => { s with logging := logging }

/-- An action of the executor. -/
def onRemote {α : Type} (action : Action σ α) : Action (SetupState σ) α :=
  action.zoom SetupState.remote fun remote s => { s with remote := remote }

/-- Gives a model its executor. -/
def attach (echo : Bool) (a : Attached) : Attached :=
  { a with bound := true, log := { a.log with echo := echo } }

/-- The names of models as a value. -/
def namesValue (names : List String) : Value := .list (names.map Value.text)

/-- Runs one batch as a single query. -/
def runBatch (ex : Executor σ) (operation : String) (queries : List Query) (names : List String) :
    Action (SetupState σ) Value := do
  let q ← Query.inOrder (queries.map Value.query)
  let wire ← q.wire
  onLog (Log.add .debug
    ("Running " ++ operation ++ " with " ++ toString queries.length ++ " queries")
    (.object [("operation", .text operation), ("raw_query", wire.toValue)]))
  let span ← onLog (Log.beginSpan operation (.object [("models", namesValue names)]))
  match ← onRemote (ex.query q (.dict [])).attempt with
  | .error cause =>
    onLog (Log.add .error (operation ++ " failed")
      (.object [("operation", .text operation), ("models", namesValue names),
        ("error", .text cause.text)]))
    onLog (Log.endSpan span)
    throw (.transport operation cause.text (namesValue names) (some cause) .null (.list [])
      true)
  | .ok v =>
    onLog (Log.endSpan span)
    onLog (Log.add .debug (operation ++ " done")
      (.object [("operation", .text operation), ("response", .text v.inspect)]))
    return v

/-- Adds an entry about the models to the log. -/
def note (message : String) (names : List String) : Action (SetupState σ) Unit :=
  onLog (Log.add .info message (.object [("models", namesValue names)]))

/-- Creates what the models need. -/
def provision (ex : Executor σ) (models : List Model) (names : List String) :
    Action (SetupState σ) SetupSummary := do
  let batches ← prepare models
  note ("Prepared " ++ toString batches.collections.length ++ " collection queries and "
    ++ toString batches.indexes.length ++ " index queries") names
  let collections ← runBatch ex "setup:collections" batches.collections names
  let indexes ← if batches.indexes.isEmpty then pure .null
    else runBatch ex "setup:indexes" batches.indexes names
  note "Setup done" names
  return { models := names, collections := collections, indexes := indexes }

/-- Gives the models their executor, and creates what they need if asked to. -/
def run (ex : Executor σ) (echo create : Bool) : Action (SetupState σ) SetupSummary := do
  modify fun s => { s with members := s.members.map (attach echo) }
  let models := (← get).members.map Attached.model
  let names := models.map Model.name
  if create && !models.isEmpty then provision ex models names
  else
    note "Bound models without provisioning" names
    return { models := names }

end Setup

end DocMapper
