import DocMapper.Log
/-!
# Executors

An executor runs queries over a state of its own, alone or together with some metrics of the run.
A `Desk` is where the operations of one model are at work: the executor's state, the model's log,
and whether the model has been given an executor at all.
-/

namespace DocMapper

/-- Something that runs queries. -/
structure Executor (σ : Type) where
  /-- runs a query, with options for the way it is sent -/
  query : Query → Value → Action σ Value
  /-- runs a query and reports metrics -/
  queryWithMetrics : Query → Value → Action σ (Value × Dict Value)

/-- The state that the operations of a model work on. -/
structure Desk (σ : Type) where
  remote : σ
  /-- whether the model has an executor -/
  bound : Bool
  logging : Logging

/-- An operation of a model. -/
abbrev Op (σ α : Type) := Action (Desk σ) α

namespace Op

variable {σ α : Type}

/-- An action of the executor. -/
def onRemote (action : Action σ α) : Op σ α :=
  action.zoom Desk.remote fun remote desk => { desk with remote := remote }

/-- An action on the log. -/
def onLog (action : Action Logging α) : Op σ α :=
  action.zoom Desk.logging fun logging desk => { desk with logging := logging }

/-- The reading of the clock. -/
def now : Op σ Int := do return (← get).logging.ambient.now

end Op

end DocMapper
