import DocMapper.Execution.Executor
import DocMapper.Store.Evaluate
/-!
# The executor in memory

The executor in memory evaluates queries over a store that it holds; any other value stands for
itself, with what is evaluated inside it. It keeps what it received since it was last asked for that,
and when each of these was submitted and resolved.
-/

namespace DocMapper

/-- Something that happened to what was received under a number. -/
inductive Event
  | submitted (number : Nat)
  | resolved (number : Nat)
  deriving DecidableEq

/-- A store, and the record of the queries that were run over it. -/
structure Memory where
  store : Store := {}
  /-- what was received since it was last asked for, in order -/
  calls : List Value := []
  events : List Event := []

instance : Inhabited Memory := ⟨{}⟩

namespace Memory

/-- An action on the store. -/
def onStore {α : Type} (action : Action Store α) : Action Memory α :=
  action.zoom Memory.store fun store m => { m with store := store }

/-- Takes a value in and gives it its number. -/
def submit (e : Value) : Action Memory Nat := do
  let m ← get
  let number := m.calls.length + 1
  set { m with calls := m.calls ++ [e], events := m.events ++ [Event.submitted number] }
  return number

/-- Evaluates a value. -/
def run (e : Value) : Action Memory Value := do
  let number ← submit e
  let v ← onStore (Store.evaluate e)
  modify fun m => { m with events := m.events ++ [Event.resolved number] }
  return v

/-- The metrics of every run. -/
def metrics : Dict Value :=
  [(.text "x-compute-ops", .text "1"), (.text "x-read-ops", .text "1")]

/-- The executor in memory. -/
def executor : Executor Memory where
  query q _ := run (.query q)
  queryWithMetrics q _ := do return (← run (.query q), metrics)

end Memory

end DocMapper
