import DocMapper.Execution.Executor
/-!
# The executor with prepared replies

The executor with prepared replies gives them one after another, whatever it is sent, and fails when
there are none left.
-/

namespace DocMapper

/-- The replies that are left, and what was received since it was last asked for. -/
structure Script where
  replies : List (Except Fault Value)
  calls : List Value := []

namespace Script

/-- The fault when no reply is left. -/
def exhausted : Fault := .remote none "no more responses"

/-- Gives the next reply. -/
def run (e : Value) : Action Script Value := do
  let s ← get
  match s.replies with
  | [] =>
    set { s with calls := s.calls ++ [e] }
    throw exhausted
  | reply :: rest =>
    set { s with replies := rest, calls := s.calls ++ [e] }
    reply

/-- The metrics of every run. -/
def metrics : Dict Value := [(.text "x-compute-ops", .text "1")]

/-- The executor with prepared replies. -/
def executor : Executor Script where
  query q _ := run (.query q)
  queryWithMetrics q _ := do return (← run (.query q), metrics)

end Script

end DocMapper
