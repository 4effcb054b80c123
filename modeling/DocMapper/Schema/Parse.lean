import DocMapper.Schema.Validate
/-!
# Building instances

`Schema.parse` turns an input into an instance of the schema, or fails with all flaws of the input
under the name of the operation. An instance of the schema itself is taken apart into plain data
and built anew.

`Schema.parseBulk` does the same for the elements of a sequence: it yields all instances, or the
flaws of all elements, each located by the position of its element.
-/

namespace DocMapper.Schema

/-- The plain data of an instance of the schema; every other input as it is. -/
def plain (s : Schema) (v : Value) : Value := if v.isInstance s.signature then v.dump else v

/-- The outcome of a check as that of an operation, which has a name of its own if none is given. -/
def concluded {α : Type} (operation : Value) (otherwise : String) (target : Value)
    (outcome : Checked α) : Except Fault α :=
  let operation := if operation.truthy then operation else .text otherwise
  outcome.mapError (Refusal.toFault fun flaws =>
    .invalid operation (flaws.map Flaw.toNamedIssue) target)

/-- Builds an instance. -/
def parse (s : Schema) (now : Int) (input operation target : Value) : Except Fault Value :=
  concluded operation ("parse:" ++ s.name) target (s.check now (s.plain input))

/-- Checks the elements of a sequence, each at its position. -/
def checkAll (s : Schema) (now : Int) (items : List Value) : Checked (List Value) :=
  Checked.all (items.mapIdx fun i v => Checked.under (toString i) (s.check now (s.plain v)))

/-- Builds an instance from each element of a sequence. -/
def parseBulk (s : Schema) (now : Int) (input operation target : Value) :
    Except Fault (List Value) := do
  let items ← input.items
  concluded operation ("parse_bulk:" ++ s.name) target (s.checkAll now items)

end DocMapper.Schema
