import DocMapper.Execution.Exchange
import DocMapper.Model
import DocMapper.Path
/-!
# Calls

A call asks for an operation by its name and brings arguments, by position and by name. `Call.bind`
lays the arguments over the parameters of the operation: those by position come first, each other
one is taken by its name or from the parameter's default, and an argument too many or too few is
refused.

An `Answer` is what a call comes to.
-/

namespace DocMapper

/-- An operation by its name, and its arguments. -/
structure Call where
  name : String
  args : List Value := []
  /-- the arguments given by name -/
  named : List (String × Value) := []

/-- A parameter: its name, and its default unless it has to be given. -/
abbrev Parameter := String × Option Value

/-- What a call comes to. Documents name their model by its number. -/
inductive Answer
  | value (v : Value)
  | entry (e : LogEntry)
  | entries (es : List LogEntry)
  | document (model : Nat) (doc : Document)
  | documents (model : Nat) (docs : List Document)
  | page (model : Nat) (page : Page)
  | outcome (o : Outcome)
  | models (target : Target)

/-- A parameter that has to be given. -/
def need (name : String) : Parameter := (name, none)

/-- A parameter with a default. -/
def may (name : String) (fallback : Value) : Parameter := (name, some fallback)

/-- A list of texts as a value. -/
def Value.ofTexts (texts : List String) : Value := .list (texts.map Value.text)

namespace Answer

/-- The answer of a call that has nothing to tell. -/
def done : Answer := .value .null

/-- The answer of a document that may be missing. -/
def maybe (model : Nat) : Option Document → Answer
  | some doc => .document model doc
  | none => done

/-- The value that stands for an answer, in which the models have names. -/
def toValue (nameOf : Nat → String) : Answer → Value
  | .value v => v
  | .entry e => e.toValue
  | .entries es => .list (es.map LogEntry.toValue)
  | .document model doc => documentValue model doc
  | .documents model docs => .list (docs.map (documentValue model))
  | .page model p =>
    .record "Page" [("data", .list (p.documents.map (documentValue model))), ("after", p.after),
      ("before", p.before)]
  | .outcome o => .foreign (.outcome o.shown)
  | .models (.one name) => .foreign (.model name)
  | .models (.many names) => .list (names.map fun name => .foreign (.model name))
where
  documentValue (model : Nat) (doc : Document) : Value :=
    .foreign (.document (nameOf model) doc.id)

end Answer

namespace Call

/-- The value of a parameter that no argument by position reaches. -/
def argument (c : Call) (p : Parameter) : Except Fault (String × Value) :=
  match c.named.lookup p.1, p.2 with
  | some v, _ => .ok (p.1, v)
  | none, some v => .ok (p.1, v)
  | none, none => .error wrongKind

/-- The value of each parameter. -/
def bind (c : Call) (parameters : List Parameter) : Except Fault (String → Value) := do
  if parameters.length < c.args.length then throw wrongKind
  let rest := parameters.drop c.args.length
  if c.named.any fun (name, _) => rest.all fun p => p.1 ≠ name then throw wrongKind
  let byName ← rest.mapM c.argument
  let byPosition := (parameters.zip c.args).map fun (p, v) => (p.1, v)
  return fun name => ((byPosition ++ byName).lookup name).getD .null

/-- The value of the only parameter. -/
def only (c : Call) (name : String) : Except Fault Value := do
  return (← c.bind [need name]) name

/-- Why there is no such call on a thing with some members: one that it has cannot be called, and any
other is not there. -/
def refusal (c : Call) (members : List String) : Fault :=
  if members.contains c.name then wrongKind else noMember

/-- What follows a word at the head of the call's name, if the name begins with it. -/
def within? (c : Call) (head : String) : Option Call :=
  if c.name.startsWith head then
    some { c with name := String.ofList (c.name.toList.drop head.length) }
  else none

end Call

end DocMapper
