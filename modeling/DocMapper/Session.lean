import DocMapper.Call
import DocMapper.Execution.Remote
import DocMapper.Relation.Registry
import DocMapper.Setup
/-!
# Sessions

A session is some models at work together: the executor behind them, a registry, and answers that
were kept under handles for later calls; a document that was kept stays at hand until there is
another one under its handle. The models are told apart by their numbers; the names that the session
began with stand for the first ones, a repeated name for the last model of that name.

`Session.performOp` performs an operation of a model, with that model's own log.
-/

namespace DocMapper

/-- A model of a session, with its relations. -/
structure Member where
  attached : Attached
  relations : RelationCatalog

/-- Models at work together. -/
structure Session where
  members : List Member
  /-- the numbers of the models that have names here -/
  names : Dict Nat
  remote : Remote
  ambient : Ambient
  /-- the kept answers, the latest first -/
  handles : List (String × Answer) := []
  /-- the kept documents with the numbers of their models, the latest first -/
  keptDocuments : List (String × Nat × Document) := []
  registry : Registry := {}
  /-- the log of the latest setting up -/
  setupLog : Option Log := none

/-- An action in a session. -/
abbrev Run (α : Type) := Action Session α

namespace Member

/-- A new model, which has no executor yet. -/
def declare (name : String) (schema : Schema) (indexes : IndexCatalog)
    (relations : RelationCatalog) : Except Fault Member := do
  let model ← Model.declare name schema indexes
  return { attached := { model := model, log := model.newLog }, relations := relations }

/-- The model itself. -/
def model (m : Member) : Model := m.attached.model

end Member

namespace Session

/-- A session with some models, all of them with the executor or without it. -/
def begin (members : List Member) (bound : Bool) (remote : Remote) (ambient : Ambient) :
    Session where
  members := members.map fun m => { m with attached.bound := bound }
  names := Dict.ofEntries (members.mapIdx fun i m => (.text m.model.name, i))
  remote := remote
  ambient := ambient

/-- The fault when nothing fitting is kept under a handle. -/
def noHandle : Fault := .remote (some "NoHandle") ""

/-- The answer that is kept under a handle. -/
def handle (s : Session) (name : String) : Except Fault Answer :=
  match s.handles.lookup name with
  | some answer => .ok answer
  | none => .error noHandle

/-- The document that is kept under a handle, with the number of its model. -/
def document (s : Session) (name : String) : Except Fault (Nat × Document) :=
  match s.keptDocuments.lookup name with
  | some kept => .ok kept
  | none => .error noHandle

/-- The session with an answer kept under a handle. -/
def keep (s : Session) (name : String) (answer : Answer) : Session :=
  let s := { s with handles := (name, answer) :: s.handles }
  match answer with
  | .document number doc => { s with keptDocuments := (name, number, doc) :: s.keptDocuments }
  | _ => s

/-! ## Models -/

/-- The number of a model that has a name here. -/
def number (s : Session) (name : String) : Except Fault Nat :=
  match s.names.get? (.text name) with
  | some n => .ok n
  | none => .error (.missingKey (Text.quoted name))

/-- The number of the first model; no model has it if there are none. -/
def firstNumber (s : Session) : Nat := s.names.values.headD s.members.length

/-- The model of a number. -/
def member (s : Session) (number : Nat) : Except Fault Member :=
  match s.members[number]? with
  | some m => .ok m
  | none => .error noMember

/-- The value that stands for the answer under a handle. -/
def savedValue (s : Session) (name : String) : Except Fault Value := do
  let answer ← s.handle name
  return answer.toValue fun number => s.members[number]?.elim "" fun m => m.model.name

/-- Changes the model of a number. -/
def changeMember (number : Nat) (change : Member → Member) : Run Unit :=
  modify fun s => { s with members := s.members.modify number change }

/-- Takes a new model in and gives it its number. -/
def takeIn (m : Member) : Run Nat := do
  let s ← get
  set { s with members := s.members ++ [m] }
  return s.members.length

/-! ## Actions on parts -/

/-- An action of the executor. -/
def onRemote {α : Type} (action : Action Remote α) : Run α :=
  action.zoom Session.remote fun remote s => { s with remote := remote }

/-- An action on the store of the executor in memory. -/
def onStore {α : Type} (action : Action Store α) : Run α :=
  onRemote (Remote.inMemory (Memory.onStore action))

/-- The desk at which a model works. -/
def desk (s : Session) (m : Member) : Desk Remote :=
  { remote := s.remote, bound := m.attached.bound, logging := ⟨m.attached.log, s.ambient⟩ }

/-- Performs an operation of a model. -/
def performOp {α : Type} (number : Nat) (op : Model → Op Remote α) : Run α := do
  let s ← get
  let m ← s.member number
  let (outcome, desk) := (op m.model).perform (s.desk m)
  set { s with remote := desk.remote, ambient := desk.logging.ambient }
  changeMember number fun m => { m with attached.log := desk.logging.log }
  outcome

/-- Shows what the executor received, which it then forgets. -/
def showReceived : Run (List Value) := do
  let s ← get
  let received ← s.remote.received
  set { s with remote := s.remote.forgotten }
  return received

end Session

end DocMapper
