import DocMapper.Store.Write
/-!
# Evaluating queries

`Store.evaluate` gives the value of a query and performs its writes on the store on the way. It
follows the query: what a fault comes after has been done.

Names are looked up in a `Scope`. A function that stands where it is applied is applied as it stands.
A function that comes out of another expression is a closure. One that is made while a `let` binds
its names sees all names that the `let` has bound by the time it is applied, so these are kept in a
frame. How deeply closures may be applied within each other is bounded (`Store.depthBound`).
-/

namespace DocMapper.Store

/-- The names that are bound, and their values. -/
abbrev Bindings := Dict Value

/-- Where names are looked up: the bindings in force and, while a `let` may still add to them, the
frame that it keeps them in. -/
structure Scope where
  bindings : Bindings := []
  frame : Option Nat := none

/-- A store at work: with the frames of the `let`s that were entered, each with its bindings so
far. -/
structure Evaluation where
  store : Store
  frames : List Bindings := []

/-- An action on the store alone. -/
def within {α : Type} (action : Action Store α) : Action Evaluation α :=
  action.zoom Evaluation.store fun store e => { e with store := store }

/-- Opens a frame for a `let` over some bindings. -/
def openFrame (bindings : Bindings) : Action Evaluation Scope := do
  let e ← get
  set { e with frames := e.frames ++ [bindings] }
  return { bindings := bindings, frame := some e.frames.length }

/-- Keeps the bindings of a scope in its frame. -/
def keepFrame (scope : Scope) : Action Evaluation Unit :=
  match scope.frame with
  | some i => modify fun e => { e with frames := e.frames.set i scope.bindings }
  | none => pure ()

/-- The bindings that a closure sees: those in its frame by now, or those that it was made under. -/
def closureBindings (bindings : Bindings) (frame : Option Nat) : Action Evaluation Bindings := do
  match frame with
  | some i => return (← get).frames[i]?.getD bindings
  | none => return bindings

/-- The value of a variable. -/
def valueOfVariable (bindings : Bindings) (name : Value) : Except Fault Value := do
  match ← Value.find bindings name with
  | some v => return v
  | none => throw (.missingKey name.inspect)

/-- The scope of a function applied to an argument. -/
def bindParameter (bindings : Bindings) (parameter argument : Value) : Except Fault Scope := do
  match ← parameter.asKey with
  | some key => return { bindings := bindings.put key argument }
  | none => return { bindings := bindings }

/-- Applies a function to every element of a sequence, or of the data of a page. -/
def mapOver (apply : Value → Action Evaluation Value) (source : Value) : Action Evaluation Value :=
  match source with
  | .dict entries => do
    let items ← (← (Value.dict entries).subscript (.text "data")).items
    let results ← items.mapM apply
    return .dict (Dict.put entries "data" (.list results))
  | source => do
    let items ← source.items
    return .list (← items.mapM apply)

/-- The reference of a document, from its evaluated collection and id. -/
def makeRef (collection id : Value) : Except Fault Value :=
  let scope : Checked (Option Ref) :=
    match collection with
    | .null => .ok none
    | v => (Checked.under "collection" (Ref.read v)).map some
  Checked.orReject "Ref" ((Checked.both (Checked.under "id" id.asText) scope).map
    fun (id, collection) => .ref { id := id, collection := collection })

/-- The reference of a named thing. -/
def makeNamed (refTo : String → Ref) (name : Value) : Except Fault Value := do
  return .ref (refTo (← idFrom name))

mutual

/-- The value of an expression; `apply` applies closures. -/
def evaluateWith (apply : Value → Value → Action Evaluation Value) :
    Value → Scope → Action Evaluation Value
  | .query q, scope => evaluateQuery apply q scope
  | .list items, scope => do return .list (← evaluateList apply items scope)
  | .tuple items, scope => do return .list (← evaluateList apply items scope)
  | .dict entries, scope => do return .dict (← evaluateEntries apply entries scope)
  | .record schema fields, _ => Action.lift (Value.record schema fields).stored
  | v, _ => pure v
termination_by structural e => e

/-- The values of expressions, from first to last. -/
def evaluateList (apply : Value → Value → Action Evaluation Value) :
    List Value → Scope → Action Evaluation (List Value)
  | [], _ => pure []
  | e :: rest, scope => do
    let v ← evaluateWith apply e scope
    let vs ← evaluateList apply rest scope
    return v :: vs
termination_by structural e => e

/-- The values of the entries of a dictionary, from first to last. -/
def evaluateEntries (apply : Value → Value → Action Evaluation Value) :
    List (Key × Value) → Scope → Action Evaluation (List (Key × Value))
  | [], _ => pure []
  | (k, e) :: rest, scope => do
    let v ← evaluateWith apply e scope
    let vs ← evaluateEntries apply rest scope
    return (k, v) :: vs
termination_by structural e => e

/-- The value of an optional argument. -/
def evaluateOption (apply : Value → Value → Action Evaluation Value) (otherwise : Value) :
    Option Value → Scope → Action Evaluation Value
  | none, _ => pure otherwise
  | some e, scope => evaluateWith apply e scope
termination_by structural e => e

/-- The scope after names were bound to the values of expressions, later ones seeing earlier ones. -/
def evaluateBindings (apply : Value → Value → Action Evaluation Value) :
    List (Key × Value) → Scope → Action Evaluation Scope
  | [], scope => pure scope
  | (name, e) :: rest, scope => do
    let v ← evaluateWith apply e scope
    let extended : Scope := { scope with bindings := scope.bindings.put name v }
    keepFrame extended
    evaluateBindings apply rest extended
termination_by structural e => e

/-- The value of the last of some expressions, all of which are evaluated. -/
def evaluateLast (apply : Value → Value → Action Evaluation Value) (last : Value) :
    List Value → Scope → Action Evaluation Value
  | [], _ => pure last
  | e :: rest, scope => do
    let v ← evaluateWith apply e scope
    evaluateLast apply v rest scope
termination_by structural e => e

/-- The value of a query. -/
def evaluateQuery (apply : Value → Value → Action Evaluation Value) :
    Query → Scope → Action Evaluation Value
  | .letIn names body, scope => do
    let inner ← evaluateBindings apply names (← openFrame scope.bindings)
    evaluateWith apply body inner
  | .var name, scope => Action.lift (valueOfVariable scope.bindings name)
  | .ifElse condition consequent alternative, scope => do
    if (← evaluateWith apply condition scope).truthy then evaluateWith apply consequent scope
    else evaluateWith apply alternative scope
  | .sequence items, scope => evaluateLast apply .null items scope
  | .abort message, _ => throw (.aborted message.toText)
  | .lambda parameter body, scope =>
    pure (.closure parameter body scope.bindings scope.frame)
  | .map function source, scope =>
    match function with
    | .query (.lambda parameter body) => do
      let source ← evaluateWith apply source scope
      mapOver (fun v => do
        evaluateWith apply body (← bindParameter scope.bindings parameter v)) source
    | function => do
      let function ← evaluateWith apply function scope
      let source ← evaluateWith apply source scope
      mapOver (apply function) source
  | .select path source fallback, scope => do
    match select? (← evaluateWith apply source scope) path with
    | some v => return v
    | none =>
      match fallback with
      | some e => evaluateWith apply e scope
      | none => throw (pathMissing path)
  | .database name, _ => Action.lift (makeNamed databaseRef name)
  | .collection name _, scope => do
    makeNamed collectionRef (← evaluateWith apply name scope)
  | .index name _, scope => do
    makeNamed indexRef (← evaluateWith apply name scope)
  | .ref collection id, scope => do
    let id ← evaluateWith apply id scope
    let collection ← evaluateWith apply collection scope
    makeRef collection id
  | .documents collection, scope => do
    let name ← IndexParams.idOf (← evaluateWith apply collection scope)
    return .rows ((← get).store.documents name |>.values.map fun doc => .ref doc.ref)
  | .present target, scope => do
    let target ← evaluateWith apply target scope
    return .bool (← (← get).store.exists? target)
  | .get target, scope => do
    let target ← evaluateWith apply target scope
    (← get).store.fetch target
  | .matching index terms, scope => do
    let index ← evaluateWith apply index scope
    let params ← (← get).store.index index
    let terms ← evaluateOption apply .null terms scope
    return .rows (← (← get).store.entriesOf params terms)
  | .paginate source size after before, scope => do
    let source ← evaluateWith apply source scope
    if !isSet source then throw noMember
    let size ← evaluateOption apply (.int 64) size scope
    let after ← evaluateOption apply .null after scope
    let before ← evaluateOption apply .null before scope
    page source size after before
  | .count target, scope => do
    count (← evaluateWith apply target scope)
  | .create collection params, scope => do
    let collection ← evaluateWith apply collection scope
    let params ← evaluateEntries apply params scope
    within (create collection (.dict params))
  | .update target params, scope => do
    let target ← evaluateWith apply target scope
    let params ← evaluateEntries apply params scope
    within (update target (.dict params))
  | .replace target params, scope => do
    let target ← evaluateWith apply target scope
    let params ← evaluateEntries apply params scope
    within (replace target (.dict params))
  | .delete target, scope => do
    let target ← evaluateWith apply target scope
    within (delete target)
  | .createCollection params, scope => do
    let params ← evaluateEntries apply params scope
    within (createCollection (.dict params))
  | .createIndex params, scope => do
    let params ← evaluateEntries apply params scope
    within (createIndex (.dict params))
termination_by structural e => e

end

/-- How deeply closures may be applied within each other. -/
def depthBound : Nat := 200

/-- Applies a closure, up to a depth. -/
def applyClosure : Nat → Value → Value → Action Evaluation Value
  | 0, _, _ => throw (.misuse .tooDeep)
  | depth + 1, .closure parameter body bindings frame, argument => do
    let bindings ← closureBindings bindings frame
    evaluateWith (applyClosure depth) body (← bindParameter bindings parameter argument)
  | _ + 1, _, _ => throw noMember

/-- The value of an expression, in which no names are bound. -/
def evaluate (e : Value) : Action Store Value :=
  Action.of fun s =>
    let (outcome, e) := (evaluateWith (applyClosure depthBound) e {}).perform { store := s }
    (outcome, e.store)

end DocMapper.Store
