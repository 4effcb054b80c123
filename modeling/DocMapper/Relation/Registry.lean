import DocMapper.Action
import DocMapper.Relation.Catalog
/-!
# The registry of models

Models that point to each other are made known in two phases. `Registry.register` takes models up by
name, in any order; `Registry.resolve` then binds every relation whose target is given by name.

Models are told apart by numbers: two models may have one name, but only one of them can be
registered under it.
-/

namespace DocMapper

/-- The numbers of the registered models, under their names and in order. -/
structure Registry where
  models : Dict Nat := []

namespace Registry

instance : Inhabited Registry := ⟨{}⟩

/-- The names of the registered models, in order. -/
def names (r : Registry) : List Value := r.models.keys.map Value.ofKey

/-- Registers one model. -/
def registerOne (r : Registry) (name : String) (model : Nat) : Except Fault Registry :=
  match r.models.get? name with
  | some held =>
    if held = model then .ok r
    else .error (.misconfigured "register" (.text name)
      "a different model already uses this name")
  | none => .ok { models := r.models.put name model }

/-- Registers models one after another; those before a clash stay registered. -/
def register : List (String × Nat) → Action Registry Unit
  | [] => pure ()
  | (name, model) :: rest => do
    let r ← (← get).registerOne name model
    set r
    register rest

/-- The model that is registered under a name. -/
def find (r : Registry) (name : Value) : Except Fault Registered := do
  match ← Value.find r.models name with
  | some number => return ⟨number, name.toText⟩
  | none => throw (.misconfigured "registry.get" name "no model registered under this name")

/-- What a target given by name points to: all of its names have to be registered. -/
def related (r : Registry) : Target → Except Fault Related
  | .one name => do return .model (← r.find (.text name))
  | .many names => do return .models (← names.mapM fun name => r.find (.text name))

/-- Binds one relation of a model, if its target is given by name. -/
def resolveRelation (r : Registry) (model : Nat) (name : Key) (d : RelationDefinition) :
    Action (List RelationCatalog) Unit :=
  match d.target with
  | .function _ => pure ()
  | .named target => do
    let related ← r.related target
    modify fun catalogs => catalogs.modify model (·.bind name related)

/-- Binds the relations of a model. -/
def resolveModel (r : Registry) (model : Nat) : Action (List RelationCatalog) Unit := do
  let catalogs ← get
  match catalogs[model]? with
  | some catalog => catalog.definitions.forM fun (name, d) => r.resolveRelation model name d
  | none => pure ()

/-- Binds the relations of every registered model, in order. Those bound before a fault stay
bound. -/
def resolve (r : Registry) : Action (List RelationCatalog) Unit :=
  r.models.values.forM r.resolveModel

end Registry

end DocMapper
