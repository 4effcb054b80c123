import DocMapper.Fault
/-!
# Actions

An action reads and changes a state and either gives a result or stops with a fault. What it changed
before a fault stays changed.

Main statements: `Action.perform_bind` says that what follows an action starts from the state that
the action leaves, and is not performed at all after a fault; the other lemmas say the same of each
basic action.
-/

namespace DocMapper

/-- A computation over a state that may stop with a fault; its effects stay either way. -/
abbrev Action (σ α : Type) := ExceptT Fault (StateM σ) α

namespace Action

variable {σ τ α β : Type}

/-- Performs an action: the outcome, and the state that it leaves. -/
def perform (action : Action σ α) (s : σ) : Except Fault α × σ := StateT.run (ExceptT.run action) s

/-- The action that a function from a state to an outcome and a state is. -/
def of (f : σ → Except Fault α × σ) : Action σ α := ExceptT.mk f

@[simp] theorem perform_of (f : σ → Except Fault α × σ) (s : σ) : perform (of f) s = f s := rfl

@[simp] theorem perform_pure (a : α) (s : σ) :
    perform (pure a : Action σ α) s = (.ok a, s) := rfl

theorem perform_bind (action : Action σ α) (next : α → Action σ β) (s : σ) :
    perform (action >>= next) s =
      match perform action s with
      | (.ok a, s) => perform (next a) s
      | (.error fault, s) => (.error fault, s) := by
  simp only [perform, ExceptT.run, StateT.run, bind, ExceptT.bind, ExceptT.mk, StateT.bind,
    ExceptT.bindCont]
  cases action s with
  | mk outcome s => cases outcome <;> rfl

@[simp] theorem perform_get (s : σ) : perform (get : Action σ σ) s = (.ok s, s) := rfl

@[simp] theorem perform_set (s t : σ) : perform (set t : Action σ PUnit) s = (.ok ⟨⟩, t) := rfl

@[simp] theorem perform_modify (f : σ → σ) (s : σ) :
    perform (modify f : Action σ PUnit) s = (.ok ⟨⟩, f s) := rfl

@[simp] theorem perform_throw (fault : Fault) (s : σ) :
    perform (throw fault : Action σ α) s = (.error fault, s) := rfl

/-- The action of a computation without effects. -/
def lift (r : Except Fault α) : Action σ α := of fun s => (r, s)

instance : MonadLift (Except Fault) (Action σ) := ⟨lift⟩

@[simp] theorem perform_lift (r : Except Fault α) (s : σ) : perform (lift r) s = (r, s) := rfl

/-- Runs an action on a part of a larger state. -/
def zoom (get : τ → σ) (set : σ → τ → τ) (action : Action σ α) : Action τ α :=
  of fun t =>
    let (outcome, s) := action.perform (get t)
    (outcome, set s t)

@[simp] theorem perform_zoom (get : τ → σ) (set : σ → τ → τ) (action : Action σ α) (t : τ) :
    perform (action.zoom get set) t =
      ((perform action (get t)).1, set (perform action (get t)).2 t) := rfl

/-- The outcome of an action as a value, so that a fault can be handled. -/
def attempt (action : Action σ α) : Action σ (Except Fault α) :=
  of fun s =>
    let (outcome, s) := action.perform s
    (.ok outcome, s)

@[simp] theorem perform_attempt (action : Action σ α) (s : σ) :
    perform action.attempt s = (.ok (perform action s).1, (perform action s).2) := rfl

end Action

end DocMapper
