import DocMapper.Proofs.Model.Edits
/-!
# Runs of edits

A run is a sequence of edits over one store, each by a model of its own at a desk of its own and at
any reading of the clock (`Model.Run`). Edits may fail or end midway; the next one finds the store as
they have left it. A document that an edit goes by may have been read at any time, and from any data.

What each edit keeps, a run keeps (`Model.Run.keeps`).
-/

namespace DocMapper.Model

open Store

/-- An edit of a model at a desk. -/
structure Step where
  model : Model
  desk : Desk Memory
  edit : Edit

namespace Step

/-- The store that a step finds. -/
def before (step : Step) : Store := step.desk.remote.store

/-- The store that a step leaves. -/
def after (step : Step) : Store := step.edit.storeAfter step.model step.desk

end Step

/-- The stores that steps come through, from the start on. -/
def stores (start : Store) (steps : List Step) : List Store := start :: steps.map Step.after

/-- The store that steps end with. -/
def lastStore (start : Store) (steps : List Step) : Store :=
  (steps.getLast?.map Step.after).getD start

/-- The document is what the model has read data as. -/
def Opens (m : Model) (doc : Document) : Prop :=
  ∃ now stored, stored.data.IsData ∧ m.opening now stored = .ok doc

/-- Steps that follow one another from a store on, with data. -/
inductive Run (start : Store) : List Step → Prop
  | nil : Run start []
  | snoc {steps : List Step} {step : Step} (run : Run start steps) (ready : step.desk.Ready)
      (store : step.before = lastStore start steps) (data : step.edit.IsData)
      (handle : ∀ doc, step.edit.handle? = some doc → step.model.Opens doc) :
      Run start (steps ++ [step])

variable {start : Store} {steps : List Step} {P : Store → Prop}

theorem lastStore_mem (start : Store) (steps : List Step) :
    lastStore start steps ∈ stores start steps := by
  rw [lastStore, stores]
  cases h : steps.getLast? with
  | none => exact List.mem_cons_self
  | some step =>
    exact List.mem_cons_of_mem _ (List.mem_map_of_mem (List.mem_of_getLast? h))

/-- The steps of a run are given data. -/
theorem Run.isData (hrun : Run start steps) : ∀ step ∈ steps, step.edit.IsData := by
  induction hrun with
  | nil => simp
  | snoc run ready store data handle ih =>
    intro step hstep
    rcases List.mem_append.1 hstep with hstep | hstep
    · exact ih step hstep
    · exact List.mem_singleton.1 hstep ▸ data

/-- **What every step keeps, a run keeps.** -/
theorem Run.keeps (hrun : Run start steps) (hstart : P start)
    (hstep : ∀ step ∈ steps, step.desk.Ready → step.edit.IsData →
      (∀ doc, step.edit.handle? = some doc → step.model.Opens doc) → P step.before →
      P step.after) : ∀ s ∈ stores start steps, P s := by
  induction hrun with
  | nil => simpa [stores] using hstart
  | @snoc steps step run ready store data handle ih =>
    have hall := ih fun step hmem => hstep step (List.mem_append_left _ hmem)
    have hlast : P step.before := store ▸ hall _ (lastStore_mem start steps)
    have hafter := hstep step (by simp) ready data handle hlast
    intro s hs
    rw [stores, List.map_append, ← List.cons_append, List.mem_append] at hs
    rcases hs with hs | hs
    · exact hall s hs
    · rw [List.map_singleton, List.mem_singleton] at hs
      exact hs ▸ hafter

/-- **What every change that an edit involves keeps, the edit keeps.** -/
theorem Edit.storeAfter_keeps {m : Model} {desk : Desk Memory} {edit : Edit} (h : desk.Ready)
    (hedit : edit.IsData)
    (hkeep : ∀ change, edit.Involves m desk.logging.ambient.now change → ∀ s, P s →
      P (change.apply.perform s).2) (hs : P desk.remote.store) : P (edit.storeAfter m desk) := by
  obtain ⟨changes, hinvolves, out, calls, hruns, -⟩ := exists_changes (m := m) h hedit
  rw [storeAfter, hruns.store_eq]
  exact Change.keeps_mapM (fun change hchange => hkeep change (hinvolves change hchange)) hs

/-! ## Edits of one model -/

/-- A desk of a model over a store. -/
def deskOver (m : Model) (s : Store) : Desk Memory where
  remote := { store := s }
  bound := true
  logging := ⟨m.newLog, {}⟩

@[simp] theorem deskOver_store (m : Model) (s : Store) : (m.deskOver s).remote.store = s := rfl

theorem deskOver_ready (m : Model) (s : Store) : (m.deskOver s).Ready := ⟨rfl, _, rfl⟩

/-- Edits of a model one after another, from a store on. -/
def following (m : Model) : Store → List Edit → List Step
  | _, [] => []
  | s, edit :: rest =>
    let step : Step := { model := m, desk := m.deskOver s, edit := edit }
    step :: m.following step.after rest

theorem model_of_following {m : Model} {s : Store} {edits : List Edit} :
    ∀ step ∈ m.following s edits, step.model = m := by
  induction edits generalizing s with
  | nil => simp [following]
  | cons edit rest ih => exact List.forall_mem_cons.2 ⟨rfl, ih⟩

/-- **Edits that follow a run** go on with it, as long as they need no document. -/
theorem Run.follow {m : Model} {s : Store} {edits : List Edit} (hrun : Run start steps)
    (hlast : lastStore start steps = s) (hdata : ∀ edit ∈ edits, edit.IsData)
    (hhandle : ∀ edit ∈ edits, edit.handle? = none) :
    Run start (steps ++ m.following s edits) := by
  induction edits generalizing steps s with
  | nil => simpa [following] using hrun
  | cons edit rest ih =>
    obtain ⟨hedit, hrest⟩ := List.forall_mem_cons.1 hdata
    obtain ⟨hnone, hhandles⟩ := List.forall_mem_cons.1 hhandle
    let step : Step := { model := m, desk := m.deskOver s, edit := edit }
    have hstep : Run start (steps ++ [step]) :=
      .snoc hrun (m.deskOver_ready s) hlast.symm hedit fun doc hdoc => by
        cases hnone.symm.trans hdoc
    have hafter : lastStore start (steps ++ [step]) = step.after := by simp [lastStore]
    have hfollow := ih hstep hafter hrest hhandles
    rwa [List.append_assoc] at hfollow

theorem run_following {m : Model} {s : Store} {edits : List Edit}
    (hdata : ∀ edit ∈ edits, edit.IsData) (hhandle : ∀ edit ∈ edits, edit.handle? = none) :
    Run s (m.following s edits) := by
  have hnil : Run s [] := .nil
  exact hnil.follow rfl hdata hhandle

end DocMapper.Model
