import DocMapper.Proofs.Query.Yields
import DocMapper.Proofs.Store.Moves
/-!
# What expressions assign

A passive expression gives out neither ids nor times (`Store.idle_evaluate`). An
operation that creates a document or writes to one gives out a time if it comes to the document, and
nothing if it comes to nothing or fails (`Store.Gives`).
-/

namespace DocMapper.Store

open Action Model
open Query (named)

variable {s t u : Store} {ids times : Nat} {α : Type}
  {apply : Value → Value → Action Evaluation Value}

/-! ## Passive expressions -/

/-- A passive effect leaves the counters alone. -/
theorem keptBy_of_isPassive {effect : Effect} (h : effect.isPassive = true) :
    KeptBy (Advanced s ids times) apply effect := by
  cases effect with
  | delete =>
    intro target t ht
    unfold delete
    rw [perform_bind, perform_get]
    exact snd_lift_bind ht fun doc _ => snd_lift_bind ht fun place _ => ⟨ht.lastId, ht.clock⟩
  | createCollection =>
    intro params t ht
    rcases createCollection_cases params t with heq | ⟨key, -, heq⟩
    · rw [heq]
      exact ht
    · rw [heq]
      exact ⟨ht.lastId, ht.clock⟩
  | createIndex =>
    intro params t ht
    rcases createIndex_cases params t with heq | ⟨key, entries, -, heq⟩
    · rw [heq]
      exact ht
    · rw [heq]
      exact ⟨ht.lastId, ht.clock⟩
  | create | update | replace | apply => cases h

/-- An action that gives nothing out, however it ends. -/
def Idle (action : Action Evaluation α) : Prop :=
  ∀ e, Advanced e.store 0 0 (action.perform e).2.store

theorem Idle.of_keeps {action : Action Evaluation α} (h : ∀ s, Keeps (Advanced s 0 0) action) :
    Idle action := fun e => (h e.store e (Advanced.refl _)).1

/-- **A passive expression gives nothing out.** -/
theorem idle_evaluate {e : Value} (h : e.IsPassive) (scope : Scope) :
    Idle (evaluateWith apply e scope) :=
  Idle.of_keeps fun _ => keeps_evaluateWith e scope fun effect heffect =>
    keptBy_of_isPassive (h effect heffect)

theorem idle_evaluateEntries {entries : List (Key × Value)} (h : (Value.dict entries).IsPassive)
    (scope : Scope) : Idle (evaluateEntries apply entries scope) :=
  Idle.of_keeps fun _ => keeps_evaluateEntries entries scope fun effect heffect =>
    keptBy_of_isPassive (h effect heffect)

theorem idle_keepFrame (scope : Scope) : Idle (keepFrame scope) :=
  Idle.of_keeps fun _ => Keeps.keepFrame scope

theorem idle_openFrame (b : Bindings) : Idle (openFrame b) := fun e => Advanced.refl e.store

/-! ## One document -/

/-- What an operation on one document gives out: if it comes to a document, a time for the document,
and nothing otherwise. -/
inductive Gives (ids : Nat) (s : Store) : Except Fault Value → Store → Prop
  | failed {t : Store} (fault : Fault) (h : Advanced s 0 0 t) : Gives ids s (.error fault) t
  | nothing {t : Store} (h : Advanced s 0 0 t) : Gives ids s (.ok .null) t
  | document {t : Store} {c i : String} {doc : StoredDocument} (find : t.find c i = some doc)
      (ts : doc.ts = t.clock) (h : Advanced s ids 1 t) : Gives ids s (.ok (.dict doc.members)) t

theorem Gives.after {out : Except Fault Value} (h : Advanced s 0 0 t) (h' : Gives ids t out u) :
    Gives ids s out u := by
  cases h' with
  | failed fault h' => exact .failed fault (h.after h')
  | nothing h' => exact .nothing (h.after h')
  | document find ts h' => exact .document find ts (h.after h')

/-- What an action on a store gives out. -/
def GivesOn (ids : Nat) (action : Action Store Value) : Prop :=
  ∀ s, Gives ids s (action.perform s).1 (action.perform s).2

theorem gives_lift_bind {r : Except Fault α} {next : α → Action Store Value}
    (hnext : ∀ a, r = .ok a → Gives ids s ((next a).perform s).1 ((next a).perform s).2) :
    Gives ids s ((liftM r >>= next : Action Store Value).perform s).1
      ((liftM r >>= next : Action Store Value).perform s).2 := by
  rw [perform_bind, perform_liftM]
  cases hr : r with
  | error fault => exact .failed fault (Advanced.refl s)
  | ok a => exact hnext a hr

/-- **A creation gives out an id and a time**, unless it fails. -/
theorem givesOn_create (collection params : Value) : GivesOn 1 (create collection params) := by
  intro s
  unfold create
  rw [perform_bind, perform_get]
  refine gives_lift_bind fun name _ => ?_
  by_cases hhas : s.collections.has (.text name) = true
  · simp only [hhas, Bool.not_true, Bool.false_eq_true, if_false]
    refine gives_lift_bind fun data _ => ?_
    refine gives_lift_bind fun _ _ => ?_
    refine gives_lift_bind fun entries _ => ?_
    exact .document (find_insert_self s name data _) rfl ⟨rfl, rfl⟩
  · simp only [hhas, Bool.not_false, if_true]
    exact .failed _ (Advanced.refl s)

/-- **A write gives out a time**, unless it fails. -/
theorem givesOn_write (target : Value) (newData : Value → Value) :
    GivesOn 0 (write target newData) := by
  intro s
  unfold write
  rw [perform_bind, perform_get]
  refine gives_lift_bind fun doc _ => gives_lift_bind fun place _ => gives_lift_bind fun _ _ => ?_
  exact .document (find_putRewritten s place.1 place.2 doc _) rfl ⟨rfl, rfl⟩

theorem givesOn_action (w : Writing) (target params : Value) : GivesOn 0 (w.action target params) := by
  intro s
  cases w with
  | update => exact gives_lift_bind fun data _ => givesOn_write target _ s
  | replace => exact gives_lift_bind fun data _ => givesOn_write target _ s

/-! ## Queries for one document -/

/-- What the evaluation of an expression gives out. -/
def Assigns (ids : Nat) (action : Action Evaluation Value) : Prop :=
  ∀ e, Gives ids e.store (action.perform e).1 (action.perform e).2.store

theorem Assigns.within {action : Action Store Value} (h : GivesOn ids action) :
    Assigns ids (within action) := fun e => h e.store

/-- What follows an action that gives nothing out gives out all there is. -/
theorem Idle.assigns_bind {action : Action Evaluation α} {next : α → Action Evaluation Value}
    (h : Idle action) (hnext : ∀ a, Assigns ids (next a)) : Assigns ids (action >>= next) := by
  intro e
  have hbefore := h e
  rw [perform_bind]
  generalize action.perform e = outcome at hbefore
  obtain ⟨fault | a, after⟩ := outcome
  · exact .failed fault hbefore
  · exact (hnext a after).after hbefore

/-- A `let` that ends in the last of its names gives out what the last expression gives out. -/
theorem Assigns.letIn_last {entries : List (Key × Value)} {name : String} {e : Value}
    (hentries : (Value.dict entries).IsPassive)
    (he : ∀ scope, Assigns ids (evaluateWith apply e scope)) (scope : Scope) :
    Assigns ids
      (evaluateWith apply (.query (.letIn (entries ++ [(.text name, e)]) (named name))) scope) := by
  have hlast : ∀ scope, Assigns ids (evaluateBindings apply [(.text name, e)] scope >>=
      evaluateWith apply (named name)) := by
    intro scope state
    have hgives := he scope state
    rw [evaluateBindings, bind_assoc, perform_bind]
    generalize (evaluateWith apply e scope).perform state = outcome at hgives
    obtain ⟨fault | v, after⟩ := outcome
    · exact hgives
    · obtain ⟨frames, hkeep⟩ :=
        perform_keepFrame { scope with bindings := scope.bindings.put name v } after
      have hyields : Yields apply _ after.store (named name) (.ok v) after.store :=
        .var (Dict.get?_put_self scope.bindings (.text name) v)
      obtain ⟨frames', hvar⟩ := hyields scope.frame frames
      simp only [bind_assoc, perform_bind_ok hkeep, evaluateBindings, pure_bind, hvar]
      exact hgives
  have hall : ∀ scope, Assigns ids (evaluateBindings apply (entries ++ [(.text name, e)]) scope >>=
      evaluateWith apply (named name)) := by
    induction entries with
    | nil => exact hlast
    | cons entry rest ih =>
      intro scope
      obtain ⟨hentry, hrest⟩ := List.forall_mem_cons.1 (Value.isPassive_dict.1 hentries)
      rw [List.cons_append, evaluateBindings, bind_assoc]
      refine (idle_evaluate hentry scope).assigns_bind fun v => ?_
      rw [bind_assoc]
      exact (idle_keepFrame _).assigns_bind fun _ => ih (Value.isPassive_dict.2 hrest) _
  rw [evaluateWith, evaluateQuery]
  exact (idle_openFrame _).assigns_bind fun inner => hall inner

theorem Assigns.ifElse {condition consequent alternative : Value}
    (hcondition : condition.IsPassive)
    (hconsequent : ∀ scope, Assigns ids (evaluateWith apply consequent scope))
    (halternative : ∀ scope, Assigns ids (evaluateWith apply alternative scope)) (scope : Scope) :
    Assigns ids (evaluateWith apply (.query (.ifElse condition consequent alternative)) scope) := by
  rw [evaluateWith, evaluateQuery]
  refine (idle_evaluate hcondition scope).assigns_bind fun v => ?_
  split
  · exact hconsequent scope
  · exact halternative scope

theorem Assigns.null (scope : Scope) : Assigns ids (evaluateWith apply .null scope) :=
  fun e => .nothing (Advanced.refl e.store)

theorem Assigns.create {collection : Value} {params : Dict Value}
    (hcollection : collection.IsPassive) (hparams : (Value.dict params).IsPassive) (scope : Scope) :
    Assigns 1 (evaluateWith apply (.query (.create collection params)) scope) := by
  rw [evaluateWith, evaluateQuery]
  exact (idle_evaluate hcollection scope).assigns_bind fun _ =>
    (idle_evaluateEntries hparams scope).assigns_bind fun _ => .within (givesOn_create _ _)

theorem Assigns.write (w : Writing) {target data : Value} (htarget : target.IsPassive)
    (hdata : data.IsPassive) (scope : Scope) :
    Assigns 0 (evaluateWith apply (.query (w.query target data)) scope) := by
  have hparams : (Value.dict (Dict.ofFields [("data", data)])).IsPassive := by
    simpa [Dict.ofFields, Dict.ofEntries, Dict.putAll, Dict.put] using hdata
  have hwrite := fun target params => Assigns.within (givesOn_action w target params)
  cases w with
  | update =>
    rw [Writing.query, evaluateWith, evaluateQuery]
    exact (idle_evaluate htarget scope).assigns_bind fun _ =>
      (idle_evaluateEntries hparams scope).assigns_bind fun _ => hwrite _ _
  | replace =>
    rw [Writing.query, evaluateWith, evaluateQuery]
    exact (idle_evaluate htarget scope).assigns_bind fun _ =>
      (idle_evaluateEntries hparams scope).assigns_bind fun _ => hwrite _ _

/-! ## Queries for many documents -/

/-- How many of some results are documents. -/
def countOf (results : List Value) : Nat := results.countP fun v => !v.isNull

/-- What is done for each of some elements gives out a time for each document that it comes to. -/
theorem advanced_mapM {f : α → Action Evaluation Value} {xs : List α}
    (h : ∀ x ∈ xs, Assigns ids (f x)) {e after : Evaluation} {results : List Value}
    (hperform : (xs.mapM f).perform e = (.ok results, after)) :
    Advanced e.store (ids * countOf results) (countOf results) after.store := by
  induction xs generalizing e results with
  | nil =>
    cases hperform
    exact Advanced.refl after.store
  | cons x rest ih =>
    obtain ⟨hx, hrest⟩ := List.forall_mem_cons.1 h
    rw [List.mapM_cons, perform_bind_eq_ok] at hperform
    obtain ⟨v, mid, hv, hperform⟩ := hperform
    obtain ⟨vs, last, hvs, hpure⟩ := perform_bind_eq_ok.1 hperform
    cases hpure
    have hgives := hx e
    rw [hv] at hgives
    have hmore := ih hrest hvs
    cases hgives with
    | nothing hnone => exact hnone.after hmore
    | document find ts hone =>
      have hcount : ∀ doc : StoredDocument, countOf (.dict doc.members :: vs) = 1 + countOf vs := by
        intro doc
        simp [countOf, Value.isNull, Nat.add_comm]
      rw [hcount, Nat.mul_add, Nat.mul_one]
      exact hone.trans hmore

end DocMapper.Store
