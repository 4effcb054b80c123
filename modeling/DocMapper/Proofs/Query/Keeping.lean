import DocMapper.Proofs.Execution.Performing
import DocMapper.Proofs.Query.Effects
import DocMapper.Store.Evaluate
/-!
# What queries keep

`Store.Delivers P action Q` says that an action keeps something of the store (`P`), however it ends,
and that what it comes to, if it comes to anything, has a property (`Q`). There is a rule for each way
in which the evaluation of queries is put together.

A query writes by the operations of the store alone, and those that it may come to stand in it
(`Query.effects`), except for what it applies closures to. So whatever its effects keep, it keeps
(`Store.keeps_evaluate`), and what all operations keep, every query keeps, with any expressions in it
and however it ends (`Store.KeptByWrites.keeps_evaluate`).
-/

namespace DocMapper.Store

open Action

variable {P : Store → Prop} {α β : Type} {Q : α → Prop} {R : β → Prop}

/-- An action keeps something of the store, however it ends, and what it comes to has a property. -/
def Delivers (P : Store → Prop) (action : Action Evaluation α) (Q : α → Prop) : Prop :=
  ∀ e, P e.store → P (action.perform e).2.store ∧ ∀ a, (action.perform e).1 = .ok a → Q a

/-- An action keeps something of the store, however it ends. -/
def Keeps (P : Store → Prop) (action : Action Evaluation α) : Prop :=
  Delivers P action fun _ => True

/-! ## Composition -/

theorem Delivers.imp {action : Action Evaluation α} {Q' : α → Prop} (h : Delivers P action Q)
    (himp : ∀ a, Q a → Q' a) : Delivers P action Q' :=
  fun e he => ⟨(h e he).1, fun a ha => himp a ((h e he).2 a ha)⟩

theorem Delivers.pure {a : α} (ha : Q a) : Delivers P (Pure.pure a) Q :=
  fun _ he => ⟨he, fun _ h => Except.ok.inj h ▸ ha⟩

theorem Delivers.lift {r : Except Fault α} (hr : ∀ a, r = .ok a → Q a) :
    Delivers P (liftM r) Q := fun _ he => ⟨he, hr⟩

theorem Delivers.throw (fault : Fault) : Delivers P (throw fault) Q := fun _ he => ⟨he, nofun⟩

theorem Delivers.bind {action : Action Evaluation α} {next : α → Action Evaluation β}
    (h : Delivers P action Q) (hnext : ∀ a, Q a → Delivers P (next a) R) :
    Delivers P (action >>= next) R := by
  intro e he
  obtain ⟨hstore, hout⟩ := h e he
  rw [perform_bind]
  generalize action.perform e = outcome at hstore hout
  obtain ⟨_ | a, after⟩ := outcome
  · exact ⟨hstore, nofun⟩
  · exact hnext a (hout a rfl) after hstore

/-- What follows a look at the store has to deliver wherever it may be. -/
theorem Delivers.get_bind {next : Evaluation → Action Evaluation β}
    (hnext : ∀ e, P e.store → Delivers P (next e) R) : Delivers P (get >>= next) R := by
  intro e he
  rw [perform_bind, perform_get]
  exact hnext e he e he

theorem Delivers.lift_bind {r : Except Fault α} {next : α → Action Evaluation β}
    (hnext : ∀ a, r = .ok a → Delivers P (next a) R) : Delivers P (liftM r >>= next) R :=
  Delivers.bind (Delivers.lift fun _ ha => ha) hnext

/-- An operation on the store delivers what it keeps of the store. -/
theorem Keeps.within {action : Action Store α} (h : ∀ s, P s → P (action.perform s).2) :
    Keeps P (within action) := fun e he => ⟨h e.store he, fun _ _ => trivial⟩

theorem Delivers.openFrame (b : Bindings) :
    Delivers P (openFrame b) fun scope => scope.bindings = b := by
  intro e he
  refine ⟨he, fun scope h => ?_⟩
  cases h
  rfl

theorem Keeps.keepFrame (scope : Scope) : Keeps P (keepFrame scope) := by
  intro e he
  unfold Store.keepFrame
  cases scope.frame with
  | none => exact ⟨he, fun _ _ => trivial⟩
  | some i => exact ⟨he, fun _ _ => trivial⟩

/-- What each element comes to has a property, and then all of it has. -/
theorem Delivers.mapM {γ : Type} {f : γ → Action Evaluation α} {xs : List γ}
    (h : ∀ x ∈ xs, Delivers P (f x) Q) : Delivers P (xs.mapM f) fun ys => ∀ y ∈ ys, Q y := by
  induction xs with
  | nil => exact Delivers.pure (by simp)
  | cons x rest ih =>
    obtain ⟨hx, hrest⟩ := List.forall_mem_cons.1 h
    rw [List.mapM_cons]
    refine hx.bind fun y hy => (ih hrest).bind fun ys hys => Delivers.pure ?_
    exact List.forall_mem_cons.2 ⟨hy, hys⟩

theorem Keeps.pure (a : α) : Keeps P (Pure.pure a) := Delivers.pure trivial

theorem Keeps.lift (r : Except Fault α) : Keeps P (liftM r) := Delivers.lift fun _ _ => trivial

theorem Keeps.bind {action : Action Evaluation α} {next : α → Action Evaluation β}
    (h : Keeps P action) (hnext : ∀ a, Keeps P (next a)) : Keeps P (action >>= next) :=
  Delivers.bind h fun a _ => hnext a

/-- A function that is applied to every element of a sequence, or of the data of a page. -/
theorem keeps_mapOver {f : Value → Action Evaluation Value} (h : ∀ v, Keeps P (f v))
    (source : Value) : Keeps P (mapOver f source) := by
  have hitems : ∀ items : List Value, Keeps P (items.mapM f) := fun items =>
    (Delivers.mapM fun v _ => h v).imp fun _ _ => trivial
  unfold mapOver
  split
  · exact (Keeps.lift _).bind fun _ => (Keeps.lift _).bind fun _ =>
      (hitems _).bind fun _ => Keeps.pure _
  · exact (Keeps.lift _).bind fun _ => (hitems _).bind fun _ => Keeps.pure _

/-! ## Expressions -/

variable {apply : Value → Value → Action Evaluation Value}

/-- An effect keeps something of the store, whether it takes place or is refused. -/
def KeptBy (P : Store → Prop) (apply : Value → Value → Action Evaluation Value) : Effect → Prop
  | .create => ∀ collection params s, P s → P ((create collection params).perform s).2
  | .update => ∀ target params s, P s → P ((update target params).perform s).2
  | .replace => ∀ target params s, P s → P ((replace target params).perform s).2
  | .delete => ∀ target s, P s → P ((delete target).perform s).2
  | .createCollection => ∀ params s, P s → P ((createCollection params).perform s).2
  | .createIndex => ∀ params s, P s → P ((createIndex params).perform s).2
  | .apply => ∀ f v, Keeps P (apply f v)

mutual

/-- **What the effects of an expression keep, the expression keeps.** -/
theorem keeps_evaluateWith : (e : Value) → (scope : Scope) →
    (∀ effect ∈ e.effects, KeptBy P apply effect) → Keeps P (evaluateWith apply e scope)
  | .query q, scope, h => by
    rw [evaluateWith]
    exact keeps_evaluateQuery q scope h
  | .list items, scope, h | .tuple items, scope, h => by
    rw [evaluateWith]
    exact (keeps_evaluateList items scope h).bind fun _ => Keeps.pure _
  | .dict entries, scope, h => by
    rw [evaluateWith]
    exact (keeps_evaluateEntries entries scope h).bind fun _ => Keeps.pure _
  | .record .., _, _ => by
    rw [evaluateWith]
    exact Keeps.lift _
  | .null, _, _ | .bool _, _, _ | .int _, _, _ | .float _, _, _ | .text _, _, _ | .bytes _, _, _
  | .timestamp _, _, _ | .date _, _, _ | .ref _, _, _ | .accessor _, _, _ | .thunk _, _, _
  | .rows _, _, _ | .closure .., _, _ | .foreign _, _, _ => by
    simp only [evaluateWith]
    exact Keeps.pure _

theorem keeps_evaluateList : (items : List Value) → (scope : Scope) →
    (∀ effect ∈ Value.effectsOfList items, KeptBy P apply effect) →
    Keeps P (evaluateList apply items scope)
  | [], _, _ => Keeps.pure _
  | e :: rest, scope, h => by
    obtain ⟨he, hrest⟩ := List.forall_mem_append.1 h
    rw [evaluateList]
    exact (keeps_evaluateWith e scope he).bind fun _ =>
      (keeps_evaluateList rest scope hrest).bind fun _ => Keeps.pure _

theorem keeps_evaluateEntries : (entries : List (Key × Value)) → (scope : Scope) →
    (∀ effect ∈ Value.effectsOfEntries entries, KeptBy P apply effect) →
    Keeps P (evaluateEntries apply entries scope)
  | [], _, _ => Keeps.pure _
  | (k, e) :: rest, scope, h => by
    obtain ⟨he, hrest⟩ := List.forall_mem_append.1 h
    rw [evaluateEntries]
    exact (keeps_evaluateWith e scope he).bind fun _ =>
      (keeps_evaluateEntries rest scope hrest).bind fun _ => Keeps.pure _

theorem keeps_evaluateOption (otherwise : Value) : (e : Option Value) → (scope : Scope) →
    (∀ effect ∈ Value.effectsOfOption e, KeptBy P apply effect) →
    Keeps P (evaluateOption apply otherwise e scope)
  | none, _, _ => Keeps.pure _
  | some e, scope, h => by
    rw [evaluateOption]
    exact keeps_evaluateWith e scope h

theorem keeps_evaluateBindings : (names : List (Key × Value)) → (scope : Scope) →
    (∀ effect ∈ Value.effectsOfEntries names, KeptBy P apply effect) →
    Keeps P (evaluateBindings apply names scope)
  | [], _, _ => Keeps.pure _
  | (name, e) :: rest, scope, h => by
    obtain ⟨he, hrest⟩ := List.forall_mem_append.1 h
    rw [evaluateBindings]
    exact (keeps_evaluateWith e scope he).bind fun _ => (Keeps.keepFrame _).bind fun _ =>
      keeps_evaluateBindings rest _ hrest

theorem keeps_evaluateLast : (last : Value) → (items : List Value) → (scope : Scope) →
    (∀ effect ∈ Value.effectsOfList items, KeptBy P apply effect) →
    Keeps P (evaluateLast apply last items scope)
  | _, [], _, _ => Keeps.pure _
  | _, e :: rest, scope, h => by
    obtain ⟨he, hrest⟩ := List.forall_mem_append.1 h
    rw [evaluateLast]
    exact (keeps_evaluateWith e scope he).bind fun v => keeps_evaluateLast v rest scope hrest

theorem keeps_evaluateQuery : (q : Query) → (scope : Scope) →
    (∀ effect ∈ q.effects, KeptBy P apply effect) → Keeps P (evaluateQuery apply q scope)
  | .letIn names body, scope, h => by
    obtain ⟨hnames, hbody⟩ := List.forall_mem_append.1 h
    rw [evaluateQuery]
    exact (Delivers.openFrame _).bind fun inner _ =>
      (keeps_evaluateBindings names inner hnames).bind fun inner =>
        keeps_evaluateWith body inner hbody
  | .var _, _, _ | .database _, _, _ => by
    rw [evaluateQuery]
    exact Keeps.lift _
  | .ifElse condition consequent alternative, scope, h => by
    obtain ⟨hcondition, hbranches⟩ := List.forall_mem_append.1 h
    obtain ⟨hconsequent, halternative⟩ := List.forall_mem_append.1 hbranches
    rw [evaluateQuery]
    refine (keeps_evaluateWith condition scope hcondition).bind fun v => ?_
    split
    · exact keeps_evaluateWith consequent scope hconsequent
    · exact keeps_evaluateWith alternative scope halternative
  | .sequence items, scope, h => by
    rw [evaluateQuery]
    exact keeps_evaluateLast .null items scope h
  | .abort _, _, _ => by
    rw [evaluateQuery]
    exact Delivers.throw _
  | .lambda .., _, _ => by
    rw [evaluateQuery]
    exact Keeps.pure _
  | .map function source, scope, h => by
    rw [Query.effects.eq_def] at h
    rw [evaluateQuery.eq_def]
    dsimp only at h ⊢
    split
    · rename_i parameter body
      obtain ⟨hbody, hsource⟩ := List.forall_mem_append.1 h
      refine (keeps_evaluateWith source scope hsource).bind fun v =>
        keeps_mapOver (fun item => ?_) v
      exact (Keeps.lift _).bind fun inner => keeps_evaluateWith body inner hbody
    · rename_i hclosure
      simp only at h
      obtain ⟨happly, hparts⟩ := List.forall_mem_cons.1 h
      obtain ⟨hfunction, hsource⟩ := List.forall_mem_append.1 hparts
      exact (keeps_evaluateWith function scope hfunction).bind fun f =>
        (keeps_evaluateWith source scope hsource).bind fun v => keeps_mapOver (happly f) v
  | .select path source fallback, scope, h => by
    obtain ⟨hsource, hfallback⟩ := List.forall_mem_append.1 h
    rw [evaluateQuery.eq_def]
    dsimp only
    refine (keeps_evaluateWith source scope hsource).bind fun v => ?_
    split
    · exact Keeps.pure _
    · cases fallback with
      | none => exact Delivers.throw _
      | some e => exact keeps_evaluateWith e scope hfallback
  | .collection name _, scope, h | .index name _, scope, h => by
    rw [evaluateQuery]
    exact (keeps_evaluateWith name scope h).bind fun _ => Keeps.lift _
  | .ref collection id, scope, h => by
    obtain ⟨hcollection, hid⟩ := List.forall_mem_append.1 h
    rw [evaluateQuery]
    exact (keeps_evaluateWith id scope hid).bind fun _ =>
      (keeps_evaluateWith collection scope hcollection).bind fun _ => Keeps.lift _
  | .documents collection, scope, h => by
    rw [evaluateQuery]
    exact (keeps_evaluateWith collection scope h).bind fun _ => (Keeps.lift _).bind fun _ =>
      Delivers.get_bind fun _ _ => Keeps.pure _
  | .present target, scope, h => by
    rw [evaluateQuery]
    exact (keeps_evaluateWith target scope h).bind fun _ => Delivers.get_bind fun _ _ =>
      (Keeps.lift _).bind fun _ => Keeps.pure _
  | .get target, scope, h => by
    rw [evaluateQuery]
    exact (keeps_evaluateWith target scope h).bind fun _ =>
      Delivers.get_bind fun _ _ => Keeps.lift _
  | .matching index terms, scope, h => by
    obtain ⟨hindex, hterms⟩ := List.forall_mem_append.1 h
    rw [evaluateQuery]
    exact (keeps_evaluateWith index scope hindex).bind fun _ => Delivers.get_bind fun _ _ =>
      (Keeps.lift _).bind fun _ => (keeps_evaluateOption .null terms scope hterms).bind fun _ =>
      Delivers.get_bind fun _ _ => (Keeps.lift _).bind fun _ => Keeps.pure _
  | .paginate source size after before, scope, h => by
    obtain ⟨hsource, harguments⟩ := List.forall_mem_append.1 h
    obtain ⟨hsize, hplaces⟩ := List.forall_mem_append.1 harguments
    obtain ⟨hafter, hbefore⟩ := List.forall_mem_append.1 hplaces
    rw [evaluateQuery]
    refine (keeps_evaluateWith source scope hsource).bind fun v => ?_
    have hrest : Keeps P (do
        let size ← evaluateOption apply (.int 64) size scope
        let after ← evaluateOption apply .null after scope
        let before ← evaluateOption apply .null before scope
        page v size after before) :=
      (keeps_evaluateOption _ size scope hsize).bind fun _ =>
        (keeps_evaluateOption _ after scope hafter).bind fun _ =>
        (keeps_evaluateOption _ before scope hbefore).bind fun _ => Keeps.lift _
    by_cases hset : isSet v = true
    · simpa [hset] using hrest
    · have hthrow : Keeps P (throw noMember : Action Evaluation Value) := Delivers.throw _
      simpa [hset] using hthrow
  | .count target, scope, h => by
    rw [evaluateQuery]
    exact (keeps_evaluateWith target scope h).bind fun _ => Keeps.lift _
  | .create collection params, scope, h => by
    obtain ⟨hcreate, hparts⟩ := List.forall_mem_cons.1 h
    obtain ⟨hcollection, hparams⟩ := List.forall_mem_append.1 hparts
    rw [evaluateQuery]
    exact (keeps_evaluateWith collection scope hcollection).bind fun _ =>
      (keeps_evaluateEntries params scope hparams).bind fun _ => Keeps.within (hcreate _ _)
  | .update target params, scope, h => by
    obtain ⟨hupdate, hparts⟩ := List.forall_mem_cons.1 h
    obtain ⟨htarget, hparams⟩ := List.forall_mem_append.1 hparts
    rw [evaluateQuery]
    exact (keeps_evaluateWith target scope htarget).bind fun _ =>
      (keeps_evaluateEntries params scope hparams).bind fun _ => Keeps.within (hupdate _ _)
  | .replace target params, scope, h => by
    obtain ⟨hreplace, hparts⟩ := List.forall_mem_cons.1 h
    obtain ⟨htarget, hparams⟩ := List.forall_mem_append.1 hparts
    rw [evaluateQuery]
    exact (keeps_evaluateWith target scope htarget).bind fun _ =>
      (keeps_evaluateEntries params scope hparams).bind fun _ => Keeps.within (hreplace _ _)
  | .delete target, scope, h => by
    obtain ⟨hdelete, htarget⟩ := List.forall_mem_cons.1 h
    rw [evaluateQuery]
    exact (keeps_evaluateWith target scope htarget).bind fun _ => Keeps.within (hdelete _)
  | .createCollection params, scope, h => by
    obtain ⟨hcreate, hparams⟩ := List.forall_mem_cons.1 h
    rw [evaluateQuery]
    exact (keeps_evaluateEntries params scope hparams).bind fun _ => Keeps.within (hcreate _)
  | .createIndex params, scope, h => by
    obtain ⟨hcreate, hparams⟩ := List.forall_mem_cons.1 h
    rw [evaluateQuery]
    exact (keeps_evaluateEntries params scope hparams).bind fun _ => Keeps.within (hcreate _)

end

/-- What the effects of an expression keep, short of the application of closures, is kept when it is
evaluated. -/
theorem keeps_evaluate {e : Value} (h : ∀ effect ∈ e.effects, ∀ apply, KeptBy P apply effect)
    {s : Store} (hs : P s) : P ((evaluate e).perform s).2 :=
  (keeps_evaluateWith e {} (fun effect he => h effect he _) ⟨s, []⟩ hs).1

/-- Something of a store that every operation on it keeps, whether it takes place or is refused. -/
structure KeptByWrites (P : Store → Prop) : Prop where
  create : ∀ collection params s, P s → P ((create collection params).perform s).2
  update : ∀ target params s, P s → P ((update target params).perform s).2
  replace : ∀ target params s, P s → P ((replace target params).perform s).2
  delete : ∀ target s, P s → P ((delete target).perform s).2
  createCollection : ∀ params s, P s → P ((createCollection params).perform s).2
  createIndex : ∀ params s, P s → P ((createIndex params).perform s).2

/-- What every operation on a store keeps, all effects keep. -/
theorem KeptByWrites.keptBy (hP : KeptByWrites P) (happly : ∀ f v, Keeps P (apply f v))
    (effect : Effect) : KeptBy P apply effect := by
  cases effect with
  | create => exact hP.create
  | update => exact hP.update
  | replace => exact hP.replace
  | delete => exact hP.delete
  | createCollection => exact hP.createCollection
  | createIndex => exact hP.createIndex
  | apply => exact happly

/-- What the operations on a store keep, the application of every closure keeps. -/
theorem keeps_applyClosure (hP : KeptByWrites P) (depth : Nat) (f v : Value) :
    Keeps P (applyClosure depth f v) := by
  induction depth generalizing f v with
  | zero => exact Delivers.throw _
  | succ depth ih =>
    cases f with
    | closure parameter body b frame =>
      rw [applyClosure]
      have hbindings : Keeps P (closureBindings b frame) := by
        unfold closureBindings
        cases frame with
        | none => exact Keeps.pure _
        | some i => exact Delivers.get_bind fun _ _ => Keeps.pure _
      exact hbindings.bind fun _ => (Keeps.lift _).bind fun scope =>
        keeps_evaluateWith body scope fun effect _ => hP.keptBy ih effect
    | _ => exact Delivers.throw _

/-- Something of a store that a query keeps, however it ends. -/
def KeptByQuery (P : Store → Prop) (q : Query) : Prop :=
  ∀ s, P s → P ((evaluate (.query q)).perform s).2

/-- **What the operations on a store keep, every query keeps**, whatever it is and however it ends. -/
theorem KeptByWrites.keeps_evaluate (hP : KeptByWrites P) (e : Value) {s : Store} (hs : P s) :
    P ((evaluate e).perform s).2 :=
  (keeps_evaluateWith e {} (fun effect _ => hP.keptBy (keeps_applyClosure hP depthBound) effect)
    ⟨s, []⟩ hs).1

theorem KeptByWrites.keptByQuery (hP : KeptByWrites P) (q : Query) : KeptByQuery P q :=
  fun _ hs => hP.keeps_evaluate (.query q) hs

end DocMapper.Store
