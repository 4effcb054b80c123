import Mathlib.Data.List.Forall2
import DocMapper.Proofs.Execution.Performing
import DocMapper.Proofs.Query.Sendable
/-!
# What a query comes to

`Store.Yields apply b s e out t` says that the expression `e`, under the bindings `b` and over the
store `s`, comes to `out` and leaves the store `t`, whatever frames the evaluation keeps on the way.
`Store.Binds` says the same of the bindings of a `let`. There is one rule for each kind of
expression, so that the meaning of a compiled query is put together from its parts, and
`Store.perform_evaluate` turns it into a statement about the evaluator.

An expression is steady (`Store.Steady`) if it always comes to one value, as data does.
-/

namespace DocMapper.Store

open Action

attribute [local simp] evaluateWith evaluateQuery evaluateBindings evaluateEntries perform_bind

variable {apply : Value → Value → Action Evaluation Value} {b : Bindings} {s t u : Store}

/-- The expression comes to an outcome and leaves a store. -/
def Yields (apply : Value → Value → Action Evaluation Value) (b : Bindings) (s : Store) (e : Value)
    (out : Except Fault Value) (t : Store) : Prop :=
  ∀ frame frames, ∃ frames',
    (evaluateWith apply e ⟨b, frame⟩).perform ⟨s, frames⟩ = (out, ⟨t, frames'⟩)

/-- The entries of a dictionary come to an outcome, one after another. -/
def YieldsEntries (apply : Value → Value → Action Evaluation Value) (b : Bindings) (s : Store)
    (entries : List (Key × Value)) (out : Except Fault (List (Key × Value))) (t : Store) : Prop :=
  ∀ frame frames, ∃ frames',
    (evaluateEntries apply entries ⟨b, frame⟩).perform ⟨s, frames⟩ = (out, ⟨t, frames'⟩)

/-- The names of a `let` are bound, later ones seeing earlier ones. -/
def Binds (apply : Value → Value → Action Evaluation Value) (b : Bindings) (s : Store)
    (names : List (Key × Value)) (out : Except Fault Bindings) (t : Store) : Prop :=
  ∀ frame frames, ∃ frames',
    (evaluateBindings apply names ⟨b, frame⟩).perform ⟨s, frames⟩ =
      (out.map fun b' => ⟨b', frame⟩, ⟨t, frames'⟩)

/-! ## Data and variables -/

theorem Yields.plain {v : Value} (h : v.isPlain = true) : Yields apply b s v (.ok v.settled) s := by
  intro frame frames
  exact ⟨frames, by rw [evaluateWith_plain apply h]; rfl⟩

theorem Yields.null : Yields apply b s .null (.ok .null) s := Yields.plain rfl

theorem Yields.var {name : String} {v : Value} (h : b.get? (.text name) = some v) :
    Yields apply b s (Query.named name) (.ok v) s := by
  intro frame frames
  refine ⟨frames, ?_⟩
  simp [Query.named, valueOfVariable, Value.find, Value.asKey,
    Value.toKey?, bind, Except.bind, pure, Except.pure, h]

/-! ## Bindings -/

theorem Binds.nil : Binds apply b s [] (.ok b) s := fun _ frames => ⟨frames, rfl⟩

/-- The frame of a `let` is kept without any effect on the store. -/
theorem perform_keepFrame (scope : Scope) (e : Evaluation) :
    ∃ frames, (keepFrame scope).perform e = (.ok (), ⟨e.store, frames⟩) := by
  unfold keepFrame
  cases scope.frame with
  | none => exact ⟨e.frames, rfl⟩
  | some i => exact ⟨e.frames.set i scope.bindings, rfl⟩

theorem Binds.cons {name : Key} {e v : Value} {rest : List (Key × Value)}
    {out : Except Fault Bindings} (he : Yields apply b s e (.ok v) t)
    (hrest : Binds apply (b.put name v) t rest out u) : Binds apply b s ((name, e) :: rest) out u := by
  intro frame frames
  obtain ⟨f₁, h₁⟩ := he frame frames
  obtain ⟨f₂, h₂⟩ := perform_keepFrame ⟨b.put name v, frame⟩ ⟨t, f₁⟩
  obtain ⟨f₃, h₃⟩ := hrest frame f₂
  exact ⟨f₃, by simp [h₁, h₂, h₃]⟩

theorem Binds.cons_error {name : Key} {e : Value} {rest : List (Key × Value)} {fault : Fault}
    (he : Yields apply b s e (.error fault) t) :
    Binds apply b s ((name, e) :: rest) (.error fault) t := by
  intro frame frames
  obtain ⟨f₁, h₁⟩ := he frame frames
  exact ⟨f₁, by simp [h₁, Except.map]⟩

theorem perform_openFrame (b : Bindings) (e : Evaluation) :
    (openFrame b).perform e =
      (.ok ⟨b, some e.frames.length⟩, ⟨e.store, e.frames ++ [b]⟩) := rfl

theorem Yields.letIn {names : List (Key × Value)} {body : Value} {b' : Bindings}
    {out : Except Fault Value} (hnames : Binds apply b s names (.ok b') t)
    (hbody : Yields apply b' t body out u) : Yields apply b s (.query (.letIn names body)) out u := by
  intro frame frames
  obtain ⟨f₁, h₁⟩ := hnames (some frames.length) (frames ++ [b])
  obtain ⟨f₂, h₂⟩ := hbody (some frames.length) f₁
  refine ⟨f₂, ?_⟩
  simp [perform_openFrame, h₁, h₂, Except.map]

theorem Yields.letIn_error {names : List (Key × Value)} {body : Value} {fault : Fault}
    (hnames : Binds apply b s names (.error fault) t) :
    Yields apply b s (.query (.letIn names body)) (.error fault) t := by
  intro frame frames
  obtain ⟨f₁, h₁⟩ := hnames (some frames.length) (frames ++ [b])
  refine ⟨f₁, ?_⟩
  simp [perform_openFrame, h₁, Except.map]

/-- A `let` whose last name is its result comes to what the name is bound to, or fails with it. -/
theorem Yields.letIn_last (names : List (Key × Value)) {name : String} {e : Value} {b' : Bindings}
    {out : Except Fault Value}
    (hnames : ∀ {rest out u}, Binds apply b' s rest out u → Binds apply b s (names ++ rest) out u)
    (he : Yields apply b' s e out t) :
    Yields apply b s (.query (.letIn (names ++ [(.text name, e)]) (Query.named name))) out t := by
  cases out with
  | error fault => exact Yields.letIn_error (hnames (Binds.cons_error he))
  | ok v =>
    exact Yields.letIn (hnames (Binds.cons he Binds.nil)) (Yields.var (Dict.get?_put_self _ _ _))

/-! ## Flow -/

theorem Yields.ifElse_true {c x y v : Value} {out : Except Fault Value}
    (hc : Yields apply b s c (.ok v) t) (hv : v.truthy = true) (hx : Yields apply b t x out u) :
    Yields apply b s (.query (.ifElse c x y)) out u := by
  intro frame frames
  obtain ⟨f₁, h₁⟩ := hc frame frames
  obtain ⟨f₂, h₂⟩ := hx frame f₁
  exact ⟨f₂, by simp [h₁, h₂, hv]⟩

theorem Yields.ifElse_false {c x y v : Value} {out : Except Fault Value}
    (hc : Yields apply b s c (.ok v) t) (hv : v.truthy = false) (hy : Yields apply b t y out u) :
    Yields apply b s (.query (.ifElse c x y)) out u := by
  intro frame frames
  obtain ⟨f₁, h₁⟩ := hc frame frames
  obtain ⟨f₂, h₂⟩ := hy frame f₁
  exact ⟨f₂, by simp [h₁, h₂, hv]⟩

theorem Yields.abort (message : Value) :
    Yields apply b s (.query (.abort message)) (.error (.aborted message.toText)) s :=
  fun _ frames => ⟨frames, rfl⟩

theorem Yields.select {path : List Value} {source v w : Value}
    (hs : Yields apply b s source (.ok v) t) (hw : select? v path = some w) :
    Yields apply b s (.query (.select path source none)) (.ok w) t := by
  intro frame frames
  obtain ⟨f₁, h₁⟩ := hs frame frames
  exact ⟨f₁, by simp [h₁, hw]⟩

/-! ## References -/

theorem Yields.collection (name : String) (scope : Option Value) :
    Yields apply b s (.query (.collection (.text name) scope))
      (.ok (.ref (collectionRef name))) s := by
  intro frame frames
  exact ⟨frames, by simp only [evaluateWith, evaluateQuery]; rfl⟩

/-- The collection of a name that is worked out. -/
theorem Yields.collectionOf {e : Value} {name : String} (scope : Option Value)
    (he : Yields apply b s e (.ok (.text name)) t) :
    Yields apply b s (.query (.collection e scope)) (.ok (.ref (collectionRef name))) t := by
  intro frame frames
  obtain ⟨f₁, h₁⟩ := he frame frames
  exact ⟨f₁, by simp only [evaluateWith, evaluateQuery, perform_bind, h₁]; rfl⟩

theorem Yields.index {e : Value} {name : String} (scope : Option Value)
    (he : Yields apply b s e (.ok (.text name)) t) :
    Yields apply b s (.query (.index e scope)) (.ok (.ref (indexRef name))) t := by
  intro frame frames
  obtain ⟨f₁, h₁⟩ := he frame frames
  exact ⟨f₁, by simp only [evaluateWith, evaluateQuery, perform_bind, h₁]; rfl⟩

theorem Yields.ref {c : Value} {r : Ref} (id : String) (hc : Yields apply b s c (.ok (.ref r)) t) :
    Yields apply b s (.query (.ref c (.text id)))
      (.ok (.ref { id := id, collection := some r })) t := by
  intro frame frames
  obtain ⟨f₁, h₁⟩ := hc frame frames
  refine ⟨f₁, ?_⟩
  simp only [evaluateWith, evaluateQuery, perform_bind, perform_pure, h₁]
  rfl

/-! ## Reading and writing -/

theorem Yields.present {target v : Value} {found : Bool} (ht : Yields apply b s target (.ok v) t)
    (hv : t.exists? v = .ok found) :
    Yields apply b s (.query (.present target)) (.ok (.bool found)) t := by
  intro frame frames
  obtain ⟨f₁, h₁⟩ := ht frame frames
  exact ⟨f₁, by simp [h₁, hv, Except.map]⟩

theorem Yields.get {target v : Value} (ht : Yields apply b s target (.ok v) t) :
    Yields apply b s (.query (.get target)) (t.fetch v) t := by
  intro frame frames
  obtain ⟨f₁, h₁⟩ := ht frame frames
  exact ⟨f₁, by simp [h₁]⟩

theorem YieldsEntries.nil : YieldsEntries apply b s [] (.ok []) s := fun _ frames => ⟨frames, rfl⟩

theorem YieldsEntries.cons {k : Key} {e v : Value} {rest vs : List (Key × Value)}
    (he : Yields apply b s e (.ok v) t) (hrest : YieldsEntries apply b t rest (.ok vs) u) :
    YieldsEntries apply b s ((k, e) :: rest) (.ok ((k, v) :: vs)) u := by
  intro frame frames
  obtain ⟨f₁, h₁⟩ := he frame frames
  obtain ⟨f₂, h₂⟩ := hrest frame f₁
  exact ⟨f₂, by simp [h₁, h₂, Except.map]⟩

/-- Entries of data come to what their values come to. -/
theorem YieldsEntries.plain {entries : List (Key × Value)} (h : ∀ e ∈ entries, e.2.isPlain = true) :
    YieldsEntries apply b s entries (.ok (entries.map fun e => (e.1, e.2.settled))) s := by
  induction entries with
  | nil => exact YieldsEntries.nil
  | cons e rest ih =>
    obtain ⟨he, hrest⟩ := List.forall_mem_cons.1 h
    exact YieldsEntries.cons (Yields.plain he) (ih hrest)

/-- A write of a query has the effect that the operation has on the store. -/
theorem perform_within {α : Type} (action : Action Store α) (s : Store) (frames : List Bindings) :
    (within action).perform ⟨s, frames⟩ = ((action.perform s).1, ⟨(action.perform s).2, frames⟩) :=
  rfl

theorem Yields.create {c : Value} {params entries : List (Key × Value)} {v : Value}
    (hc : Yields apply b s c (.ok v) t) (hp : YieldsEntries apply b t params (.ok entries) u) :
    Yields apply b s (.query (.create c params)) ((create v (.dict entries)).perform u).1
      ((create v (.dict entries)).perform u).2 := by
  intro frame frames
  obtain ⟨f₁, h₁⟩ := hc frame frames
  obtain ⟨f₂, h₂⟩ := hp frame f₁
  exact ⟨f₂, by simp [h₁, h₂, perform_within]⟩

theorem Yields.update {target : Value} {params entries : List (Key × Value)} {v : Value}
    (ht : Yields apply b s target (.ok v) t) (hp : YieldsEntries apply b t params (.ok entries) u) :
    Yields apply b s (.query (.update target params)) ((update v (.dict entries)).perform u).1
      ((update v (.dict entries)).perform u).2 := by
  intro frame frames
  obtain ⟨f₁, h₁⟩ := ht frame frames
  obtain ⟨f₂, h₂⟩ := hp frame f₁
  exact ⟨f₂, by simp [h₁, h₂, perform_within]⟩

theorem Yields.replace {target : Value} {params entries : List (Key × Value)} {v : Value}
    (ht : Yields apply b s target (.ok v) t) (hp : YieldsEntries apply b t params (.ok entries) u) :
    Yields apply b s (.query (.replace target params)) ((replace v (.dict entries)).perform u).1
      ((replace v (.dict entries)).perform u).2 := by
  intro frame frames
  obtain ⟨f₁, h₁⟩ := ht frame frames
  obtain ⟨f₂, h₂⟩ := hp frame f₁
  exact ⟨f₂, by simp [h₁, h₂, perform_within]⟩

theorem Yields.delete {target v : Value} (ht : Yields apply b s target (.ok v) t) :
    Yields apply b s (.query (.delete target)) ((delete v).perform t).1
      ((delete v).perform t).2 := by
  intro frame frames
  obtain ⟨f₁, h₁⟩ := ht frame frames
  exact ⟨f₁, by simp [h₁, perform_within]⟩

theorem Yields.createCollection {params entries : List (Key × Value)}
    (hp : YieldsEntries apply b s params (.ok entries) t) :
    Yields apply b s (.query (.createCollection params))
      ((createCollection (.dict entries)).perform t).1
      ((createCollection (.dict entries)).perform t).2 := by
  intro frame frames
  obtain ⟨f₁, h₁⟩ := hp frame frames
  exact ⟨f₁, by simp [h₁, perform_within]⟩

theorem Yields.createIndex {params entries : List (Key × Value)}
    (hp : YieldsEntries apply b s params (.ok entries) t) :
    Yields apply b s (.query (.createIndex params)) ((createIndex (.dict entries)).perform t).1
      ((createIndex (.dict entries)).perform t).2 := by
  intro frame frames
  obtain ⟨f₁, h₁⟩ := hp frame frames
  exact ⟨f₁, by simp [h₁, perform_within]⟩

/-! ## Sequences -/

/-- The expressions come to values, one after another; the last value is the outcome. -/
def YieldsLast (apply : Value → Value → Action Evaluation Value) (b : Bindings) (s : Store)
    (last : Value) (items : List Value) (out : Except Fault Value) (t : Store) : Prop :=
  ∀ frame frames, ∃ frames',
    (evaluateLast apply last items ⟨b, frame⟩).perform ⟨s, frames⟩ = (out, ⟨t, frames'⟩)

theorem YieldsLast.nil {last : Value} : YieldsLast apply b s last [] (.ok last) s :=
  fun _ frames => ⟨frames, rfl⟩

theorem YieldsLast.cons {last e v : Value} {rest : List Value} {out : Except Fault Value}
    (he : Yields apply b s e (.ok v) t) (hrest : YieldsLast apply b t v rest out u) :
    YieldsLast apply b s last (e :: rest) out u := by
  intro frame frames
  obtain ⟨f₁, h₁⟩ := he frame frames
  obtain ⟨f₂, h₂⟩ := hrest frame f₁
  exact ⟨f₂, by simp [evaluateLast, h₁, h₂]⟩

theorem YieldsLast.cons_error {last e : Value} {rest : List Value} {fault : Fault}
    (he : Yields apply b s e (.error fault) t) :
    YieldsLast apply b s last (e :: rest) (.error fault) t := by
  intro frame frames
  obtain ⟨f₁, h₁⟩ := he frame frames
  exact ⟨f₁, by simp [evaluateLast, h₁]⟩

theorem Yields.sequence {items : List Value} {out : Except Fault Value}
    (h : YieldsLast apply b s .null items out t) :
    Yields apply b s (.query (.sequence items)) out t := by
  intro frame frames
  obtain ⟨f₁, h₁⟩ := h frame frames
  exact ⟨f₁, by simp [h₁]⟩

/-- **What every expression of a sequence keeps, the sequence keeps.** -/
theorem Yields.sequence_keeps {P : Store → Prop} {items : List Value}
    (h : ∀ e ∈ items, ∀ s, P s → ∃ out t, Yields apply b s e out t ∧ P t) (hs : P s) :
    ∃ out t, Yields apply b s (.query (.sequence items)) out t ∧ P t := by
  have key : ∀ last, ∃ out t, YieldsLast apply b s last items out t ∧ P t := by
    induction items generalizing s with
    | nil => exact fun last => ⟨.ok last, s, YieldsLast.nil, hs⟩
    | cons e rest ih =>
      intro last
      obtain ⟨he, hrest⟩ := List.forall_mem_cons.1 h
      obtain ⟨out, t, hyields, ht⟩ := he s hs
      cases out with
      | error fault => exact ⟨.error fault, t, YieldsLast.cons_error hyields, ht⟩
      | ok v =>
        obtain ⟨out, u, hlast, hu⟩ := ih hrest ht v
        exact ⟨out, u, YieldsLast.cons hyields hlast, hu⟩
  obtain ⟨out, t, hlast, ht⟩ := key .null
  exact ⟨out, t, Yields.sequence hlast, ht⟩

/-! ## Lists and mapped functions -/

/-- A list whose elements have no effect comes to the list of what they come to. -/
theorem Yields.list {items vs : List Value}
    (h : List.Forall₂ (fun e v => Yields apply b s e (.ok v) s) items vs) :
    Yields apply b s (.list items) (.ok (.list vs)) s := by
  have key : ∀ frame frames, ∃ frames', (evaluateList apply items ⟨b, frame⟩).perform ⟨s, frames⟩ =
      (.ok vs, ⟨s, frames'⟩) := by
    induction h with
    | nil => exact fun frame frames => ⟨frames, rfl⟩
    | cons hv _ ih =>
      intro frame frames
      obtain ⟨f₁, h₁⟩ := hv frame frames
      obtain ⟨f₂, h₂⟩ := ih frame f₁
      exact ⟨f₂, by simp [evaluateList, h₁, h₂, Except.map]⟩
  intro frame frames
  obtain ⟨f₁, h₁⟩ := key frame frames
  exact ⟨f₁, by simp [h₁, Except.map]⟩

/-- A dictionary comes to the dictionary of what its entries come to. -/
theorem Yields.dict {entries vs : List (Key × Value)}
    (h : YieldsEntries apply b s entries (.ok vs) t) :
    Yields apply b s (.dict entries) (.ok (.dict vs)) t := by
  intro frame frames
  obtain ⟨f₁, h₁⟩ := h frame frames
  exact ⟨f₁, by simp [h₁, Except.map]⟩

section Map

variable {α : Type} {parameter : String} {body source : Value} {f : α → Action Store Value}
  {g : α → Value}

/-- A function whose applications act on the store alone acts on it once for each element. -/
theorem perform_mapM_body {xs : List α}
    (hbody : ∀ x ∈ xs, ∀ s, Yields apply (b.put parameter (g x)) s body ((f x).perform s).1
      ((f x).perform s).2) (s : Store) (frames : List Bindings) :
    ∃ frames', ((xs.map g).mapM fun v => do
        evaluateWith apply body (← liftM (bindParameter b (.text parameter) v))).perform ⟨s, frames⟩ =
      (((xs.mapM f).perform s).1, ⟨((xs.mapM f).perform s).2, frames'⟩) := by
  induction xs generalizing s frames with
  | nil => exact ⟨frames, rfl⟩
  | cons x rest ih =>
    obtain ⟨hx, hrest⟩ := List.forall_mem_cons.1 hbody
    obtain ⟨f₁, h₁⟩ := hx s none frames
    have hparameter : bindParameter b (.text parameter) (g x) =
        .ok ⟨b.put parameter (g x), none⟩ := rfl
    rw [List.map_cons, perform_mapM_cons, perform_mapM_cons, perform_bind, perform_liftM, hparameter]
    simp only [h₁]
    rcases (f x).perform s with ⟨_ | y, t⟩
    · exact ⟨f₁, rfl⟩
    · obtain ⟨f₂, h₂⟩ := ih hrest t f₁
      exact ⟨f₂, by simp only [h₂]⟩

/-- **A mapped function is applied to one element after another.** -/
theorem Yields.map {xs : List α} (hs : Yields apply b s source (.ok (.list (xs.map g))) t)
    (hbody : ∀ x ∈ xs, ∀ s, Yields apply (b.put parameter (g x)) s body ((f x).perform s).1
      ((f x).perform s).2) :
    Yields apply b s (.query (.map (.query (.lambda (.text parameter) body)) source))
      (((xs.mapM f).perform t).1.map Value.list) ((xs.mapM f).perform t).2 := by
  intro frame frames
  obtain ⟨f₁, h₁⟩ := hs frame frames
  obtain ⟨f₂, h₂⟩ := perform_mapM_body hbody t f₁
  refine ⟨f₂, ?_⟩
  have hitems : (Value.list (xs.map g)).items = .ok (xs.map g) := rfl
  simp only [evaluateWith, evaluateQuery, perform_bind, h₁, mapOver, hitems, perform_liftM]
  rw [h₂]
  cases ((xs.mapM f).perform t).1 <;> rfl

/-- A function mapped over a page is applied to its data; the page is kept otherwise. -/
theorem Yields.map_page {xs : List α} {entries : Dict Value}
    (hs : Yields apply b s source (.ok (.dict entries)) t)
    (hdata : entries.get? "data" = some (.list (xs.map g)))
    (hbody : ∀ x ∈ xs, ∀ s, Yields apply (b.put parameter (g x)) s body ((f x).perform s).1
      ((f x).perform s).2) :
    Yields apply b s (.query (.map (.query (.lambda (.text parameter) body)) source))
      (((xs.mapM f).perform t).1.map fun vs => .dict (entries.put "data" (.list vs)))
      ((xs.mapM f).perform t).2 := by
  intro frame frames
  obtain ⟨f₁, h₁⟩ := hs frame frames
  obtain ⟨f₂, h₂⟩ := perform_mapM_body hbody t f₁
  refine ⟨f₂, ?_⟩
  have hsubscript : (Value.dict entries).subscript (.text "data") = .ok (.list (xs.map g)) := by
    simp [Value.subscript, Value.find, Value.asKey, Value.toKey?, bind, Except.bind, pure,
      Except.pure, hdata]
  have hitems : (Value.list (xs.map g)).items = .ok (xs.map g) := rfl
  simp only [evaluateWith, evaluateQuery, perform_bind, h₁, mapOver, hsubscript, hitems,
    perform_liftM]
  rw [h₂]
  cases ((xs.mapM f).perform t).1 <;> rfl

end Map

/-! ## Steady expressions -/

/-- An expression that can be sent and comes to a value without any effect, whatever the store and the
names are. -/
structure Steady (e v : Value) : Prop where
  sendable : e.Sendable
  yields : ∀ apply b s, Yields apply b s e (.ok v) s

theorem Steady.plain {v : Value} (h : v.isPlain = true) : Steady v v.settled :=
  ⟨.plain h, fun _ _ _ => .plain h⟩

/-! ## The evaluator -/

/-- What an expression comes to without any bindings is what the evaluator gives. -/
theorem perform_evaluate {e : Value} {out : Except Fault Value}
    (h : Yields (applyClosure depthBound) [] s e out t) : (evaluate e).perform s = (out, t) := by
  obtain ⟨frames, h⟩ := h none []
  simp only [evaluate, perform_of, h]

end DocMapper.Store
