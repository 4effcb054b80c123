import DocMapper.Proofs.Execution.Keeping
import DocMapper.Proofs.Model.Batches
import DocMapper.Proofs.Query.Assigning
/-!
# What the queries of a model assign

The queries for reads and removals are passive if what they are compiled from is
(`Model.isPassive_getQuery` and so on), so they give out neither ids nor times. The query for a
write gives out a time if it comes to the document, and nothing otherwise, and so does the query for
a creation, with an id (`Model.gives_writeQuery`, `Model.gives_createQuery`). Queries for many give
out as much as the documents that they come to ask for.
-/

namespace DocMapper.Model

open Query (named binding)
open Store Action

variable {m : Model} {q : Query}

attribute [local simp] binding Dict.ofFields Dict.ofEntries Dict.putAll Dict.put

/-! ## Reads and removals -/

@[simp] theorem isPassive_collection (m : Model) : m.collection.IsPassive := by simp [collection]

theorem isPassive_collectionOf {v : Value} (hv : v.IsPassive) (h : collectionOf v = .ok q) :
    q.IsPassive := by
  have hnamed : ∀ {r : Except Fault (Option Value)},
      (do let scope ← r; return Query.collection (← v.member "id") scope) = Except.ok q →
      q.IsPassive := by
    intro r h
    obtain ⟨scope, -, h⟩ := Except.bind_eq_ok.1 h
    obtain ⟨name, hname, h⟩ := Except.bind_eq_ok.1 h
    cases h
    exact Query.isPassive_collection.2 (hv.member hname)
  obtain ⟨database, -, h⟩ := Except.bind_eq_ok.1 h
  dsimp only at h
  split at h
  · exact hnamed h
  · obtain ⟨name, -, h⟩ := Except.bind_eq_ok.1 h
    exact hnamed h

/-- What an id compiles to is as passive as the id. -/
theorem isPassive_refQuery {id : Value} (hid : id.IsPassive) (h : m.refQuery id = .ok q) :
    q.IsPassive := by
  have hplaced : ∀ {r : Except Fault Query}, (∀ collection, r = .ok collection →
      collection.IsPassive) →
      (do let collection ← r; return Query.ref (.query collection) (← id.member "id")) =
        Except.ok q → q.IsPassive := by
    intro r hr h
    obtain ⟨collection, hcollection, h⟩ := Except.bind_eq_ok.1 h
    obtain ⟨i, hi, h⟩ := Except.bind_eq_ok.1 h
    cases h
    exact Query.isPassive_ref.2 ⟨hr collection hcollection, hid.member hi⟩
  unfold refQuery at h
  split at h
  · cases h
    simp
  · obtain ⟨given, hgiven, h⟩ := Except.bind_eq_ok.1 h
    dsimp only at h
    split at h
    · exact hplaced (by rintro _ ⟨⟩; exact isPassive_collection m) h
    · exact hplaced (fun _ => isPassive_collectionOf (hid.member hgiven)) h

theorem isPassive_refQueries {ids refs : List Value} (hids : ∀ id ∈ ids, id.IsPassive)
    (h : m.refQueries ids = .ok refs) : ∀ ref ∈ refs, ref.IsPassive := by
  intro ref href
  obtain ⟨id, hid, href⟩ := exists_mem_of_forall₂ (Except.mapM_eq_ok.1 h) href
  obtain ⟨q, hq, href⟩ := Except.bind_eq_ok.1 href
  cases href
  exact isPassive_refQuery (hids id hid) hq

theorem isPassive_getQuery {id : Value} (hid : id.IsPassive) (h : m.getQuery id = .ok q) :
    q.IsPassive := by
  obtain ⟨target, htarget, h⟩ := Except.bind_eq_ok.1 h
  cases h
  simp [refExists, ifExists, isPassive_refQuery hid htarget]

theorem isPassive_getManyQuery {ids : List Value} (hids : ∀ id ∈ ids, id.IsPassive)
    (h : m.getManyQuery ids = .ok q) : q.IsPassive := by
  obtain ⟨refs, hrefs, h⟩ := Except.bind_eq_ok.1 h
  cases h
  simpa [mapVar, getOrNull, refExists] using isPassive_refQueries hids hrefs

theorem isPassive_listQuery {size after before : Value} (hsize : size.IsPassive)
    (hafter : after.IsPassive) (hbefore : before.IsPassive) :
    (m.listQuery size after before).IsPassive := by
  have hpage : (Query.page (.query (.documents (.query m.collection))) (named "size") after
      before).IsPassive := Query.isPassive_page (by simp) (by simp) hafter hbefore
  simp [listQuery, hsize, hpage]

theorem isPassive_countQuery {bound : Value} (hbound : bound.IsPassive) :
    (m.countQuery bound).IsPassive := by
  have hpage : (Query.page (.query (.documents (.query m.collection))) (named "max_docs") .null
      .null).IsPassive := Query.isPassive_page (by simp) (by simp) (by simp) (by simp)
  simp [countQuery, hbound, hpage]

theorem isPassive_matching {index : Value} {terms : List Value}
    (hterms : ∀ term ∈ terms, term.IsPassive) (h : m.indexes.matching index terms = .ok q) :
    q.IsPassive := by
  obtain ⟨_, -, h⟩ := Except.bind_eq_ok.1 h
  obtain ⟨full, -, h⟩ := Except.bind_eq_ok.1 h
  cases h
  exact Query.isPassive_lookUp (by simp) hterms

theorem isPassive_entryRef {index entry target : Value} (hentry : entry.IsPassive)
    (h : m.entryRef index entry = .ok target) : target.IsPassive := by
  obtain ⟨position, -, h⟩ := Except.bind_eq_ok.1 h
  split at h
  · cases h
    exact hentry
  · cases h
    simpa using hentry

theorem isPassive_firstByIndexQuery {index : Value} {terms : List Value}
    (hterms : ∀ term ∈ terms, term.IsPassive) (h : m.firstByIndexQuery index terms = .ok q) :
    q.IsPassive := by
  obtain ⟨matched, hmatched, h⟩ := Except.bind_eq_ok.1 h
  obtain ⟨target, htarget, h⟩ := Except.bind_eq_ok.1 h
  cases h
  have hpage : (Query.page (named "matched") (.int 1) .null .null).IsPassive :=
    Query.isPassive_page (by simp) (by simp) (by simp) (by simp)
  have hfirst := isPassive_entryRef (by simp [hpage]) htarget
  simp [isPassive_matching hterms hmatched, hfirst]

theorem isPassive_listByIndexQuery {index : Value} {terms : List Value} {request : PageRequest}
    (hterms : ∀ term ∈ terms, term.IsPassive) (hafter : request.after.IsPassive)
    (hbefore : request.before.IsPassive) (h : m.listByIndexQuery index terms request = .ok q) :
    q.IsPassive := by
  obtain ⟨matched, hmatched, h⟩ := Except.bind_eq_ok.1 h
  obtain ⟨target, htarget, h⟩ := Except.bind_eq_ok.1 h
  cases h
  have hpage : (Query.page (named "matched") (.int request.size) request.after
      request.before).IsPassive := Query.isPassive_page (by simp) (by simp) hafter hbefore
  have hentry := isPassive_entryRef (by simp) htarget
  simp [isPassive_matching hterms hmatched, hentry, hpage]

theorem isPassive_deleteQuery {id : Value} (hid : id.IsPassive) (h : m.deleteQuery id = .ok q) :
    q.IsPassive := by
  obtain ⟨target, htarget, h⟩ := Except.bind_eq_ok.1 h
  cases h
  simp [refExists, ifExists, isPassive_refQuery hid htarget]

theorem isPassive_deleteManyQuery {ids : List Value} (hids : ∀ id ∈ ids, id.IsPassive)
    (h : m.deleteManyQuery ids = .ok q) : q.IsPassive := by
  obtain ⟨refs, hrefs, h⟩ := Except.bind_eq_ok.1 h
  cases h
  simpa [mapVar, refExists] using isPassive_refQueries hids hrefs

/-! ## Writes -/

/-- What is written for data is as passive as the data. -/
theorem isPassive_stored {data e : Value} (hdata : data.IsPassive) (h : stored data = .ok e) :
    e.IsPassive := by
  unfold stored at h
  split at h
  · exact Value.isPassive_of_isPlain (Value.isSettled_of_stored h).1
  · exact Value.isPassive_of_isPlain (Value.isSettled_of_stored h).1
  · exact Except.ok.inj h ▸ hdata

variable {apply : Value → Value → Action Evaluation Value}

theorem assigns_guardedWrite (w : Writing) {target data : Value} (htarget : target.IsPassive)
    (hdata : data.IsPassive) (scope : Scope) :
    Assigns 0 (evaluateWith apply
      (.query (binding (guardedWrite w target data) (named "result"))) scope) := by
  have hnames : binding (guardedWrite w target data) (named "result") =
      .letIn ([(.text "ref", target), (.text "exists", refExists), (.text "data", data)] ++
        [(.text "result", ifExists (.query (w.query (named "ref") (named "data"))) .null)])
        (named "result") := by
    simp [guardedWrite]
  rw [hnames]
  refine Assigns.letIn_last ?_ (Assigns.ifElse (by simp) (Assigns.write w (by simp) (by simp))
    Assigns.null) scope
  simp [htarget, refExists, hdata]

/-- What the evaluation of a query gives out. -/
theorem gives_evaluate {ids : Nat} {e : Value}
    (h : Assigns ids (evaluateWith (applyClosure depthBound) e {})) :
    GivesOn ids (evaluate e) := fun s => h ⟨s, []⟩

/-- **A write gives out a time if it comes to the document**, and nothing otherwise. -/
theorem gives_writeQuery {w : Writing} {id data : Value} (hid : id.IsPassive)
    (hdata : ∀ e, stored data = .ok e → e.IsPassive) (h : m.writeQuery w id data = .ok q) :
    GivesOn 0 (evaluate (.query q)) := by
  obtain ⟨target, htarget, h⟩ := Except.bind_eq_ok.1 h
  obtain ⟨e, he, h⟩ := Except.bind_eq_ok.1 h
  cases h
  exact gives_evaluate (assigns_guardedWrite w (Value.isPassive_query.2
    (isPassive_refQuery hid htarget)) (hdata e he) _)

/-- **A creation gives out an id and a time if it comes to the document**, and nothing otherwise. -/
theorem gives_createQuery {data ttl : Value} (hdata : data.IsPassive) (httl : ttl.IsPassive) :
    GivesOn 1 (evaluate (.query (m.createQuery data ttl))) := by
  have hparams : (Value.dict ((.text "data", named "data") :: lifetime ttl)).IsPassive := by
    cases ttl with
    | null => simp [lifetime]
    | _ => simp [lifetime, httl]
  rw [createQuery_eq]
  exact gives_evaluate (Assigns.letIn_last (by simpa using hdata)
    (Assigns.create (by simp) hparams) _)

/-! ## Writes of many documents -/

/-- What a query for many documents gives out: it comes to a list, and gives out as much as the
documents in the list ask for. -/
def Totals (ids : Nat) (action : Action Evaluation Value) : Prop :=
  ∀ e v after, action.perform e = (.ok v, after) → ∃ results, v = .list results ∧
    Advanced e.store (ids * countOf results) (countOf results) after.store

section Mapped

variable {ids : Nat} {first parameter last : String} {body : Value}
  (hbody : ∀ scope, Assigns ids (evaluateWith apply body scope))

include hbody

theorem totals_mapVar {scope : Scope} {items : List Value}
    (hitems : scope.bindings.get? (.text first) = some (.list items)) :
    Totals ids (evaluateWith apply (mapVar first parameter body) scope) := by
  intro e v after h
  rw [mapVar, evaluateWith, evaluateQuery, perform_bind_eq_ok] at h
  obtain ⟨source, mid, hsource, h⟩ := h
  have hyields : Yields apply scope.bindings e.store (named first) (.ok (.list items)) e.store :=
    .var hitems
  obtain ⟨frames, hvar⟩ := hyields scope.frame e.frames
  cases hsource.symm.trans hvar
  rw [mapOver, perform_bind_eq_ok] at h
  · obtain ⟨elements, _, helements, h⟩ := h
    cases helements
    obtain ⟨results, last, hresults, h⟩ := perform_bind_eq_ok.1 h
    cases h
    have heach : ∀ item ∈ items, Assigns ids (do
        evaluateWith apply body (← bindParameter scope.bindings (.text parameter) item)) := by
      intro item _ state
      rw [perform_bind, perform_liftM]
      cases bindParameter scope.bindings (.text parameter) item with
      | error fault => exact .failed fault (Advanced.refl state.store)
      | ok inner => exact hbody inner state
    exact ⟨results, rfl, advanced_mapM (e := ⟨e.store, frames⟩) heach hresults⟩
  · rintro _ ⟨⟩

/-- **A query that maps the work on one document over a list** gives out as much as the documents that
it comes to ask for. -/
theorem totals_mapped (hne : first ≠ last) {elements : List Value}
    (helements : ∀ e ∈ elements, e.IsPassive) (scope : Scope) :
    Totals ids (evaluateWith apply (.query (binding [(first, .list elements),
      (last, mapVar first parameter body)] (named last))) scope) := by
  intro e v after h
  rw [binding_mapped hne, evaluateWith, evaluateQuery, perform_bind_eq_ok] at h
  obtain ⟨opened, e₁, hopen, h⟩ := h
  cases hopen
  obtain ⟨bound, e₂, hbound, hlast⟩ := perform_bind_eq_ok.1 h
  rw [List.singleton_append, evaluateBindings, perform_bind_eq_ok] at hbound
  obtain ⟨listed, e₃, hlisted, hbound⟩ := hbound
  obtain ⟨_, e₄, hkeep, hbound⟩ := perform_bind_eq_ok.1 hbound
  rw [evaluateBindings, perform_bind_eq_ok] at hbound
  obtain ⟨mapped, e₅, hmapped, hbound⟩ := hbound
  obtain ⟨_, e₆, hkeep', hbound⟩ := perform_bind_eq_ok.1 hbound
  cases hbound
  have hidle : Idle (evaluateWith apply (.list elements)
      { bindings := scope.bindings, frame := some e.frames.length }) :=
    idle_evaluate (Value.isPassive_list.2 helements) _
  have hidle := hidle { store := e.store, frames := e.frames ++ [scope.bindings] }
  rw [hlisted] at hidle
  rw [evaluateWith, perform_bind_eq_ok] at hlisted
  obtain ⟨items, _, -, hlisted⟩ := hlisted
  cases hlisted
  have hstore : ∀ {scope : Scope} {e after : Evaluation},
      (keepFrame scope).perform e = (.ok (), after) → after.store = e.store := by
    intro scope e after h
    obtain ⟨frames, hframe⟩ := perform_keepFrame scope e
    cases h.symm.trans hframe
    rfl
  obtain ⟨results, rfl, htotal⟩ :=
    totals_mapVar hbody (Dict.get?_put_self _ _ _) _ _ _ hmapped
  have hyields : ∀ {b : Bindings}, b.get? (.text last) = some (.list results) →
      Yields apply b e₂.store (named last) (.ok (.list results)) e₂.store := Yields.var
  obtain ⟨frames, hvar⟩ :=
    hyields (Dict.get?_put_self _ (.text last) (Value.list results)) _ e₂.frames
  cases hlast.symm.trans hvar
  rw [hstore hkeep] at htotal
  rw [← hstore hkeep'] at htotal
  exact ⟨results, rfl, hidle.after htotal⟩

end Mapped

/-- What the evaluation of a query for many documents gives out. -/
def TotalsOn (ids : Nat) (action : Action Store Value) : Prop :=
  ∀ s v t, action.perform s = (.ok v, t) → ∃ results, v = .list results ∧
    Advanced s (ids * countOf results) (countOf results) t

theorem totals_evaluate {ids : Nat} {e : Value}
    (h : Totals ids (evaluateWith (applyClosure depthBound) e {})) : TotalsOn ids (evaluate e) := by
  intro s v t hperform
  obtain ⟨hout, rfl⟩ := Prod.mk.inj hperform
  exact h ⟨s, []⟩ v _ (Prod.ext hout rfl)

/-- An item of a bulk write is compiled into something as passive. -/
theorem isPassive_pairValue {item e : Value} (hitem : item.IsPassive)
    (h : m.pairValue item = .ok e) : e.IsPassive := by
  obtain ⟨⟨id, data⟩, hpair, h⟩ := Except.bind_eq_ok.1 h
  obtain ⟨target, htarget, h⟩ := Except.bind_eq_ok.1 h
  obtain ⟨written, hwritten, h⟩ := Except.bind_eq_ok.1 h
  cases h
  have hparts : id.IsPassive ∧ data.IsPassive := by
    unfold pairOf at hpair
    split at hpair
    · obtain ⟨i, hi, hpair⟩ := Except.bind_eq_ok.1 hpair
      obtain ⟨d, hd, hpair⟩ := Except.bind_eq_ok.1 hpair
      cases hpair
      exact ⟨hitem.subscript hi, hitem.subscript hd⟩
    · obtain ⟨parts, hparts, hpair⟩ := Except.bind_eq_ok.1 hpair
      split at hpair
      · cases hpair
        simpa using hitem.items hparts
      · cases hpair
  simp [Value.object, isPassive_refQuery hparts.1 htarget,
    isPassive_stored hparts.2 hwritten]

/-- **A bulk write gives out a time for each document that it comes to.** -/
theorem totals_writeManyQuery {w : Writing} {items : List Value}
    (hitems : ∀ item ∈ items, item.IsPassive) (h : m.writeManyQuery w items = .ok q) :
    TotalsOn 0 (evaluate (.query q)) := by
  obtain ⟨docs, hdocs, h⟩ := Except.bind_eq_ok.1 h
  cases h
  have hpassive : ∀ e ∈ docs, e.IsPassive := by
    intro e he
    obtain ⟨item, hitem, he⟩ := exists_mem_of_forall₂ (Except.mapM_eq_ok.1 hdocs) he
    exact isPassive_pairValue (hitems item hitem) he
  exact totals_evaluate
    (totals_mapped (assigns_guardedWrite w (by simp) (by simp)) (by simp) hpassive _)

/-- **A bulk creation gives out an id and a time for each document that it comes to.** -/
theorem totals_createManyQuery {data : List Value} (hdata : ∀ v ∈ data, v.IsPassive) :
    TotalsOn 1 (evaluate (.query (m.createManyQuery data))) :=
  totals_evaluate (totals_mapped (Assigns.create (by simp) (by simp)) (by simp) hdata _)

end DocMapper.Model
