import DocMapper.Proofs.Model.IndexLookups
import DocMapper.Proofs.Store.AnyQuery
/-!
# Lookups stay within a collection

An index has entries for the documents of one collection, its source. A lookup by it therefore gives
documents of that collection and no others, whatever terms it is asked for and whatever its options
are (`Model.results_listByIndex`, `Model.results_getFirstByIndex`): expressions among them may change
the store while the lookup takes place, but not the index, and a document that has been changed is
still one of its collection.
-/

namespace DocMapper

open Query (named binding)

/-- The document belongs to a collection. -/
def StoredDocument.IsOf (c : String) (doc : StoredDocument) : Prop :=
  doc.ref.collection.map Ref.id = some c

namespace Store

open Action

variable {P : Store → Prop} {apply : Value → Value → Action Evaluation Value} {s : Store}
  {Q R : Value → Prop}

/-! ## What expressions deliver -/

/-- What an expression comes to wherever something holds of the store. -/
theorem Delivers.of_yields {e : Value} {scope : Scope} (h : ∀ s, P s → ∃ out t,
    Yields apply scope.bindings s e out t ∧ P t ∧ ∀ v, out = .ok v → Q v) :
    Delivers P (evaluateWith apply e scope) Q := by
  intro state hstate
  obtain ⟨out, t, hyields, ht, hout⟩ := h state.store hstate
  obtain ⟨frames, hperform⟩ := hyields scope.frame state.frames
  rw [show (evaluateWith apply e scope).perform state = _ from hperform]
  exact ⟨ht, hout⟩

theorem Delivers.var {name : String} {v : Value} {scope : Scope}
    (h : scope.bindings.get? (.text name) = some v) :
    Delivers P (evaluateWith apply (named name) scope) (· = v) :=
  Delivers.of_yields fun s hs => ⟨_, s, Yields.var h, hs, fun _ hv => (Except.ok.inj hv).symm⟩

/-- A `let` of two names that comes to the second one. -/
theorem Delivers.binding {first last : String} (hne : first ≠ last) {x y : Value}
    (hx : ∀ scope, Delivers P (evaluateWith apply x scope) Q)
    (hy : ∀ v, Q v → ∀ scope : Scope, scope.bindings.get? (.text first) = some v →
      Delivers P (evaluateWith apply y scope) R) (scope : Scope) :
    Delivers P
      (evaluateWith apply (.query (Query.binding [(first, x), (last, y)] (named last))) scope) R := by
  have hnames : Dict.ofFields [(first, x), (last, y)] = [(.text first, x), (.text last, y)] := by
    simp [Dict.ofFields, Dict.ofEntries, Dict.putAll, Dict.put, hne]
  have hlast : ∀ scope : Scope, ∀ v, Q v → scope.bindings.get? (.text first) = some v →
      Delivers P (evaluateBindings apply [(.text last, y)] scope) fun inner =>
        ∃ w, R w ∧ inner.bindings.get? (.text last) = some w := by
    intro scope v hv hget
    rw [evaluateBindings]
    refine (hy v hv scope hget).bind fun w hw => Delivers.bind (Keeps.keepFrame _) fun _ _ => ?_
    exact Delivers.pure ⟨w, hw, Dict.get?_put_self _ _ _⟩
  rw [Query.binding, hnames, evaluateWith, evaluateQuery]
  refine (Delivers.openFrame _).bind fun inner _ => ?_
  refine Delivers.bind (Q := fun inner => ∃ w, R w ∧ inner.bindings.get? (.text last) = some w) ?_ ?_
  · rw [evaluateBindings]
    refine (hx inner).bind fun v hv => Delivers.bind (Keeps.keepFrame _) fun _ _ => ?_
    exact hlast _ v hv (Dict.get?_put_self _ _ _)
  · rintro inner ⟨w, hw, hget⟩
    exact (Delivers.var hget).imp fun v hv => hv ▸ hw

/-- A value is a page whose elements have a property. -/
def PageOf (Q : Value → Prop) (v : Value) : Prop :=
  ∃ items rest, v = .dict ((.text "data", .list items) :: rest) ∧ ∀ item ∈ items, Q item

/-- A page of a set shows elements of the set. -/
theorem pageOf_page {entries : List Value} {size after before v : Value}
    (h : page (.rows entries) size after before = .ok v) (hQ : ∀ entry ∈ entries, Q entry) :
    PageOf Q v := by
  obtain ⟨start, stop, first, last, -, -, -, rfl⟩ := page_eq_ok.1 h
  exact ⟨_, _, rfl, fun item hitem =>
    hQ item (List.mem_of_mem_drop (List.mem_of_mem_take hitem))⟩

section Writes

variable (hP : KeptByWrites P) (happly : ∀ f v, Keeps P (apply f v))

include hP happly

/-- A page of a set, cut out by any expressions. -/
theorem Delivers.page {source size after before : Value} {scope : Scope} {entries : List Value}
    (hsource : Delivers P (evaluateWith apply source scope) (· = .rows entries))
    (hQ : ∀ entry ∈ entries, Q entry) :
    Delivers P (evaluateWith apply (.query (Query.page source size after before)) scope)
      (PageOf Q) := by
  rw [Query.page, evaluateWith, evaluateQuery]
  refine hsource.bind fun v hv => ?_
  subst hv
  have hset : isSet (.rows entries) = true := rfl
  simp only [hset, Bool.not_true, Bool.false_eq_true, if_false]
  refine Delivers.bind (keeps_evaluateOption _ _ scope fun effect _ => hP.keptBy happly effect) fun size _ => ?_
  refine Delivers.bind (keeps_evaluateOption _ _ scope fun effect _ => hP.keptBy happly effect) fun after _ => ?_
  refine Delivers.bind (keeps_evaluateOption _ _ scope fun effect _ => hP.keptBy happly effect) fun before _ => ?_
  exact Delivers.lift fun v hv => pageOf_page hv hQ

end Writes

/-- A function that is mapped over a page. -/
theorem Delivers.map_page {parameter : String} {body source : Value} {scope : Scope}
    (hsource : Delivers P (evaluateWith apply source scope) (PageOf Q))
    (hbody : ∀ item, Q item → ∀ inner : Scope, inner.bindings.get? (.text parameter) = some item →
      Delivers P (evaluateWith apply body inner) R) :
    Delivers P (evaluateWith apply
      (.query (.map (.query (.lambda (.text parameter) body)) source)) scope) (PageOf R) := by
  rw [evaluateWith, evaluateQuery.eq_def]
  dsimp only
  refine hsource.bind fun v hv => ?_
  obtain ⟨items, rest, rfl, hitems⟩ := hv
  unfold mapOver
  dsimp only
  refine Delivers.lift_bind fun data hdata => ?_
  have hlist : data = .list items := (Except.ok.inj hdata).symm
  refine Delivers.lift_bind fun elements helements => ?_
  rw [hlist] at helements
  cases helements
  refine Delivers.bind (Q := fun results => ∀ r ∈ results, R r) ?_ ?_
  · refine Delivers.mapM fun item hitem => ?_
    refine Delivers.lift_bind fun inner hinner => ?_
    cases hinner
    exact hbody item (hitems item hitem) _ (Dict.get?_put_self _ _ _)
  · intro results hresults
    exact Delivers.pure ⟨results, rest, by simp [Dict.put], hresults⟩

/-! ## Documents of a collection -/

/-- A value is a document of a collection, as queries see it. -/
def Shows (c : String) (v : Value) : Prop :=
  ∃ doc : StoredDocument, v = .dict doc.members ∧ doc.IsOf c

theorem Filed.isOf (hs : s.Filed) {c : String} {e : Key × StoredDocument}
    (he : e ∈ s.documents c) : e.2.IsOf c := by
  obtain ⟨-, collection, hcollection, hid⟩ := hs.exists_key he
  rw [StoredDocument.IsOf, hcollection, ← hid]
  rfl

/-- A document that is fetched by its reference is one of the collection that this names. -/
theorem Filed.shows_of_fetch (hs : s.Filed) {r : Ref} {c : String} {v : Value}
    (hr : r.collection.map Ref.id = some c) (h : s.fetch (.ref r) = .ok v) : Shows c v := by
  obtain ⟨doc, hdoc, hv⟩ := Except.bind_eq_ok.1 h
  cases hv
  obtain ⟨i, _ | collection, database⟩ := r
  all_goals cases hr
  have hplace : address (.ref ⟨i, some collection, database⟩) = .ok (collection.id, i) := rfl
  have hfind := find_of_documentOf hdoc hplace
  obtain ⟨k, hmem, -⟩ := Dict.exists_mem_of_get? hfind
  exact ⟨doc, rfl, hs.isOf hmem⟩

section Lookups

variable {full : String} {params : IndexParams} {l : IndexLayout} (hp : params.LaysOut l)
  (happly : ∀ f v, Keeps (Indexed full params) (apply f v))

include hp happly

/-- A look-up comes to entries of documents of the source, whatever the terms are. -/
theorem delivers_matching (terms : Option Value) (scope : Scope) :
    Delivers (Indexed full params)
      (evaluateWith apply (.query (.matching (.query (.index (.text full) none)) terms)) scope)
      fun v => ∃ docs : List StoredDocument, v = .rows (docs.map l.entry) ∧
        ∀ doc ∈ docs, doc.IsOf l.source := by
  have hindex : Delivers (Indexed full params)
      (evaluateWith apply (.query (.index (.text full) none)) scope) (· = .ref (indexRef full)) :=
    Delivers.of_yields fun s hs => ⟨_, s, Yields.index none (Yields.plain rfl), hs,
      fun _ hv => (Except.ok.inj hv).symm⟩
  rw [evaluateWith, evaluateQuery]
  refine hindex.bind fun v hv => Delivers.get_bind fun state hstate => ?_
  subst hv
  refine Delivers.lift_bind fun found hfound => ?_
  have hparams : found = params := by
    have hname : IndexParams.idOf (.ref (indexRef full)) = .ok full := rfl
    have hlookup : state.store.index (.ref (indexRef full)) = .ok params := by
      simp only [Store.index, hname, bind, Except.bind, hstate.get?]
      rfl
    exact Except.ok.inj (hfound.symm.trans hlookup)
  subst hparams
  refine Delivers.bind (keeps_evaluateOption _ _ scope fun effect _ =>
    (keptByWrites_indexed _ _).keptBy happly effect) fun asked _ => Delivers.get_bind fun state hstate => ?_
  refine Delivers.lift_bind fun entries hentries => ?_
  obtain ⟨docs, rfl, hdocs⟩ := exists_docs_of_entriesOf hp hentries
  refine Delivers.pure ⟨docs, rfl, fun doc hdoc => ?_⟩
  obtain ⟨e, he, rfl⟩ := List.mem_map.1 (hdocs doc hdoc)
  exact hstate.filed.isOf he

theorem delivers_lookUp (terms : List Value) (scope : Scope) :
    Delivers (Indexed full params)
      (evaluateWith apply (.query (Query.lookUp (.query (.index (.text full) none)) terms)) scope)
      fun v => ∃ docs : List StoredDocument, v = .rows (docs.map l.entry) ∧
        ∀ doc ∈ docs, doc.IsOf l.source := by
  match terms with
  | [] => exact delivers_matching hp happly none scope
  | [term] => exact delivers_matching hp happly (some term) scope
  | first :: second :: rest => exact delivers_matching hp happly (some (.list _)) scope

end Lookups

end Store

namespace Model

open Store

variable {m : Model} {name : Value} {full : String} {params : IndexParams} {l : IndexLayout}
  {apply : Value → Value → Action Evaluation Value}

/-! ## The queries of lookups -/

section Queries

variable (hl : m.indexes.layout name m.name = .ok l)
  (hfull : m.indexes.fullName name = .ok full) (hp : params.LaysOut l)
  (happly : ∀ f v, Keeps (Indexed full params) (apply f v))

include hl hfull hp happly

/-- **The query for a page by an index** comes to a page of documents of its source. -/
theorem delivers_listByIndexQuery {terms : List Value} {request : PageRequest} {q : Query}
    (h : m.listByIndexQuery name terms request = .ok q) (scope : Scope) :
    Delivers (Indexed full params) (evaluateWith apply (.query q) scope)
      (PageOf (Shows m.name)) := by
  obtain ⟨matched, hmatched, h⟩ := Except.bind_eq_ok.1 h
  obtain ⟨target, htarget, h⟩ := Except.bind_eq_ok.1 h
  cases h
  obtain ⟨_, -, hmatched⟩ := Except.bind_eq_ok.1 hmatched
  obtain ⟨full', hfull', hmatched⟩ := Except.bind_eq_ok.1 hmatched
  cases hfull.symm.trans hfull'
  cases hmatched
  obtain ⟨target', htarget', -, hyields⟩ := entryRef_spec hl (Query.sendable_named "entry")
  cases htarget.symm.trans htarget'
  obtain ⟨hsource, -⟩ := IndexCatalog.exists_of_layout hl
  refine Delivers.binding (by simp) (delivers_lookUp hp happly terms) ?_ scope
  rintro v ⟨docs, rfl, hdocs⟩ scope hget
  refine Delivers.map_page (Q := fun v => ∃ doc : StoredDocument, v = l.entry doc ∧
    doc.IsOf l.source) (Delivers.page (keptByWrites_indexed _ _) happly (Delivers.var hget) ?_) ?_
  · intro entry hentry
    obtain ⟨doc, hdoc, rfl⟩ := List.mem_map.1 hentry
    exact ⟨doc, rfl, hdocs doc hdoc⟩
  · rintro item ⟨doc, rfl, hdoc⟩ inner hinner
    refine Delivers.of_yields fun s hs => ⟨_, s, Yields.get (hyields _ _ s doc
      (Yields.var hinner)), hs, fun v hv => hs.filed.shows_of_fetch ?_ hv⟩
    rwa [← hsource]

/-- **The query for the first document by an index** comes to a document of its source, or to null. -/
theorem delivers_firstByIndexQuery {terms : List Value} {q : Query}
    (h : m.firstByIndexQuery name terms = .ok q) (scope : Scope) :
    Delivers (Indexed full params) (evaluateWith apply (.query q) scope)
      fun v => v = .null ∨ Shows m.name v := by
  obtain ⟨matched, hmatched, h⟩ := Except.bind_eq_ok.1 h
  obtain ⟨target, htarget, h⟩ := Except.bind_eq_ok.1 h
  cases h
  obtain ⟨_, -, hmatched⟩ := Except.bind_eq_ok.1 hmatched
  obtain ⟨full', hfull', hmatched⟩ := Except.bind_eq_ok.1 hmatched
  cases hfull.symm.trans hfull'
  cases hmatched
  obtain ⟨target', htarget', -, hyields⟩ := entryRef_spec hl sendable_firstEntry
  cases htarget.symm.trans htarget'
  obtain ⟨hsource, -⟩ := IndexCatalog.exists_of_layout hl
  refine Delivers.binding (by simp) (delivers_lookUp hp happly terms) ?_ scope
  rintro v ⟨docs, rfl, hdocs⟩ scope hget
  refine Delivers.of_yields fun s hs => ⟨_, s, yields_found hget fun doc => hyields _ _ s doc, hs,
    fun v hv => ?_⟩
  cases docs with
  | nil => exact Or.inl (Except.ok.inj hv).symm
  | cons doc rest =>
    refine Or.inr (hs.filed.shows_of_fetch ?_ hv)
    rw [← hsource]
    exact hdocs doc List.mem_cons_self

end Queries

/-! ## The operations -/

/-- What is opened is the document that was shown. -/
theorem isOf_of_buildDocument {now : Int} {c : String} {raw : Value} {opened : Document}
    (hraw : Shows c raw) (h : m.buildDocument now raw = .ok opened) : opened.stored.IsOf c := by
  obtain ⟨doc, rfl, hdoc⟩ := hraw
  rw [buildDocument_members] at h
  obtain ⟨data, -, rfl⟩ := Except.map_eq_ok.1 h
  exact hdoc

theorem isOf_of_buildPage {now : Int} {c : String} {v : Value} {page : Page}
    (hv : PageOf (Shows c) v) (h : m.buildPage now v = .ok page) :
    ∀ opened ∈ page.documents, opened.stored.IsOf c := by
  obtain ⟨items, rest, rfl, hitems⟩ := hv
  obtain ⟨members, hmembers, h⟩ := Except.bind_eq_ok.1 h
  cases hmembers
  have hdata : Value.lookup ((.text "data", .list items) :: rest) "data" = .list items := by
    simp [Value.lookup, Dict.get?]
  simp only [hdata] at h
  intro opened hopened
  split at h
  · obtain ⟨documents, hdocuments, h⟩ := Except.bind_eq_ok.1 h
    cases h
    obtain ⟨raws, hraws, hbuilt⟩ := Except.bind_eq_ok.1 hdocuments
    cases hraws
    obtain ⟨raw, hraw, hopens⟩ := exists_mem_of_forall₂ (Except.mapM_eq_ok.1 hbuilt) hopened
    exact isOf_of_buildDocument (hitems raw hraw) hopens
  · cases h
    cases hopened

section Operations

variable {desk : Desk Memory} (hl : m.indexes.layout name m.name = .ok l)
  (hfull : m.indexes.fullName name = .ok full) (hp : params.LaysOut l) (h : desk.Ready)
  (hstore : Indexed full params desk.remote.store)

include hl hfull hp h hstore

/-- **A list by an index gives documents of the model's own collection**, whatever it is given. -/
theorem results_listByIndex (given options : Value) :
    desk.Results (m.listByIndex Memory.executor name given options) fun page =>
      ∀ opened ∈ page.documents, opened.stored.IsOf m.name := by
  refine Desk.Results.lift_bind fun request _ => Desk.Results.lift_bind fun terms _ =>
    Desk.Results.lift_bind fun q hq => Desk.Results.run_bind h rfl fun v hv mid => ?_
  have hpage : PageOf (Shows m.name) v :=
    (delivers_listByIndexQuery hl hfull hp (keeps_applyClosure (keptByWrites_indexed _ _) _) hq {}
      ⟨_, []⟩ hstore).2 v hv
  obtain ⟨items, rest, rfl, -⟩ := id hpage
  refine ⟨_, _, _, Desk.Runs.now_bind (Desk.Runs.lift mid _), fun page hpage' => ?_⟩
  exact isOf_of_buildPage hpage hpage'

/-- **A look for the first document by an index gives one of the model's own collection**, or none. -/
theorem results_getFirstByIndex (terms : List Value) :
    desk.Results (m.getFirstByIndex Memory.executor name terms) fun found =>
      ∀ opened, found = some opened → opened.stored.IsOf m.name := by
  refine Desk.Results.lift_bind fun q hq => Desk.Results.run_bind h rfl fun v hv mid => ?_
  have hfound : v = .null ∨ Shows m.name v :=
    (delivers_firstByIndexQuery hl hfull hp (keeps_applyClosure (keptByWrites_indexed _ _) _) hq {}
      ⟨_, []⟩ hstore).2 v hv
  rcases hfound with rfl | ⟨doc, rfl, hdoc⟩
  · exact ⟨_, _, _, Desk.Runs.pure mid none, by rintro _ ⟨rfl⟩ _ ⟨⟩⟩
  · refine ⟨_, _, _, runs_documentOrNone m mid (some doc), fun found hfound opened hopened => ?_⟩
    subst hopened
    obtain ⟨opening, hopening, hsome⟩ := Except.map_eq_ok.1 hfound
    cases hsome
    obtain ⟨data, -, rfl⟩ := Except.map_eq_ok.1 hopening
    exact hdoc

end Operations

end Model

end DocMapper
