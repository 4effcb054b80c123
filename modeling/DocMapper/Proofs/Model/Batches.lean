import DocMapper.Proofs.Data.Outcome
import DocMapper.Proofs.Model.Operations
import DocMapper.Proofs.Store.Changes
/-!
# The operations on many documents

A bulk operation is one query that maps a function over what it was given. What comes of it is a
list of changes of the store (`Store.Change`), made one after another up to the one that is refused:

* `Model.writeManyQuery_spec`: data is written to the place of each item,
* `Model.createManyQuery_spec`: a document comes to the model's collection for each data,
* `Model.deleteManyQuery_spec`: the document of each id is taken away, if there is one.

The operations open the documents of the changes (`Model.answeredMany`), one after another, and pass
over the changes that found none. What a bulk operation is given is compiled as a whole, before
anything is changed, and evaluated before the first change; so the data of an item has to be steady.
-/

namespace DocMapper.Model

open Query Store Action

variable {m : Model} {w : Writing}

/-! ## The queries -/

section Mapped

variable {first parameter last : String} {source body : Value}

theorem binding_mapped (hne : first ≠ last) :
    binding [(first, source), (last, mapVar first parameter body)] (named last) =
      .letIn ([(.text first, source)] ++ [(.text last, mapVar first parameter body)])
        (named last) := by
  simp [binding, Dict.ofFields, Dict.ofEntries, Dict.putAll, Dict.put, hne]

theorem sendable_mapped (hne : first ≠ last) (hs : source.Sendable) (hb : body.Sendable) :
    (binding [(first, source), (last, mapVar first parameter body)] (named last)).Sendable := by
  rw [binding_mapped hne]
  simp [mapVar, hs, hb]

/-- **A query that maps a function over the values of a name** acts on the store once for each. -/
theorem evaluate_mapped_acts (hne : first ≠ last) {α : Type} {xs : List α} {g : α → Value}
    {act : α → Action Store (Option StoredDocument)}
    (hsource : ∀ s, Yields (applyClosure depthBound) [] s source (.ok (.list (xs.map g))) s)
    (hbody : ∀ x ∈ xs, ∀ (b : Bindings) s, Yields (applyClosure depthBound) (b.put parameter (g x)) s
      body (((act x).perform s).1.map Store.shown) ((act x).perform s).2)
    (s : Store) :
    (evaluate (.query (binding [(first, source), (last, mapVar first parameter body)]
        (named last)))).perform s =
      (((xs.mapM act).perform s).1.map fun found => .list (found.map Store.shown),
        ((xs.mapM act).perform s).2) := by
  have hmap : Yields (applyClosure depthBound) (Dict.put [] first (.list (xs.map g))) s
      (mapVar first parameter body) _ _ :=
    Yields.map (f := fun x => Store.shown <$> act x)
      (Yields.var (Dict.get?_put_self _ _ _))
      fun x hx s => by rw [perform_map]; exact hbody x hx _ s
  rw [perform_mapM_map] at hmap
  rw [binding_mapped hne]
  have hbind : ∀ {rest out u}, Binds (applyClosure depthBound) _ s rest out u →
      Binds (applyClosure depthBound) [] s ((.text first, source) :: rest) out u :=
    Binds.cons (hsource s)
  refine (perform_evaluate (Yields.letIn_last [_] hbind hmap)).trans ?_
  cases ((xs.mapM act).perform s).1 <;> rfl

/-- A query that maps a change over the values of a name makes one after another. -/
theorem evaluate_mapped (hne : first ≠ last) {α : Type} {xs : List α} {g : α → Value}
    {change : α → Change}
    (hsource : ∀ s, Yields (applyClosure depthBound) [] s source (.ok (.list (xs.map g))) s)
    (hbody : ∀ x ∈ xs, ∀ (b : Bindings) s, Yields (applyClosure depthBound) (b.put parameter (g x)) s
      body (((change x).apply.perform s).1.map Store.shown) ((change x).apply.perform s).2)
    (s : Store) :
    (evaluate (.query (binding [(first, source), (last, mapVar first parameter body)]
        (named last)))).perform s =
      ((((xs.map change).mapM Change.apply).perform s).1.map fun found =>
          .list (found.map Store.shown),
        (((xs.map change).mapM Change.apply).perform s).2) := by
  rw [List.mapM_map]
  exact evaluate_mapped_acts hne hsource hbody s

end Mapped

/-- Data for the document of a place. -/
structure Parcel where
  collection : String
  id : String
  data : Value

namespace Parcel

/-- A parcel as a bulk write takes it. -/
def shown (p : Parcel) : Value :=
  .object [("ref", .ref (documentRef p.collection p.id)), ("data", p.data)]

/-- The write of the data of a parcel to its place. -/
def change (w : Writing) (p : Parcel) : Change := .write w p.collection p.id (orEmpty p.data)

end Parcel

/-- An item of a bulk write that brings steady data for the place of an id. -/
def Brings (m : Model) (item : Value) (p : Parcel) : Prop :=
  ∃ id data e, pairOf item = .ok (id, data) ∧ m.place? id = some (p.collection, p.id) ∧
    stored data = .ok e ∧ Steady e p.data

/-- An item is compiled into what it brings. -/
theorem Brings.pairValue {item : Value} {p : Parcel} (h : m.Brings item p) :
    ∃ e, m.pairValue item = .ok e ∧ Steady e p.shown := by
  obtain ⟨id, data, e, hpair, hplace, hstored, hsteady⟩ := h
  obtain ⟨q, hq, hsend, href⟩ := refQuery_spec hplace
  refine ⟨.object [("ref", .query q), ("data", e)], ?_, ?_, fun apply b s => ?_⟩
  · rw [Model.pairValue, hpair]
    simp only [bind, Except.bind, hq, hstored]
    rfl
  · refine Value.Sendable.dict ?_
    simpa [Dict.ofFields, Dict.ofEntries, Dict.putAll, Dict.put] using
      ⟨hsend, hsteady.sendable⟩
  · exact Yields.dict (.cons (href apply b s) (.cons (hsteady.yields apply b s) .nil))

/-- A list of steady expressions comes to the list of their values. -/
theorem steady_list {es vs : List Value} (h : List.Forall₂ Steady es vs) :
    Steady (.list es) (.list vs) where
  sendable := by
    rw [Value.sendable_list]
    induction h with
    | nil => simp
    | cons hv _ ih => exact List.forall_mem_cons.2 ⟨hv.sendable, ih⟩
  yields apply b s := Yields.list (h.imp fun _ _ hv => hv.yields apply b s)

/-- **A bulk write makes a write for each item.** -/
theorem writeManyQuery_spec {items : List Value} {parcels : List Parcel}
    (h : List.Forall₂ m.Brings items parcels) :
    ∃ q, m.writeManyQuery w items = .ok q ∧ q.Sendable ∧ ∀ s, (evaluate (.query q)).perform s =
      ((((parcels.map (Parcel.change w)).mapM Change.apply).perform s).1.map fun found =>
          .list (found.map Store.shown),
        (((parcels.map (Parcel.change w)).mapM Change.apply).perform s).2) := by
  obtain ⟨docs, hdocs, hsteady⟩ := Except.exists_mapM_of_forall₂ (fun _ _ h => h.pairValue) h
  have hsource : Steady (.list docs) (.list (parcels.map Parcel.shown)) :=
    steady_list (List.forall₂_map_right_iff.2 hsteady)
  refine ⟨_, by rw [writeManyQuery, hdocs]; rfl, sendable_mapped (by simp) hsource.sendable ?_,
    evaluate_mapped (by simp) (hsource.yields _ _) fun p _ b s => ?_⟩
  · refine Value.sendable_query.2 (sendable_guardedWrite ?_ ?_)
    · exact Value.sendable_query.2 (.select rfl (by simp))
    · exact Value.sendable_query.2 (.select rfl (by simp))
  · have hdoc : (b.put "doc" p.shown).get? "doc" = some p.shown := Dict.get?_put_self _ _ _
    have hlooked : (looked s p.collection p.id (b.put "doc" p.shown)).get? "doc" =
        some p.shown := by
      rw [looked, Dict.get?_put_of_not_same _ _ (by simp), Dict.get?_put_of_not_same _ _ (by simp),
        hdoc]
    exact yields_guardedWrite w (Yields.select (Yields.var hdoc) rfl)
      (Yields.select (Yields.var hlooked) rfl)

/-- **A bulk creation makes a creation for each data.** -/
theorem createManyQuery_spec {data : List Value}
    (h : ∀ v ∈ data, v.IsSettled ∧ ∃ entries, v = .dict entries) :
    (m.createManyQuery data).Sendable ∧ ∀ s, (evaluate (.query (m.createManyQuery data))).perform s =
      ((((data.map fun v => Change.create m.name v .null).mapM Change.apply).perform s).1.map
          fun found => .list (found.map Store.shown),
        (((data.map fun v => Change.create m.name v .null).mapM Change.apply).perform s).2) := by
  have hsource : Steady (.list data) (.list (data.map id)) := by
    refine steady_list (List.forall₂_map_right_iff.2 (List.forall₂_same.2 fun v hv => ?_))
    have hplain := Steady.plain (h v hv).1.1
    rwa [(h v hv).1.settled_eq] at hplain
  refine ⟨sendable_mapped (by simp) hsource.sendable ?_,
    evaluate_mapped (by simp) (hsource.yields _ _) fun v hv b s => ?_⟩
  · exact Value.sendable_query.2 (Sendable.create (by simp [collection])
      (by simp [Dict.ofFields, Dict.ofEntries, Dict.putAll, Dict.put]))
  · obtain ⟨-, entries, rfl⟩ := h v hv
    have hdata : Yields (applyClosure depthBound) (b.put "data" (Value.dict entries)) s
        (named "data") (.ok (.dict entries)) s := Yields.var (Dict.get?_put_self _ _ _)
    have hcreate := Yields.create (Yields.collection m.name none)
      (YieldsEntries.cons (k := .text "data") hdata (YieldsEntries.nil))
    have hperform := perform_create s m.name entries .null
    rw [lifetime] at hperform
    rw [hperform] at hcreate
    have hshown : ((Change.create m.name (.dict entries) .null).apply.perform s).1.map Store.shown =
        (s.createIn m.name (.dict entries) .null).1.map fun doc => .dict doc.members := by
      rw [Change.apply, perform_of]
      cases (s.createIn m.name (.dict entries) .null).1 <;> rfl
    rw [id, hshown]
    exact hcreate

/-- **The ids of a bulk operation are compiled into the references of their places.** -/
theorem refQueries_spec {ids : List Value} {places : List (String × String)}
    (h : List.Forall₂ (fun id p => m.place? id = some p) ids places) :
    ∃ refs, m.refQueries ids = .ok refs ∧
      Steady (.list refs) (.list (places.map fun p => .ref (documentRef p.1 p.2))) := by
  have hcompile : ∀ id (p : String × String), m.place? id = some p →
      ∃ e, (do return Value.query (← m.refQuery id)) = Except.ok e ∧
        Steady e (.ref (documentRef p.1 p.2)) := by
    intro id p hplace
    obtain ⟨q, hq, hsend, href⟩ := refQuery_spec hplace
    exact ⟨.query q, by rw [hq]; rfl, Value.sendable_query.2 hsend, href⟩
  obtain ⟨refs, hrefs, hsteady⟩ := Except.exists_mapM_of_forall₂ hcompile h
  exact ⟨refs, hrefs, steady_list (List.forall₂_map_right_iff.2 hsteady)⟩

/-- **A bulk removal takes away the document of each id**, if there is one. -/
theorem deleteManyQuery_spec {ids : List Value} {places : List (String × String)}
    (h : List.Forall₂ (fun id p => m.place? id = some p) ids places) :
    ∃ q, m.deleteManyQuery ids = .ok q ∧ q.Sendable ∧ ∀ s, (evaluate (.query q)).perform s =
      ((((places.map fun p => Change.take p.1 p.2).mapM Change.apply).perform s).1.map
          fun found => .list (found.map Store.shown),
        (((places.map fun p => Change.take p.1 p.2).mapM Change.apply).perform s).2) := by
  obtain ⟨refs, hrefs, hsource⟩ := refQueries_spec h
  refine ⟨_, by rw [deleteManyQuery, hrefs]; rfl,
    sendable_mapped (by simp) hsource.sendable ?_,
    evaluate_mapped (by simp) (hsource.yields _ _) fun p _ b s => ?_⟩
  · simp
  · have href : Yields (applyClosure depthBound) (b.put "ref" (.ref (documentRef p.1 p.2))) s
        (named "ref") (.ok (.ref (documentRef p.1 p.2))) s := Yields.var (Dict.get?_put_self _ _ _)
    have hexists : Yields _ _ s refExists _ s := Yields.present href (exists?_documentRef s p.1 p.2)
    rw [Change.apply, perform_of, takeAt]
    cases hfind : s.find p.1 p.2 with
    | none => exact Yields.ifElse_false hexists (by simp [Value.truthy, hfind]) Yields.null
    | some doc =>
      refine Yields.ifElse_true hexists (by simp [Value.truthy, hfind]) ?_
      have hdelete := Yields.delete href
      rw [perform_delete hfind, removeAt, hfind] at hdelete
      exact hdelete

/-! ## The operations -/

variable {desk : Desk Memory}

/-- What an operation on many comes to that opens the documents of its changes. -/
def answeredMany (m : Model) (now : Int) (operation target : Value) :
    Except Fault (List (Option StoredDocument)) → Except Fault (List Document)
  | .ok found => (found.filterMap id).mapM (m.opening now)
  | .error cause => .error (transported operation target cause)

/-- The results that are not null are the documents that were found. -/
theorem present_shown (found : List (Option StoredDocument)) :
    present (.list (found.map Store.shown)) =
      .ok ((found.filterMap id).map fun doc => .dict doc.members) := by
  have key : ((found.map Store.shown).filter fun raw => !raw.isNull) =
      (found.filterMap id).map fun doc => .dict doc.members := by
    induction found with
    | nil => rfl
    | cons doc rest ih =>
      cases doc with
      | none => exact ih
      | some doc => exact congrArg _ ih
  rw [← key, present]
  cases found <;> rfl

theorem buildDocuments_members (m : Model) (now : Int) (docs : List StoredDocument) :
    m.buildDocuments now (.list (docs.map fun doc => .dict doc.members)) =
      docs.mapM (m.opening now) := by
  have hcomp : m.buildDocument now ∘ (fun doc : StoredDocument => Value.dict doc.members) =
      m.opening now := funext (m.buildDocument_members now)
  rw [← hcomp, ← List.mapM_map]
  rfl

theorem runs_presentDocuments (m : Model) (desk : Desk Memory)
    (found : List (Option StoredDocument)) :
    desk.Runs (m.presentDocuments (.list (found.map Store.shown)))
      ((found.filterMap id).mapM (m.opening desk.logging.ambient.now)) [] desk.remote.store := by
  rw [← buildDocuments_members]
  exact Desk.Runs.lift_bind (present_shown found) (Desk.Runs.now_bind (Desk.Runs.lift desk _))

/-- Results none of which is null need not be looked through. -/
theorem runs_documentsNow (m : Model) (desk : Desk Memory) {found : List (Option StoredDocument)}
    (h : ∀ doc ∈ found, doc.isSome = true) :
    desk.Runs (m.documentsNow (.list (found.map Store.shown)))
      ((found.filterMap id).mapM (m.opening desk.logging.ambient.now)) [] desk.remote.store := by
  have hshown : found.map Store.shown = (found.filterMap id).map fun doc => .dict doc.members := by
    induction found with
    | nil => rfl
    | cons doc rest ih =>
      obtain ⟨hdoc, hrest⟩ := List.forall_mem_cons.1 h
      obtain ⟨doc, rfl⟩ := Option.isSome_iff_exists.1 hdoc
      exact congrArg _ (ih hrest)
  rw [← buildDocuments_members, ← hshown, documentsNow]
  cases found with
  | nil => exact Desk.Runs.pure desk []
  | cons doc rest => exact Desk.Runs.now_bind (Desk.Runs.lift desk _)

/-- An operation that runs one query that acts on documents, and opens its results. -/
theorem runs_many (h : desk.Ready) (operation target : Value) {q : Query} (hq : q.Sendable)
    {act : Action Store (List (Option StoredDocument))}
    (he : (evaluate (.query q)).perform desk.remote.store =
      ((act.perform desk.remote.store).1.map fun found => .list (found.map Store.shown),
        (act.perform desk.remote.store).2))
    {opens : Value → Op Memory (List Document)}
    (hopens : ∀ mid : Desk Memory, ∀ found, (act.perform desk.remote.store).1 = .ok found →
      mid.Runs (opens (.list (found.map Store.shown)))
        ((found.filterMap id).mapM (m.opening mid.logging.ambient.now)) [] mid.remote.store) :
    desk.Runs (m.run Memory.executor operation target q >>= opens)
      (m.answeredMany desk.logging.ambient.now operation target (act.perform desk.remote.store).1)
      [.query q] (act.perform desk.remote.store).2 := by
  have hrun := runs_run m h operation target hq he
  cases hout : (act.perform desk.remote.store).1 with
  | error cause =>
    rw [hout] at hrun
    exact Desk.Runs.bind_error hrun
  | ok found =>
    rw [hout] at hrun
    refine Desk.Runs.bind_quiet hrun fun mid hmid => ?_
    rw [answeredMany, ← hmid.now, ← hmid.store]
    exact hopens mid found hout

/-- **A bulk write makes a write for each item** and opens the documents that there are. -/
theorem runs_writeMany (h : desk.Ready) (w : Writing) {source : Value} {items : List Value}
    (hsource : source.items = .ok items) {parcels : List Parcel}
    (hitems : List.Forall₂ m.Brings items parcels) :
    ∃ q, m.writeManyQuery w items = .ok q ∧ desk.Runs (m.writeMany Memory.executor w source)
      (m.answeredMany desk.logging.ambient.now (w.operation ++ "_many" : String) (.text m.name)
        (((parcels.map (Parcel.change w)).mapM Change.apply).perform desk.remote.store).1)
      [.query q]
      (((parcels.map (Parcel.change w)).mapM Change.apply).perform desk.remote.store).2 := by
  obtain ⟨q, hq, hsend, heval⟩ := writeManyQuery_spec (w := w) hitems
  exact ⟨q, hq, Desk.Runs.lift_bind hsource (Desk.Runs.lift_bind hq
    (runs_many h _ _ hsend (heval _) fun mid found _ => runs_presentDocuments m mid found))⟩

/-- A creation gives a document, unless it is refused. -/
theorem isSome_of_creations {c : String} {data : List Value} {s : Store}
    {found : List (Option StoredDocument)}
    (h : (((data.map fun v => Change.create c v .null).mapM Change.apply).perform s).1 =
      .ok found) : ∀ doc ∈ found, doc.isSome = true := by
  induction data generalizing s found with
  | nil =>
    cases h
    simp
  | cons v rest ih =>
    rw [List.map_cons, perform_mapM_cons, Change.apply, perform_of] at h
    cases hcreate : (s.createIn c v .null).1 with
    | error cause =>
      rw [hcreate] at h
      cases h
    | ok doc =>
      rw [hcreate] at h
      obtain ⟨others, hothers, rfl⟩ := Except.map_eq_ok.1 h
      exact List.forall_mem_cons.2 ⟨rfl, ih hothers⟩

/-- **A bulk creation makes a creation for each input**, once all of them are built. -/
theorem runs_createMany (h : desk.Ready) {inputs : Value} {built data : List Value}
    (hbuilt : m.buildBulk desk.logging.ambient.now inputs "create_many" .null = .ok built)
    (hstored : built.mapM stored = .ok data)
    (hdata : ∀ v ∈ data, v.IsSettled ∧ ∃ entries, v = .dict entries) :
    desk.Runs (m.createMany Memory.executor inputs)
      (m.answeredMany desk.logging.ambient.now "create_many" (.text m.name)
        (((data.map fun v => Change.create m.name v .null).mapM Change.apply).perform
          desk.remote.store).1) [.query (m.createManyQuery data)]
      (((data.map fun v => Change.create m.name v .null).mapM Change.apply).perform
        desk.remote.store).2 := by
  obtain ⟨hsend, heval⟩ := createManyQuery_spec (m := m) hdata
  exact Desk.Runs.now_bind (Desk.Runs.lift_bind hbuilt (Desk.Runs.lift_bind hstored
    (runs_many h _ _ hsend (heval _) fun mid found hfound =>
      runs_documentsNow m mid (isSome_of_creations hfound))))

/-- **A bulk removal takes away the document of each id** and opens those that there were. -/
theorem runs_deleteMany (h : desk.Ready) {source : Value} {ids : List Value}
    (hsource : source.items = .ok ids) {places : List (String × String)}
    (hids : List.Forall₂ (fun id p => m.place? id = some p) ids places) :
    ∃ q, m.deleteManyQuery ids = .ok q ∧ desk.Runs (m.deleteMany Memory.executor source)
      (m.answeredMany desk.logging.ambient.now "del_many" (.list ids)
        (((places.map fun p => Change.take p.1 p.2).mapM Change.apply).perform
          desk.remote.store).1) [.query q]
      (((places.map fun p => Change.take p.1 p.2).mapM Change.apply).perform
        desk.remote.store).2 := by
  obtain ⟨q, hq, hsend, heval⟩ := deleteManyQuery_spec hids
  exact ⟨q, hq, Desk.Runs.lift_bind hsource (Desk.Runs.lift_bind hq
    (runs_many h _ _ hsend (heval _) fun mid found _ => runs_presentDocuments m mid found))⟩

end DocMapper.Model
