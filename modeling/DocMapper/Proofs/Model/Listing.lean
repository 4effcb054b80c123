import DocMapper.Proofs.Data.RefReading
import DocMapper.Proofs.Model.Batches
import DocMapper.Proofs.Query.Paged
import DocMapper.Proofs.Store.Filed
/-!
# Pages of documents

A model opens the documents of a page one by one (`Model.buildPage_of_page`). The page of a
collection is cut out of its documents, in the order in which they stand there (`Model.runs_list`).
-/

namespace DocMapper.Model

open Query (named binding)
open Store

variable {m : Model} {desk : Desk Memory} {now : Int} {s : Store}

/-! ## Opening pages -/

/-- Documents as queries see them, one after another. -/
def rowsOf (docs : List StoredDocument) : Value := .rows (docs.map fun doc => .dict doc.members)

/-- What an operation comes to that opens the documents of a page. -/
def answeredPage (m : Model) (now : Int) (operation target : Value) :
    Except Fault Value → Except Fault Page
  | .ok v => m.buildPage now v
  | .error cause => .error (transported operation target cause)

/-- **A page of documents is opened document by document.** -/
theorem buildPage_of_data (m : Model) (now : Int) {docs : List StoredDocument}
    {members : Dict Value}
    (h : Value.lookup members "data" = .list (docs.map fun doc => .dict doc.members)) :
    m.buildPage now (.dict members) = (docs.mapM (m.opening now)).map fun opened =>
      ⟨opened, orNull (Value.lookup members "after"), orNull (Value.lookup members "before")⟩ := by
  have hbuild : m.buildPage now (.dict members) = (do
      let opened ← if (Value.lookup members "data").truthy then
        m.buildDocuments now (Value.lookup members "data") else pure []
      return ⟨opened, orNull (Value.lookup members "after"),
        orNull (Value.lookup members "before")⟩) := rfl
  rw [hbuild, h, m.buildDocuments_members now docs]
  cases docs with
  | nil => rfl
  | cons doc rest =>
    -- a page that is not empty has its documents built
    have htruthy : (Value.list ((doc :: rest).map fun doc => .dict doc.members)).truthy = true :=
      rfl
    rw [htruthy, if_pos rfl]
    cases (doc :: rest).mapM (m.opening now) <;> rfl

/-- An operation that runs one query for a page and opens its documents. -/
theorem runs_page (h : desk.Ready) {operation target z x y : Value} {q : Query}
    (hq : q.Sendable) {docs : List StoredDocument}
    (he : (evaluate (.query q)).perform desk.remote.store =
      (page (rowsOf docs) z x y, desk.remote.store)) :
    desk.Runs (m.run Memory.executor operation target q >>= m.pageNow)
      (m.answeredPage desk.logging.ambient.now operation target (page (rowsOf docs) z x y))
      [.query q] desk.remote.store := by
  have hrun := runs_run m h operation target hq he
  cases hpage : page (rowsOf docs) z x y with
  | error cause =>
    rw [hpage] at hrun
    exact Desk.Runs.bind_error hrun
  | ok v =>
    rw [hpage] at hrun
    obtain ⟨start, stop, first, last, -, -, -, rfl⟩ := page_eq_ok.1 hpage
    refine Desk.Runs.bind_quiet hrun fun mid hmid => ?_
    rw [answeredPage, ← hmid.now, ← hmid.store]
    exact Desk.Runs.now_bind (Desk.Runs.lift mid _)

/-! ## The pages of a collection -/

/-- The documents of a collection, in their order. -/
def documentsOf (s : Store) (c : String) : List StoredDocument := (s.documents c).values

theorem sendable_listQuery {size after before : Value} (hsize : size.isPlain = true)
    (hafter : after.isPlain = true) (hbefore : before.isPlain = true) :
    (m.listQuery size after before).Sendable := by
  have hset : (Value.query (.documents (.query m.collection))).Sendable := by simp [collection]
  have hpage := Query.Sendable.page hset (Value.sendable_query.2 (Query.sendable_var.2
    (Value.sendable_text "size"))) (.plain hafter) (.plain hbefore)
  simp [listQuery, binding, Dict.ofFields, Dict.ofEntries, Dict.putAll, Dict.put,
    Value.Sendable.plain hsize, named, hpage]

/-- **A page of a collection is cut out of its documents.** -/
theorem listQuery_spec (hs : s.Filed) {size after before : Value} (hsize : size.isPlain = true)
    (hafter : after.isPlain = true) (hbefore : before.isPlain = true) :
    (m.listQuery size after before).Sendable ∧
      (evaluate (.query (m.listQuery size after before))).perform s =
        (page (rowsOf (documentsOf s m.name)) size.settled after.settled before.settled, s) := by
  refine ⟨sendable_listQuery hsize hafter hbefore, perform_evaluate ?_⟩
  refine Yields.letIn_last [_] (Binds.cons (Yields.plain hsize)) ?_
  have hcollection : Yields (applyClosure depthBound) (Dict.put [] "size" size.settled) s
      (.query m.collection) (.ok (.ref (collectionRef m.name))) s :=
    Yields.collection m.name none
  have hset := Yields.documents hcollection
  refine Yields.page_documents (documentsOf s m.name) (fun doc => .ref doc.ref)
    (Yields.paged hset (Yields.var (Dict.get?_put_self _ _ _)) (by simp [named])
      (Yields.plain hafter) (fun h => by rw [h]; rfl) (Yields.plain hbefore)
      (fun h => by rw [h]; rfl)) ?_ ?_
  · intro doc _ s
    exact Yields.var (Dict.get?_put_self _ _ _)
  · intro doc hdoc
    obtain ⟨e, he, rfl⟩ := List.mem_map.1 hdoc
    exact hs.fetch he

/-- **A list of documents opens a page of the collection.** -/
theorem runs_list (m : Model) (h : desk.Ready) (hs : desk.remote.store.Filed)
    {size after before : Value} (hsize : size.isPlain = true) (hafter : after.isPlain = true)
    (hbefore : before.isPlain = true) :
    desk.Runs (m.list Memory.executor size after before)
      (m.answeredPage desk.logging.ambient.now "list" (.text m.name)
        (page (rowsOf (documentsOf desk.remote.store m.name)) size.settled after.settled
          before.settled)) [.query (m.listQuery size after before)] desk.remote.store := by
  obtain ⟨hsend, heval⟩ := listQuery_spec (m := m) hs hsize hafter hbefore
  exact runs_page h hsend heval

end DocMapper.Model
