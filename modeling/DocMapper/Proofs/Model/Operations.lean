import DocMapper.Model.Operations
import DocMapper.Proofs.Execution.Running
import DocMapper.Proofs.Model.SingleDocument
/-!
# The operations on single documents

What the operations of a model on the document of an id amount to, over the executor in memory: the
store does what `Store.writeAt`, `Store.removeAt` and `Store.createIn` say of the place of the id,
and the model opens the document that the store gives (`Model.opened`). A fault of the store comes
back as a fault of the transport (`Model.transported`).

The operations on a document that was read before are those on the bare id of the document.
-/

namespace DocMapper

open Store

/-- A stored document is read back from its members. -/
theorem StoredDocument.read_members (doc : StoredDocument) :
    StoredDocument.read (.dict doc.members) = .ok doc := by
  obtain ⟨ref, ts, data, ttl⟩ := doc
  have hread : ∀ rest, StoredDocument.read (.dict
      ([(.text "ref", .ref ref), (.text "ts", .int ts), (.text "data", data)] ++ rest)) =
      .ok ⟨ref, ts, data, (Dict.get? rest "ttl").getD .null⟩ := by
    intro rest
    simp only [read, Value.members?, Checked.member, Value.lookup, List.cons_append,
      List.nil_append, Dict.get?, Key.same_text, decide_true, if_true, decide_eq_true_eq,
      String.reduceEq, if_false]
    rfl
  cases ttl <;> rw [members, hread] <;> simp [Dict.get?]

namespace Model

variable {m : Model} {desk : Desk Memory} {id : Value} {c i : String} {now : Int}

/-! ## Opening documents -/

/-- A stored document with its data checked, at a reading of the clock. -/
def opening (m : Model) (now : Int) (doc : StoredDocument) : Except Fault Document :=
  (m.build now doc.data "build_doc" (.text doc.ref.path)).map fun data => ⟨doc, data⟩

/-- A stored document with its data checked, if there is one. -/
def opened (m : Model) (now : Int) : Option StoredDocument → Except Fault (Option Document)
  | none => .ok none
  | some doc => (m.opening now doc).map some

theorem buildDocument_members (m : Model) (now : Int) (doc : StoredDocument) :
    m.buildDocument now (.dict doc.members) = m.opening now doc := by
  rw [buildDocument, doc.read_members]
  rfl

theorem runs_documentNow (m : Model) (desk : Desk Memory) (doc : StoredDocument) :
    desk.Runs (m.documentNow (.dict doc.members)) (m.opening desk.logging.ambient.now doc) []
      desk.remote.store := by
  rw [← buildDocument_members]
  exact Desk.Runs.now_bind (Desk.Runs.lift desk _)

theorem runs_documentOrNone (m : Model) (desk : Desk Memory) (found : Option StoredDocument) :
    desk.Runs (m.documentOrNone (Store.shown found)) (m.opened desk.logging.ambient.now found) []
      desk.remote.store := by
  cases found with
  | none => exact Desk.Runs.pure desk none
  | some doc =>
    have hdoc := runs_documentNow m desk doc
    have htruthy : (Store.shown (some doc)).truthy = true := rfl
    rw [documentOrNone, if_pos htruthy, opened]
    cases hopening : m.opening desk.logging.ambient.now doc with
    | error fault =>
      rw [hopening] at hdoc
      exact Desk.Runs.bind_error hdoc
    | ok opening =>
      rw [hopening] at hdoc
      refine Desk.Runs.quiet_bind hdoc fun mid hmid => ?_
      rw [← hmid.store]
      exact Desk.Runs.pure mid _

/-! ## Operations by id -/

/-- The fault of an operation whose query failed. -/
def transported (operation target : Value) (cause : Fault) : Fault :=
  .transport operation cause.text target (some cause) cause.status cause.errors true

theorem runs_run (m : Model) (h : desk.Ready) (operation target : Value) {q : Query}
    (hq : q.Sendable) {out : Except Fault Value} {t : Store}
    (he : (evaluate (.query q)).perform desk.remote.store = (out, t)) :
    desk.Runs (m.run Memory.executor operation target q)
      (out.mapError (transported operation target)) [.query q] t :=
  Desk.Runs.run h rfl hq he

/-- What an operation comes to that opens the document of a result of the store. -/
def answered (m : Model) (now : Int) (operation target : Value) :
    Except Fault (Option StoredDocument) → Except Fault (Option Document)
  | .ok found => m.opened now found
  | .error cause => .error (transported operation target cause)

/-- An operation that runs one query and opens its result. -/
theorem runs_documentOrNone_run (h : desk.Ready) {operation target : Value} {q : Query}
    (hq : q.Sendable) {out : Except Fault (Option StoredDocument)} {t : Store}
    (he : (evaluate (.query q)).perform desk.remote.store = (out.map Store.shown, t)) :
    desk.Runs (m.run Memory.executor operation target q >>= m.documentOrNone)
      (m.answered desk.logging.ambient.now operation target out) [.query q] t := by
  have hrun := runs_run m h operation target hq he
  cases out with
  | error cause => exact Desk.Runs.bind_error hrun
  | ok found =>
    refine Desk.Runs.bind_quiet hrun fun mid hmid => ?_
    rw [answered, ← hmid.now, ← hmid.store]
    exact runs_documentOrNone m mid found

/-- **A read of an id opens the document of its place.** -/
theorem runs_get (h : desk.Ready) (hid : m.place? id = some (c, i)) :
    ∃ q, m.getQuery id = .ok q ∧ desk.Runs (m.get Memory.executor id)
      (m.opened desk.logging.ambient.now (desk.remote.store.find c i)) [.query q]
      desk.remote.store := by
  obtain ⟨q, hq, hsend, heval⟩ := getQuery_spec hid
  refine ⟨q, hq, Desk.Runs.lift_bind hq ?_⟩
  refine Desk.Runs.quiet_bind (Desk.Runs.onLog_add h .debug _ (.inl rfl)) fun mid hmid => ?_
  have hopened : m.opened mid.logging.ambient.now (mid.remote.store.find c i) =
      m.answered mid.logging.ambient.now "get" id (.ok (mid.remote.store.find c i)) := rfl
  rw [← hmid.now, ← hmid.store, hopened]
  exact runs_documentOrNone_run (hmid.ready h) hsend (heval _)

/-- **A write to an id writes to its place** and opens the document as it is then. -/
theorem runs_write_steady (h : desk.Ready) (hid : m.place? id = some (c, i)) (w : Writing)
    {data e v : Value} (hstored : stored data = .ok e) (hsteady : Steady e v) :
    ∃ q, m.writeQuery w id data = .ok q ∧ desk.Runs (m.write Memory.executor w id data)
      (m.answered desk.logging.ambient.now w.operation id
        (desk.remote.store.writeAt w c i (orEmpty v)).1) [.query q]
      (desk.remote.store.writeAt w c i (orEmpty v)).2 := by
  obtain ⟨q, hq, hsend, heval⟩ := writeQuery_steady (w := w) hid hstored hsteady
  exact ⟨q, hq, Desk.Runs.lift_bind hq (runs_documentOrNone_run h hsend (heval _))⟩

/-- A write of a dictionary to an id writes to its place. -/
theorem runs_write (h : desk.Ready) (hid : m.place? id = some (c, i)) (w : Writing) {data : Value}
    {entries : Dict Value} (hstored : stored data = .ok (.dict entries))
    (hplain : (Value.dict entries).isPlain = true) :
    ∃ q, m.writeQuery w id data = .ok q ∧ desk.Runs (m.write Memory.executor w id data)
      (m.answered desk.logging.ambient.now w.operation id
        (desk.remote.store.writeAt w c i (Value.dict entries).settled).1) [.query q]
      (desk.remote.store.writeAt w c i (Value.dict entries).settled).2 := by
  have hwrite := runs_write_steady h hid w hstored (Steady.plain hplain)
  rwa [Value.settled, orEmpty_dict] at hwrite

/-- **A removal of an id removes the document of its place** and opens it once more. -/
theorem runs_delete (h : desk.Ready) (hid : m.place? id = some (c, i)) :
    ∃ q, m.deleteQuery id = .ok q ∧ desk.Runs (m.delete Memory.executor id)
      (m.answered desk.logging.ambient.now "delete" id (desk.remote.store.removeAt c i).1)
      [.query q] (desk.remote.store.removeAt c i).2 := by
  obtain ⟨q, hq, hsend, heval⟩ := deleteQuery_spec hid
  exact ⟨q, hq, Desk.Runs.lift_bind hq (runs_documentOrNone_run h hsend (heval _))⟩

/-- Building runs no query. -/
theorem runs_buildNow (desk : Desk Memory) {input operation target : Value}
    {out : Except Fault Value}
    (hbuilt : m.build desk.logging.ambient.now input operation target = out) :
    desk.Runs (m.buildNow input operation target) out [] desk.remote.store := by
  rw [← hbuilt]
  exact Desk.Runs.now_bind (Desk.Runs.lift desk _)

/-- A creation from what is not built, or is built and has no stored form, runs no query. -/
theorem runs_create_unfit (desk : Desk Memory) {input : Value} (ttl : Value) {fault : Fault}
    (hunfit : (m.build desk.logging.ambient.now input "create" .null >>= stored) = .error fault) :
    desk.Runs (m.create Memory.executor input ttl) (.error fault) [] desk.remote.store := by
  cases hbuilt : m.build desk.logging.ambient.now input "create" .null with
  | error cause =>
    rw [hbuilt] at hunfit
    cases hunfit
    exact Desk.Runs.bind_error (runs_buildNow desk hbuilt)
  | ok built =>
    rw [hbuilt] at hunfit
    exact (runs_buildNow desk hbuilt).bind_quiet fun mid hmid =>
      hmid.store ▸ Desk.Runs.lift_bind_error hunfit

/-- **A creation takes the stored form of an instance in** at a fresh place of the model's own
collection, and opens the new document. -/
theorem runs_create (h : desk.Ready) {input ttl built : Value} {entries : Dict Value}
    (hbuilt : m.build desk.logging.ambient.now input "create" .null = .ok built)
    (hstored : stored built = .ok (.dict entries)) (hplain : (Value.dict entries).isPlain = true)
    (httl : ttl.isPlain = true) :
    desk.Runs (m.create Memory.executor input ttl)
      (((desk.remote.store.createIn m.name (Value.dict entries).settled ttl.settled).1.mapError
        (transported "create" (.text m.name))).bind (m.opening desk.logging.ambient.now))
      [.query (m.createQuery (.dict entries) ttl)]
      (desk.remote.store.createIn m.name (Value.dict entries).settled ttl.settled).2 := by
  obtain ⟨hsend, heval⟩ := createQuery_spec (m := m) hplain httl
  refine (runs_buildNow desk hbuilt).quiet_bind fun mid hmid => Desk.Runs.lift_bind hstored ?_
  rw [← hmid.now, ← hmid.store]
  have hrun := runs_run m (hmid.ready h) "create" (.text m.name) hsend (heval mid.remote.store)
  cases hout : (mid.remote.store.createIn m.name (Value.dict entries).settled ttl.settled).1 with
  | error cause =>
    rw [hout] at hrun
    exact Desk.Runs.bind_error hrun
  | ok doc =>
    rw [hout] at hrun
    refine Desk.Runs.bind_quiet hrun fun ran hran => ?_
    rw [← hran.now, ← hran.store]
    exact runs_documentNow m ran doc

end Model

end DocMapper
