import DocMapper.Proofs.Model.Operations
import DocMapper.Proofs.Schema.Building
/-!
# The operations refine a keyed store

A store is a table of documents under keys, a collection and an id each. The compiled operations on
a single document act on it as reads, writes, removals and creations of one key do:

* `Model.ReadsAt`: a read changes nothing and gives what is there,
* `Model.WritesAt`: a write changes the document of the key, if there is one and no unique index
  refuses it, and nothing else,
* `Model.RemovesAt`: a removal takes the document of the key away, which has to be there,
* `Model.CreatesIn`: a creation fills a fresh key of a collection.

An operation that is refused leaves the store exactly as it was.

Main statement: `Model.operations_refine_keyed_store`.
-/

namespace DocMapper.Model

open Store

variable {m : Model} {desk : Desk Memory} {id : Value} {c i : String}

/-- The operation reads a key: it changes nothing and opens what is there. -/
structure ReadsAt (m : Model) (desk : Desk Memory) (op : Op Memory (Option Document))
    (c i : String) : Prop where
  read : ∃ q, desk.Runs op (m.opened desk.logging.ambient.now (desk.remote.store.find c i))
    [.query q] desk.remote.store

/-- The operation writes data to a key. -/
structure WritesAt (m : Model) (desk : Desk Memory) (op : Op Memory (Option Document))
    (w : Writing) (id : Value) (c i : String) (data : Value) : Prop where
  /-- without a document nothing happens -/
  absent : desk.remote.store.find c i = none →
    ∃ q, desk.Runs op (.ok none) [.query q] desk.remote.store
  /-- a unique index refuses the write before anything has changed -/
  refused : ∀ doc cause, desk.remote.store.find c i = some doc →
    desk.remote.store.checkUnique c (w.result doc.data data) (some i) = .error cause →
    ∃ q, desk.Runs op (.error (transported w.operation id cause)) [.query q] desk.remote.store
  /-- the document has its new data at a new time, and is otherwise as before -/
  written : ∀ doc, desk.remote.store.find c i = some doc →
    desk.remote.store.checkUnique c (w.result doc.data data) (some i) = .ok () →
    ∃ q t, ∃ new : StoredDocument, new = { doc with
        data := w.result doc.data data, ts := desk.remote.store.clock + 1 } ∧
      desk.Runs op (m.opened desk.logging.ambient.now (some new)) [.query q] t ∧
      t.find c i = some new ∧ t.clock = desk.remote.store.clock + 1 ∧
      SameElsewhere c i desk.remote.store t

/-- The operation removes a key. -/
structure RemovesAt (m : Model) (desk : Desk Memory) (op : Op Memory (Option Document))
    (id : Value) (c i : String) : Prop where
  absent : desk.remote.store.find c i = none → ∃ q cause,
    desk.Runs op (.error (transported "delete" id cause)) [.query q] desk.remote.store
  removed : ∀ doc, desk.remote.store.find c i = some doc → ∃ q t,
    desk.Runs op (m.opened desk.logging.ambient.now (some doc)) [.query q] t ∧
    t.find c i = none ∧ t.clock = desk.remote.store.clock ∧ SameElsewhere c i desk.remote.store t

/-- The operation fills a fresh key of a collection with data. -/
structure CreatesIn (m : Model) (desk : Desk Memory) (op : Op Memory Document) (c : String)
    (data ttl : Value) : Prop where
  /-- a unique index refuses the creation before anything has changed -/
  refused : ∀ cause, desk.remote.store.collections.has c →
    desk.remote.store.checkUnique c data none = .error cause →
    ∃ q, desk.Runs op (.error (transported "create" (.text m.name) cause)) [.query q]
      desk.remote.store
  created : desk.remote.store.collections.has c →
    desk.remote.store.checkUnique c data none = .ok () →
    ∃ q t new, new = (
        { ref := documentRef c desk.remote.store.freshId
          ts := desk.remote.store.clock + 1
          data := data
          ttl := ttl } : StoredDocument) ∧
      desk.Runs op (m.opening desk.logging.ambient.now new) [.query q] t ∧
      t.find c desk.remote.store.freshId = some new ∧
      t.clock = desk.remote.store.clock + 1 ∧ t.lastId = desk.remote.store.lastId + 1 ∧
      t.indexes = desk.remote.store.indexes ∧
      ∀ c' i', (c', i') ≠ (c, desk.remote.store.freshId) →
        t.find c' i' = desk.remote.store.find c' i'

theorem readsAt_get (h : desk.Ready) (hid : m.place? id = some (c, i)) :
    m.ReadsAt desk (m.get Memory.executor id) c i := by
  obtain ⟨q, -, hruns⟩ := runs_get h hid
  exact ⟨q, hruns⟩

/-- A write that runs as a write to a place of the store is a write of the key. -/
theorem writesAt_of_runs {op : Op Memory (Option Document)} {w : Writing} {data : Value} {q : Query}
    (hruns : desk.Runs op (m.answered desk.logging.ambient.now w.operation id
        (desk.remote.store.writeAt w c i data).1) [.query q]
      (desk.remote.store.writeAt w c i data).2) :
    m.WritesAt desk op w id c i data := by
  constructor
  case absent =>
    intro hfind
    have hwrite : desk.remote.store.writeAt w c i data = (.ok none, desk.remote.store) := by
      rw [writeAt, hfind]
    rw [hwrite] at hruns
    exact ⟨q, hruns⟩
  case refused =>
    intro doc cause hfind hunique
    have hwrite : desk.remote.store.writeAt w c i data = (.error cause, desk.remote.store) := by
      simp only [writeAt, hfind, hunique]
    rw [hwrite] at hruns
    exact ⟨q, hruns⟩
  case written =>
    intro doc hfind hunique
    have hwrite : desk.remote.store.writeAt w c i data =
        (.ok (some (desk.remote.store.rewritten doc (w.result doc.data data))),
          desk.remote.store.putRewritten c i doc (w.result doc.data data)) := by
      simp only [writeAt, hfind, hunique]
    rw [hwrite] at hruns
    exact ⟨q, _, _, rfl, hruns, find_putRewritten .., rfl, sameElsewhere_putRewritten ..⟩

/-- A removal that runs as the removal of a place of the store is a removal of the key. -/
theorem removesAt_of_runs {op : Op Memory (Option Document)} {q : Query}
    (hs : desk.remote.store.Distinct)
    (hruns : desk.Runs op (m.answered desk.logging.ambient.now "delete" id
      (desk.remote.store.removeAt c i).1) [.query q] (desk.remote.store.removeAt c i).2) :
    m.RemovesAt desk op id c i := by
  constructor
  case absent =>
    intro hfind
    rw [removeAt, hfind] at hruns
    exact ⟨q, nothingToDelete, hruns⟩
  case removed =>
    intro doc hfind
    rw [removeAt, hfind] at hruns
    exact ⟨q, _, hruns, hs.find_erase_self c i, rfl, sameElsewhere_erase ..⟩

theorem createsIn_create (h : desk.Ready) {input built data ttl : Value}
    (hbuilt : m.build desk.logging.ambient.now input "create" .null = .ok built)
    (hstored : built.stored = .ok data) (httl : ttl.isPlain = true) :
    m.CreatesIn desk (m.create Memory.executor input ttl) m.name data ttl.settled := by
  have hsettled := Value.isSettled_of_stored hstored
  obtain ⟨fields, rfl⟩ := exists_record_of_build hbuilt
  cases Value.stored_record hstored
  have hruns := runs_create h hbuilt hstored hsettled.1 httl
  rw [hsettled.settled_eq] at hruns
  constructor
  case refused =>
    intro cause hc hunique
    have hcreate : desk.remote.store.createIn m.name
        (.dict (Value.jsonDumpFields m.schema.signature fields)) ttl.settled =
        (.error cause, desk.remote.store) := by simp only [createIn, hc, if_true, hunique]
    rw [hcreate] at hruns
    exact ⟨_, hruns⟩
  case created =>
    intro hc hunique
    have hcreate : desk.remote.store.createIn m.name
        (.dict (Value.jsonDumpFields m.schema.signature fields)) ttl.settled =
        (.ok (desk.remote.store.insert m.name
            (.dict (Value.jsonDumpFields m.schema.signature fields)) ttl.settled).2,
          (desk.remote.store.insert m.name
            (.dict (Value.jsonDumpFields m.schema.signature fields)) ttl.settled).1) := by
      simp only [createIn, hc, if_true, hunique]
    rw [hcreate] at hruns
    exact ⟨_, _, _, rfl, hruns, find_insert_self .., rfl, rfl, rfl,
      fun c' i' hne => find_insert_of_ne _ _ _ hne⟩

/-- **The operations on single documents refine a keyed store**: over every store, the operations of
a model that has an executor act on the key that an id names as reads, writes and removals of a keyed
store do, and its creations as one that fills a fresh key. The query of a read comes to null exactly
when there is no document. Data of lists and dictionaries is stored as it is given; where it has
tuples, these come to lists.

Collections and documents are kept under distinct names, as dictionaries do; a removal could not
empty a key that stands twice. -/
theorem operations_refine_keyed_store (m : Model) (desk : Desk Memory) (h : desk.Ready)
    (hs : desk.remote.store.Distinct) (id : Value) (c i : String)
    (hid : m.place? id = some (c, i)) :
    (∃ q, m.getQuery id = .ok q ∧ (evaluate (.query q)).perform desk.remote.store =
      (.ok (match desk.remote.store.find c i with
        | none => .null
        | some doc => .dict doc.members), desk.remote.store)) ∧
    m.ReadsAt desk (m.get Memory.executor id) c i ∧
    (∀ w entries, (Value.dict entries).isPlain = true →
      m.WritesAt desk (m.write Memory.executor w id (.dict entries)) w id c i
        (Value.dict entries).settled ∧
      ((Value.dict entries).isUntupled = true →
        (Value.dict entries).settled = .dict entries)) ∧
    m.RemovesAt desk (m.delete Memory.executor id) id c i ∧
    ∀ input built data ttl, m.build desk.logging.ambient.now input "create" .null = .ok built →
      built.stored = .ok data → ttl.isPlain = true →
      m.CreatesIn desk (m.create Memory.executor input ttl) m.name data ttl.settled := by
  refine ⟨?_, readsAt_get h hid, fun w entries hplain => ⟨?_, Value.settled_of_isUntupled⟩, ?_,
    fun _ _ _ _ hbuilt hstored httl => createsIn_create h hbuilt hstored httl⟩
  · obtain ⟨q, hq, -, heval⟩ := getQuery_spec hid
    refine ⟨q, hq, (heval _).trans ?_⟩
    cases desk.remote.store.find c i <;> rfl
  · have hstored : stored (.dict entries) = .ok (.dict entries) := rfl
    obtain ⟨q, -, hruns⟩ := runs_write h hid w hstored hplain
    exact writesAt_of_runs hruns
  · obtain ⟨q, -, hruns⟩ := runs_delete h hid
    exact removesAt_of_runs hs hruns

/-! ## A store of two collections -/

/-- A model of named people, whose age is five unless it is given. -/
def sampleModel : Model where
  name := "users"
  schema :=
    { name := "User"
      fields := [({ name := "name" }, .text),
        ({ name := "age", default := .value (.int 5) }, .optional .int)] }
  indexes := {}

/-- A store with a document in the collection of `sampleModel`, and one of the same id in another. -/
def sampleStore : Store :=
  let empty : Store := { collections := [(.text "users", []), (.text "staff", [])] }
  let one := (empty.insertAs "users" "7" (.object [("name", "Ada"), ("age", .int 36)]) .null).1
  (one.insertAs "staff" "7" (.object [("name", "Bob"), ("age", .int 40)]) .null).1

/-- A desk of `sampleModel` over `sampleStore`. -/
def sampleDesk : Desk Memory where
  remote := { store := sampleStore }
  bound := true
  logging := ⟨sampleModel.newLog, {}⟩

theorem sampleDesk_ready : sampleDesk.Ready := ⟨rfl, _, rfl⟩

theorem sampleStore_distinct : sampleStore.Distinct := by
  refine Store.Distinct.insertAs (Store.Distinct.insertAs ⟨?_, ?_⟩ _ _ _ _) _ _ _ _
  · simp [Dict.Distinct]
  · simp [Dict.distinct_nil]

theorem operations_refine_keyed_store_sample :
    sampleModel.ReadsAt sampleDesk
      (sampleModel.get Memory.executor (.ref (documentRef "staff" "7"))) "staff" "7" ∧
    (∃ q t, ∃ new : StoredDocument,
      sampleDesk.Runs (sampleModel.write Memory.executor .update (.ref (documentRef "staff" "7"))
        (.dict [(.text "age", .int 41)])) (sampleModel.opened 0 (some new)) [.query q] t ∧
      new.data = .dict [(.text "name", "Bob"), (.text "age", .int 41)] ∧
      t.find "staff" "7" = some new ∧ SameElsewhere "staff" "7" sampleStore t) := by
  have hrefine := operations_refine_keyed_store sampleModel sampleDesk sampleDesk_ready
    sampleStore_distinct (.ref (documentRef "staff" "7")) "staff" "7" rfl
  obtain ⟨-, hreads, hwrites, -, -⟩ := hrefine
  refine ⟨hreads, ?_⟩
  obtain ⟨q, t, new, hnew, hruns, hfind, -, helse⟩ :=
    (hwrites .update [(.text "age", .int 41)] rfl).1.written _ rfl rfl
  exact ⟨q, t, new, hruns, by rw [hnew]; rfl, hfind, helse⟩

end DocMapper.Model
