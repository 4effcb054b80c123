import DocMapper.Proofs.Model.KeyedStore
/-!
# Documents that were read before

The operations on a document that was read before go by its bare id, so they act on the document of
that id in the model's own collection (`Model.actsAt_own_collection`). That is the document itself
when it was read from there; one that was read by a reference into another collection is passed over,
and its namesake is read, written or removed in its stead (`Model.acts_on_itself_iff`).
-/

namespace DocMapper

/-- The place that the reference of a document names. -/
def StoredDocument.place? (doc : StoredDocument) : Option (String × String) :=
  doc.ref.collection.map fun c => (c.id, doc.ref.id)

/-- Every document is in the place that its reference names. -/
def Store.Located (s : Store) : Prop :=
  ∀ c i doc, s.find c i = some doc → doc.place? = some (c, i)

namespace Store

theorem located_empty : Located {} := by
  intro c i doc h
  simp [find, documents] at h

theorem Located.put {s : Store} (hs : s.Located) {c i : String} {doc : StoredDocument}
    (h : doc.place? = some (c, i)) : (s.put c i doc).Located := by
  intro c' i' doc' hfind
  by_cases heq : (c, i) = (c', i')
  · obtain ⟨rfl, rfl⟩ := Prod.mk.inj heq
    rw [find_put_self] at hfind
    cases hfind
    exact h
  · rw [find_put_of_ne _ _ heq] at hfind
    exact hs c' i' doc' hfind

theorem Located.insertAs {s : Store} (hs : s.Located) (c i : String) (data ttl : Value) :
    (s.insertAs c i data ttl).1.Located :=
  Located.put (s := s.tick) hs rfl

/-- **Writes keep every document in its place.** -/
theorem Located.writeAt {s : Store} (hs : s.Located) (w : Model.Writing) (c i : String)
    (data : Value) : (s.writeAt w c i data).2.Located := by
  unfold Store.writeAt
  split
  · exact hs
  · rename_i doc hfind
    split
    · exact hs
    · exact Located.put (s := s.tick) hs (hs c i doc hfind)

/-- **Removals keep every other document in its place.** -/
theorem Located.removeAt {s : Store} (hs : s.Located) (hd : s.Distinct) (c i : String) :
    (s.removeAt c i).2.Located := by
  unfold Store.removeAt
  split
  · exact hs
  · intro c' i' doc hfind
    by_cases heq : (c', i') = (c, i)
    · obtain ⟨rfl, rfl⟩ := Prod.mk.inj heq
      rw [hd.find_erase_self] at hfind
      cases hfind
    · rw [find_erase_of_ne _ (Ne.symm heq)] at hfind
      exact hs c' i' doc hfind

/-- **Creations keep every document in its place.** -/
theorem Located.createIn {s : Store} (hs : s.Located) (c : String) (data ttl : Value) :
    (s.createIn c data ttl).2.Located := by
  unfold Store.createIn
  split
  · split
    · exact hs
    · exact Located.insertAs (s := s.takeId) hs c s.freshId data ttl
  · exact hs

end Store

namespace Model

open Store

variable {m : Model} {desk : Desk Memory} {doc : Document} {c i : String}

/-- The operations on a document act on the document of a key. What cannot be built or stored fails
before anything is run. -/
structure ActsAt (m : Model) (desk : Desk Memory) (doc : Document) (c i : String) : Prop where
  refresh : m.ReadsAt desk (m.refresh Memory.executor doc) c i
  update : ∀ changes built data, m.candidate desk.logging.ambient.now doc changes = .ok built →
    built.stored = .ok data →
    m.WritesAt desk (m.updateDocument Memory.executor doc changes) .update (.text doc.id) c i data
  replace : ∀ input built data,
    m.build desk.logging.ambient.now input "replace" (.text doc.id) = .ok built →
    built.stored = .ok data →
    m.WritesAt desk (m.replaceDocument Memory.executor doc input) .replace (.text doc.id) c i data
  delete : m.RemovesAt desk (m.deleteDocument Memory.executor doc) (.text doc.id) c i

/-- An operation that builds an instance and then writes it to a bare id. -/
theorem runs_built (h : desk.Ready) {op : Op Memory (Option Document)} (w : Writing)
    {i : String} {built data : Value} (hrecord : ∃ fields, built = .record m.schema.signature fields)
    (hstored : built.stored = .ok data)
    (hop : ∀ out q t, (∀ mid, desk.Becomes [] desk.remote.store mid →
      mid.Runs (m.write Memory.executor w (.text i) built) out [.query q] t) →
        desk.Runs op out [.query q] t) :
    ∃ q, desk.Runs op (m.answered desk.logging.ambient.now w.operation (.text i)
      (desk.remote.store.writeAt w m.name i data).1) [.query q]
      (desk.remote.store.writeAt w m.name i data).2 := by
  have hsettled := Value.isSettled_of_stored hstored
  obtain ⟨fields, rfl⟩ := hrecord
  cases Value.stored_record hstored
  have hplace := m.place?_text i
  have hdata : stored (.record m.schema.signature fields) =
      .ok (.dict (Value.jsonDumpFields m.schema.signature fields)) := hstored
  obtain ⟨q, hq, -, -⟩ := writeQuery_spec (w := w) hplace hdata hsettled.1
  refine ⟨q, hop _ q _ fun mid hmid => ?_⟩
  obtain ⟨q', hq', hruns⟩ := runs_write (hmid.ready h) hplace w hdata hsettled.1
  cases hq.symm.trans hq'
  rwa [hsettled.settled_eq, hmid.now, hmid.store] at hruns

/-- Changes to a document are written to the document of its id in the model's own collection. -/
theorem runs_updateDocument (h : desk.Ready) {changes built data : Value}
    (hbuilt : m.candidate desk.logging.ambient.now doc changes = .ok built)
    (hstored : built.stored = .ok data) :
    ∃ q, desk.Runs (m.updateDocument Memory.executor doc changes)
      (m.answered desk.logging.ambient.now "update" (.text doc.id)
        (desk.remote.store.writeAt .update m.name doc.id data).1) [.query q]
      (desk.remote.store.writeAt .update m.name doc.id data).2 := by
  obtain ⟨merged, -, hbuild⟩ := Except.bind_eq_ok.1 hbuilt
  refine runs_built h .update (exists_record_of_build hbuild) hstored fun out q t hnext => ?_
  exact Desk.Runs.now_bind (Desk.Runs.lift_bind hbuilt (hnext desk (.refl desk)))

/-- An update writes the stored form of its candidate. -/
theorem writesAt_updateDocument (h : desk.Ready) {changes built data : Value}
    (hbuilt : m.candidate desk.logging.ambient.now doc changes = .ok built)
    (hstored : built.stored = .ok data) :
    m.WritesAt desk (m.updateDocument Memory.executor doc changes) .update (.text doc.id) m.name
      doc.id data := by
  obtain ⟨q, hruns⟩ := runs_updateDocument h hbuilt hstored
  exact writesAt_of_runs hruns

/-- New data replaces that of the document of the id in the model's own collection. -/
theorem runs_replaceDocument (h : desk.Ready) {input built data : Value}
    (hbuilt : m.build desk.logging.ambient.now input "replace" (.text doc.id) = .ok built)
    (hstored : built.stored = .ok data) :
    ∃ q, desk.Runs (m.replaceDocument Memory.executor doc input)
      (m.answered desk.logging.ambient.now "replace" (.text doc.id)
        (desk.remote.store.writeAt .replace m.name doc.id data).1) [.query q]
      (desk.remote.store.writeAt .replace m.name doc.id data).2 := by
  exact runs_built h .replace (exists_record_of_build hbuilt) hstored
    fun out q t hnext => (runs_buildNow desk hbuilt).quiet_bind hnext

/-- **The operations on a document act on the document of its id in the model's own collection.** -/
theorem actsAt_own_collection (h : desk.Ready) (hs : desk.remote.store.Distinct) (doc : Document) :
    m.ActsAt desk doc m.name doc.id := by
  have hplace := m.place?_text doc.id
  constructor
  case refresh => exact readsAt_get h hplace
  case update =>
    intro changes built data hbuilt hstored
    exact writesAt_updateDocument h hbuilt hstored
  case replace =>
    intro input built data hbuilt hstored
    obtain ⟨q, hruns⟩ := runs_replaceDocument h hbuilt hstored
    exact writesAt_of_runs hruns
  case delete =>
    obtain ⟨q, -, hruns⟩ := runs_delete h hplace
    exact removesAt_of_runs hs hruns

/-- A document in another collection cannot be removed by way of itself. -/
theorem not_actsAt_elsewhere {doc : Document} (hown : doc.stored.place? = some (c, doc.id))
    (hne : c ≠ m.name) : ∃ desk, desk.Ready ∧ desk.remote.store.Distinct ∧
      desk.remote.store.Located ∧ ¬ m.ActsAt desk doc c doc.id := by
  -- the store has the document and nothing else, so there is none in the model's own collection
  let store := ({} : Store).put c doc.id doc.stored
  let desk : Desk Memory :=
    { remote := { store := store }, bound := true, logging := ⟨m.newLog, {}⟩ }
  have hready : desk.Ready := ⟨rfl, _, rfl⟩
  have hdistinct : desk.remote.store.Distinct := distinct_empty.put c doc.id doc.stored
  refine ⟨desk, hready, hdistinct, located_empty.put hown, fun hacts => ?_⟩
  have hother : desk.remote.store.find m.name doc.id = none := by
    have hkeys : (c, doc.id) ≠ (m.name, doc.id) := fun heq => hne (Prod.mk.inj heq).1
    exact (find_put_of_ne _ _ hkeys).trans (by simp [find, documents])
  obtain ⟨q, cause, hruns⟩ := (actsAt_own_collection hready hdistinct doc).delete.absent hother
  obtain ⟨q', t, hruns', hgone, -⟩ := hacts.delete.removed doc.stored (find_put_self ..)
  obtain ⟨-, hstore⟩ := hruns.unique hruns'
  have hthere : t.find c doc.id = some doc.stored := by rw [← hstore]; exact find_put_self ..
  rw [hthere] at hgone
  cases hgone

/-- What is opened is a stored document with its data checked. -/
theorem stored_of_opened {now : Int} {found : Option StoredDocument}
    (h : m.opened now found = .ok (some doc)) : found = some doc.stored := by
  cases found with
  | none => cases h
  | some stored =>
    obtain ⟨opening, hopening, hsome⟩ := Except.map_eq_ok.1 h
    obtain ⟨data, -, hdata⟩ := Except.map_eq_ok.1 hopening
    cases hsome
    rw [← hdata]

/-- A document that was read by an id is in the place of the id. -/
theorem place_of_get (h : desk.Ready) (hloc : desk.remote.store.Located) {id : Value}
    (hid : m.place? id = some (c, i)) {calls : List Value} {t : Store}
    (hget : desk.Runs (m.get Memory.executor id) (.ok (some doc)) calls t) :
    doc.stored.place? = some (c, i) ∧ doc.id = i := by
  obtain ⟨q, -, hruns⟩ := runs_get h hid
  obtain ⟨hout, -⟩ := hruns.unique hget
  have hplace := hloc c i doc.stored (stored_of_opened hout)
  refine ⟨hplace, ?_⟩
  obtain ⟨collection, -, hpair⟩ := Option.map_eq_some_iff.1 hplace
  exact (Prod.mk.inj hpair).2

/-- **A document is acted on by way of itself exactly if it is in the model's own collection.** Its
operations always act on the document of its id there, whatever its reference says, and leave all
others alone; so they act on the place that the reference names in just that case. A document that
was read by a reference into another collection is one whose reference names that collection. -/
theorem acts_on_itself_iff (m : Model) :
    (∀ desk : Desk Memory, desk.Ready → desk.remote.store.Distinct → ∀ doc,
      m.ActsAt desk doc m.name doc.id) ∧
    (∀ doc c, doc.stored.place? = some (c, doc.id) →
      ((∀ desk : Desk Memory, desk.Ready → desk.remote.store.Distinct →
        desk.remote.store.Located → m.ActsAt desk doc c doc.id) ↔ c = m.name)) ∧
    ∀ desk : Desk Memory, desk.Ready → desk.remote.store.Located → ∀ id c i doc,
      m.place? id = some (c, i) → ∀ q t,
      desk.Runs (m.get Memory.executor id) (.ok (some doc)) [.query q] t →
      doc.stored.place? = some (c, i) ∧ doc.id = i := by
  refine ⟨fun desk h hs doc => actsAt_own_collection h hs doc, fun doc c hown => ⟨fun hall => ?_, ?_⟩,
    fun desk h hloc id c i doc hid q t hget => ?_⟩
  · refine Decidable.byContradiction fun hne => ?_
    obtain ⟨desk, h, hs, hloc, hnot⟩ := not_actsAt_elsewhere hown hne
    exact hnot (hall desk h hs hloc)
  · rintro rfl desk h hs -
    exact actsAt_own_collection h hs doc
  · exact place_of_get h hloc hid hget

theorem sampleStore_located : sampleStore.Located := by
  refine Located.insertAs (Located.insertAs ?_ _ _ _ _) _ _ _ _
  intro c i doc h
  have hempty : Store.documents
      { collections := [(.text "users", []), (.text "staff", [])] } c = [] := by
    simp only [documents, Dict.get?]
    split
    · rfl
    · split <;> rfl
  rw [find, hempty] at h
  cases h

/-- The document of `sampleStore` in the collection that is not the model's. -/
def sampleStranger : Document where
  stored :=
    { ref := documentRef "staff" "7"
      ts := 3
      data := .object [("name", "Bob"), ("age", .int 40)] }
  data := .record sampleModel.schema.signature [("name", "Bob"), ("age", .int 40)]

theorem acts_on_itself_iff_sample :
    sampleModel.ActsAt sampleDesk sampleStranger "users" "7" ∧
    ¬ (∀ desk : Desk Memory, desk.Ready → desk.remote.store.Distinct →
      desk.remote.store.Located → sampleModel.ActsAt desk sampleStranger "staff" "7") ∧
    sampleStranger.stored.place? = some ("staff", "7") := by
  obtain ⟨hown, hiff, hplace⟩ := acts_on_itself_iff sampleModel
  refine ⟨hown sampleDesk sampleDesk_ready sampleStore_distinct sampleStranger, fun hall => ?_, ?_⟩
  · have hname := (hiff sampleStranger "staff" rfl).1 hall
    exact absurd hname (by decide)
  · have hid : sampleModel.place? (.ref (documentRef "staff" "7")) = some ("staff", "7") := rfl
    obtain ⟨q, -, hruns⟩ := runs_get sampleDesk_ready hid
    exact (hplace sampleDesk sampleDesk_ready sampleStore_located _ _ _ sampleStranger hid q _
      hruns).1

end Model

end DocMapper
