import DocMapper.Proofs.Model.Handles
import DocMapper.Proofs.Schema.Surviving
/-!
# Changes to documents that were read

Changes to a document are laid over its data and checked, which gives a candidate; the stored form of
the candidate then patches what is stored. In a patch null stands for the removal of what is there,
so that the candidate is not always what is read afterwards: a field that is null in it comes back as
its default (`Model.update_persists_iff`).
-/

namespace DocMapper.Model

open Store FieldType

variable {m : Model} {desk : Desk Memory} {doc : Document} {now : Int} {input c : Value}

/-! ## Building from plain data -/

/-- Plain data is no instance, so it is checked as it is. -/
theorem plain_of_isPlain {s : Schema} {v : Value} (h : v.isPlain = true) : s.plain v = v := by
  cases v with
  | record => simp [Value.isPlain] at h
  | _ => simp [Schema.plain, Value.isInstance]

/-- What is built from plain data fits the schema. -/
theorem fits_of_build (hs : m.schema.type.IsStorable) {operation target : Value}
    (hplain : (m.schema.plain input).isPlain = true)
    (h : m.build now input operation target = .ok c) : Fits {} m.schema.type c :=
  fits_of_check hs hplain (build_eq_ok.1 h)

/-- Building from plain data is checking it. -/
theorem build_plain {operation target : Value} (hplain : input.isPlain = true) :
    m.build now input operation target = .ok c ↔ m.schema.type.check now {} input = .ok c := by
  rw [build_eq_ok, plain_of_isPlain hplain, Schema.check]

/-- An instance that fits the schema has a stored form. -/
theorem stored_of_fits (hs : m.schema.type.IsStorable) (h : Fits {} m.schema.type c) :
    c.stored = .ok (c.jsonDump m.schema.type.storing) := by
  rw [Value.stored, unstorable?_of_fits hs h]
  rfl

/-! ## Documents that were created -/

/-- The document was stored by a creation from an input. -/
def Created (m : Model) (input : Value) (stored : StoredDocument) : Prop :=
  ∃ (desk : Desk Memory) (ttl : Value) (made : Document) (calls : List Value) (t : Store),
    desk.Ready ∧ ttl.isPlain = true ∧
    desk.Runs (m.create Memory.executor input ttl) (.ok made) calls t ∧ made.stored = stored

/-- **What a creation stores** is the stored form of the instance that was built. -/
theorem Created.data_eq {stored : StoredDocument} (h : m.Created input stored) :
    ∃ now built, m.build now input "create" .null = .ok built ∧
      built.stored = .ok stored.data := by
  obtain ⟨desk, ttl, made, calls, t, hready, httl, hcreate, rfl⟩ := h
  cases hdata : m.build desk.logging.ambient.now input "create" .null >>= stored with
  | error fault => cases ((runs_create_unfit desk ttl hdata).unique hcreate).1
  | ok data =>
    obtain ⟨built, hbuilt, hstored⟩ := Except.bind_eq_ok.1 hdata
    refine ⟨_, built, hbuilt, ?_⟩
    obtain ⟨held, rfl⟩ := exists_record_of_build hbuilt
    have hsettled := Value.isSettled_of_stored hstored
    cases Value.stored_record hstored
    have hruns := runs_create hready hbuilt hstored hsettled.1 httl
    obtain ⟨doc, hcreated, hopening⟩ := Except.bind_eq_ok.1 (hruns.unique hcreate).1
    obtain ⟨data, -, rfl⟩ := Except.map_eq_ok.1 hopening
    cases eq_fresh_of_createIn (Except.mapError_eq_ok.1 hcreated)
    rw [fresh, hsettled.settled_eq]
    exact hstored

/-- From plain data, or from an instance of the schema, a creation stores the stored form of an
instance that fits the schema. -/
theorem Created.fits {stored : StoredDocument} (hs : m.schema.type.IsStorable)
    (hinput : (m.schema.plain input).isPlain = true) (h : m.Created input stored) :
    ∃ o, Fits {} m.schema.type o ∧ stored.data = o.jsonDump m.schema.type.storing := by
  obtain ⟨now, built, hbuilt, hstored⟩ := h.data_eq
  have hfits := fits_of_build hs hinput hbuilt
  rw [stored_of_fits hs hfits, Except.ok.injEq] at hstored
  exact ⟨built, hfits, hstored.symm⟩

theorem Created.isPlain {stored : StoredDocument} (h : m.Created input stored) :
    stored.data.isPlain = true := by
  obtain ⟨now, built, -, hstored⟩ := h.data_eq
  exact (Value.isSettled_of_stored hstored).1

/-! ## Documents that were read -/

/-- What was opened is the stored data, checked. -/
theorem check_of_opened {found : StoredDocument} (hplain : found.data.isPlain = true)
    (h : m.opened now (some found) = .ok (some doc)) :
    doc.stored = found ∧ m.schema.type.check now {} found.data = .ok doc.data := by
  obtain ⟨opening, hopening, hsome⟩ := Except.map_eq_ok.1 h
  cases hsome
  obtain ⟨data, hdata, rfl⟩ := Except.map_eq_ok.1 hopening
  exact ⟨rfl, (build_plain hplain).1 hdata⟩

theorem opened_of_check {found : StoredDocument} {data : Value}
    (hplain : found.data.isPlain = true)
    (h : m.schema.type.check now {} found.data = .ok data) :
    m.opened now (some found) = .ok (some ⟨found, data⟩) := by
  rw [opened, opening, (build_plain hplain).2 h]
  rfl

/-- What a document has and what is laid over it. -/
theorem merged_eq_ok {changes : Dict Value} {fields : List (String × Value)} {schema : Signature}
    (hdoc : doc.data = .record schema fields) : doc.merged (.dict changes) =
      .ok (.dict (Value.mergeEntries (Value.dumpFields fields) changes)) := by
  rw [Document.merged, hdoc, Value.dump]
  rfl

/-- A candidate is the check of the data of the document with the changes laid over it. -/
theorem candidate_eq_ok (hs : m.schema.type.IsStorable) (hdoc : Fits {} m.schema.type doc.data)
    {changes : Dict Value} (hplain : (Value.dict changes).isPlain = true) :
    m.candidate now doc (.dict changes) = .ok c ↔ ∃ held,
      doc.data = .record m.schema.signature held ∧
      (∀ e ∈ Value.mergeEntries (Value.dumpFields held) changes, e.2.isPlain = true) ∧
      m.schema.type.check now {}
        (.dict (Value.mergeEntries (Value.dumpFields held) changes)) = .ok c := by
  have hdump := isPlain_dump_of_fits hs hdoc
  obtain ⟨held, hrecord, -⟩ := hdoc
  rw [hrecord, Value.dump] at hdump
  have hmerged := Value.isPlain_mergeEntries (Value.isPlain_dict.1 hplain)
    (Value.isPlain_dict.1 hdump)
  rw [candidate, merged_eq_ok hrecord]
  refine Iff.trans (build_plain (Value.isPlain_dict.2 hmerged)) ⟨fun hcheck => ?_, ?_⟩
  · exact ⟨held, hrecord, hmerged, hcheck⟩
  · rintro ⟨held', hrecord', -, hcheck⟩
    cases hrecord.symm.trans hrecord'
    exact hcheck

/-- A candidate fits the schema. -/
theorem fits_of_candidate (hs : m.schema.type.IsStorable) (hdoc : Fits {} m.schema.type doc.data)
    {changes : Dict Value} (hplain : (Value.dict changes).isPlain = true)
    (h : m.candidate now doc (.dict changes) = .ok c) : Fits {} m.schema.type c := by
  obtain ⟨held, -, hmerged, hcheck⟩ := (candidate_eq_ok hs hdoc hplain).1 h
  exact fits_of_check hs (Value.isPlain_dict.2 hmerged) hcheck

/-- The document was read while it was stored like this. -/
def ReadFrom (m : Model) (stored : StoredDocument) (doc : Document) : Prop :=
  ∃ (desk : Desk Memory) (calls : List Value) (t : Store), desk.Ready ∧
    desk.remote.store.find m.name stored.ref.id = some stored ∧
    desk.Runs (m.get Memory.executor (.text stored.ref.id)) (.ok (some doc)) calls t

/-- A document that was read is the stored one with its data checked. -/
theorem ReadFrom.check {stored : StoredDocument} (h : m.ReadFrom stored doc)
    (hplain : stored.data.isPlain = true) : doc.stored = stored ∧
      ∃ now, m.schema.type.check now {} stored.data = .ok doc.data := by
  obtain ⟨desk, calls, t, hready, hfind, hget⟩ := h
  obtain ⟨q, -, hruns⟩ := runs_get hready (m.place?_text stored.ref.id)
  rw [hfind] at hruns
  obtain ⟨hstored, hcheck⟩ := check_of_opened hplain (hruns.unique hget).1
  exact ⟨hstored, _, hcheck⟩

/-! ## What is read after an update -/

/-- The update gives a document whose data is the candidate, and so does every later read as long as
the store is as the update left it. -/
def Persists (m : Model) (desk : Desk Memory) (doc : Document) (changes c : Value) : Prop :=
  ∃ new calls t,
    desk.Runs (m.updateDocument Memory.executor doc changes) (.ok (some new)) calls t ∧
    new.data.same c = true ∧
    ∀ later : Desk Memory, later.Ready → later.remote.store = t → ∃ found calls',
      later.Runs (m.get Memory.executor (.text doc.id)) (.ok (some found)) calls' t ∧
      found.data.same c = true

/-- **Changes to a document are persisted as their candidate exactly if the candidate survives** being
patched onto what is stored, and its timestamps have offsets of whole minutes. -/
theorem update_persists_iff (m : Model) (hs : m.schema.type.IsStorable) {input : Value}
    (hinput : (m.schema.plain input).isPlain = true) {stored : StoredDocument}
    (hcreated : m.Created input stored) {desk : Desk Memory} (h : desk.Ready)
    (hthere : desk.remote.store.find m.name stored.ref.id = some stored) {doc : Document}
    (hread : m.ReadFrom stored doc) {changes : Dict Value}
    (hchanges : (Value.dict changes).isPlain = true) {c : Value}
    (hc : m.candidate desk.logging.ambient.now doc (.dict changes) = .ok c)
    (hunique : desk.remote.store.checkUnique m.name
      (stored.data.patch (c.jsonDump m.schema.type.storing)) (some stored.ref.id) = .ok ()) :
    m.Persists desk doc (.dict changes) c ↔
      m.schema.type.Survives (some stored.data) c ∧ c.IsMinutely := by
  have hplain := hcreated.isPlain
  obtain ⟨rfl, now, hcheck⟩ := hread.check hplain
  have hdoc := fits_of_check hs hplain hcheck
  have hcfits := fits_of_candidate hs hdoc hchanges hc
  have hstored := stored_of_fits hs hcfits
  have hcplain := (Value.isSettled_of_stored hstored).1
  have hold : IsStored m.schema.type (some doc.stored.data) := by
    obtain ⟨o, ho, hdata⟩ := hcreated.fits hs hinput
    intro base hbase
    exact ⟨{}, o, ho, hdata.symm.trans (Option.some.inj hbase)⟩
  obtain ⟨q, t, new, hnew, hruns, hfind, -⟩ :=
    (writesAt_updateDocument h hc hstored).written doc.stored hthere hunique
  have hdata : new.data = Value.patchAt (some doc.stored.data)
      (c.jsonDump m.schema.type.storing) := by rw [hnew]; rfl
  have hnewPlain : new.data.isPlain = true := by
    rw [hdata]
    refine Value.isPlain_patchAt hcplain fun old hold => ?_
    cases hold
    exact hplain
  have hiff : ∀ now, (∃ w, m.schema.type.check now {} new.data = .ok w ∧ w.same c = true) ↔
      m.schema.type.Survives (some doc.stored.data) c ∧ c.IsMinutely := by
    intro now
    rw [hdata]
    exact comesBack_iff hs hcfits hold
  constructor
  · rintro ⟨new', calls', t', hruns', hsame, -⟩
    obtain ⟨-, hcheck⟩ := check_of_opened hnewPlain (hruns.unique hruns').1
    exact (hiff _).1 ⟨_, hcheck, hsame⟩
  · intro hsurvives
    obtain ⟨w, hcheck, hsame⟩ := (hiff desk.logging.ambient.now).2 hsurvives
    rw [opened_of_check hnewPlain hcheck] at hruns
    refine ⟨_, _, t, hruns, hsame, fun later hlater hstore => ?_⟩
    obtain ⟨w', hcheck', hsame'⟩ := (hiff later.logging.ambient.now).2 hsurvives
    obtain ⟨q', -, hread⟩ := runs_get hlater (m.place?_text doc.id)
    rw [hstore, hfind, opened_of_check hnewPlain hcheck'] at hread
    exact ⟨_, _, hread, hsame'⟩

/-! ## A document that was created -/

/-- The stored form of a person. -/
def samplePerson (name : String) (age : Value) : Dict Value :=
  [(.text "name", .text name), (.text "age", age)]

/-- A desk of `sampleModel` with a document that was created. -/
def createdDesk : Desk Memory :=
  { sampleDesk with remote :=
      { store := (sampleStore.createIn "users" (.dict (samplePerson "Eve" (.int 36))) .null).2 } }

/-- The document that was created at `createdDesk`, as the model reads it. -/
def createdDocument : Document where
  stored := sampleStore.fresh "users" (.dict (samplePerson "Eve" (.int 36))) .null
  data := .record sampleModel.schema.signature [("name", "Eve"), ("age", .int 36)]

theorem createdDesk_ready : createdDesk.Ready := ⟨rfl, _, rfl⟩

theorem sampleModel_isStorable : sampleModel.schema.type.IsStorable :=
  ⟨by decide, by simp [sampleModel], rfl, trivial, trivial, rfl, .inr ⟨5, rfl, rfl, rfl⟩, trivial,
    trivial⟩

theorem build_createdDocument :
    sampleModel.build sampleDesk.logging.ambient.now (.dict (samplePerson "Eve" (.int 36)))
      "create" .null = .ok createdDocument.data := rfl

theorem created_createdDocument :
    sampleModel.Created (.dict (samplePerson "Eve" (.int 36))) createdDocument.stored :=
  ⟨sampleDesk, .null, createdDocument, _, _, sampleDesk_ready, rfl,
    runs_create sampleDesk_ready build_createdDocument rfl rfl rfl, rfl⟩

theorem readFrom_createdDocument :
    sampleModel.ReadFrom createdDocument.stored createdDocument := by
  obtain ⟨q, -, hruns⟩ :=
    runs_get createdDesk_ready (sampleModel.place?_text createdDocument.id)
  exact ⟨createdDesk, _, _, createdDesk_ready, rfl, hruns⟩

theorem update_persists_iff_sample :
    ¬ sampleModel.Persists createdDesk createdDocument (.dict [(.text "age", .null)])
      (.record sampleModel.schema.signature [("name", "Eve"), ("age", .null)]) ∧
    sampleModel.Persists createdDesk createdDocument (.dict [(.text "age", .int 41)])
      (.record sampleModel.schema.signature [("name", "Eve"), ("age", .int 41)]) := by
  refine ⟨fun hpersists => ?_, ?_⟩
  · have hsurvives := (update_persists_iff sampleModel sampleModel_isStorable rfl
      created_createdDocument createdDesk_ready rfl readFrom_createdDocument rfl rfl rfl).1 hpersists
    obtain ⟨-, hage, -⟩ := hsurvives.1
    cases (hage .null (by simp)).1 rfl
  · refine (update_persists_iff sampleModel sampleModel_isStorable rfl created_createdDocument
      createdDesk_ready rfl readFrom_createdDocument rfl rfl rfl).2
      ⟨⟨?_, ?_, trivial⟩, ⟨trivial, trivial, trivial⟩⟩
    · intro v hv
      have hname : v = .text "Eve" := by simpa [sampleModel] using hv
      rw [hname]
      exact ⟨nofun, trivial⟩
    · intro v hv
      have hage : v = .int 41 := by simpa [sampleModel] using hv
      rw [hage]
      exact ⟨nofun, .inr trivial⟩

end DocMapper.Model
