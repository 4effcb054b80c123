import DocMapper.Proofs.Model.Updating
/-!
# Updates by documents that have become stale

A document keeps the data that was read, whatever is written later. Changes to it are laid over that
data, and all of the result is written: not only the fields that the changes name. So of two
documents that were read from one state, the one that is updated last lays its own values over what
the other has written, in every field (`Model.stale_update_writes_whole`).
-/

namespace DocMapper

/-- What the data of a stored document has under a name. -/
def StoredDocument.fieldAt (doc : StoredDocument) (name : String) : Option Value :=
  match doc.data with
  | .dict members => Dict.get? members name
  | _ => none

/-- Every field goes by its own name, and no two fields by one. -/
structure Schema.AliasFree (s : Schema) : Prop where
  ownName : ∀ d ∈ s.fields, d.1.givenAs = none
  distinct : s.fields.Pairwise fun a b => a.1.name ≠ b.1.name

/-- The data of a stored document is a dictionary of distinct keys. -/
def StoredDocument.IsKeyed (doc : StoredDocument) : Prop :=
  ∃ members, doc.data = .dict members ∧ Dict.Distinct members

namespace Model

open Store FieldType

variable {m : Model} {desk : Desk Memory} {doc new : Document} {now : Int} {input : Value}

/-! ## Updates that succeed -/

/-- An operation that fails does not succeed. -/
theorem not_runs_ok {α : Type} {op : Op Memory α} {a : α} {fault : Fault} {calls calls' : List Value}
    {s t : Store} (h : desk.Runs op (.error fault) calls s) : ¬ desk.Runs op (.ok a) calls' t := by
  intro hok
  cases (h.unique hok).1

/-- **An update that succeeds** has written the stored form of the candidate over what was stored. -/
theorem written_of_updateDocument (h : desk.Ready) {current : StoredDocument}
    (hthere : desk.remote.store.find m.name doc.id = some current) {changes : Value}
    {calls : List Value} {t : Store}
    (hrun : desk.Runs (m.updateDocument Memory.executor doc changes) (.ok (some new)) calls t) :
    ∃ c data, m.candidate desk.logging.ambient.now doc changes = .ok c ∧ c.stored = .ok data ∧
      new.stored.data = current.data.patch data ∧
      t.find m.name doc.id = some new.stored := by
  cases hc : m.candidate desk.logging.ambient.now doc changes with
  | error fault =>
    have hlift : desk.Runs (liftM (m.candidate desk.logging.ambient.now doc changes))
        (.error fault : Except Fault Value) [] desk.remote.store := by
      rw [hc]
      exact Desk.Runs.lift desk _
    exact absurd hrun (not_runs_ok (Desk.Runs.now_bind (Desk.Runs.bind_error hlift)))
  | ok c =>
    obtain ⟨merged, -, hbuild⟩ := Except.bind_eq_ok.1 hc
    obtain ⟨held, rfl⟩ := exists_record_of_build hbuild
    cases hstored : Value.stored (.record m.schema.signature held) with
    | error fault =>
      have hquery : m.writeQuery .update (.text doc.id) (.record m.schema.signature held) =
          .error fault := by
        rw [writeQuery, refQuery, stored, hstored]
        rfl
      have hlift : desk.Runs (liftM (m.writeQuery .update (.text doc.id)
          (.record m.schema.signature held))) (.error fault : Except Fault Query) []
          desk.remote.store := by
        rw [hquery]
        exact Desk.Runs.lift desk _
      exact absurd hrun (not_runs_ok (Desk.Runs.now_bind (Desk.Runs.lift_bind hc
        (Desk.Runs.bind_error hlift))))
    | ok data =>
      have hwrites := writesAt_updateDocument h hc hstored
      cases hunique : desk.remote.store.checkUnique m.name
          (Writing.update.result current.data data) (some doc.id) with
      | error cause =>
        obtain ⟨q, hfails⟩ := hwrites.refused current cause hthere hunique
        exact absurd hrun (not_runs_ok hfails)
      | ok =>
        obtain ⟨q, t', found, hfound, hruns, hfind, -⟩ := hwrites.written current hthere hunique
        obtain ⟨hout, rfl⟩ := hruns.unique hrun
        have hstoredNew := Option.some.inj (stored_of_opened hout)
        refine ⟨_, data, rfl, hstored, ?_, by rw [hfind, hstoredNew]⟩
        rw [← hstoredNew, hfound]
        rfl

/-! ## What is written -/

/-- The fields of an instance that was built are distinct, and all declared ones are among them. -/
theorem fields_of_build (hs : m.schema.AliasFree) {members : Dict Value} (hm : members.Distinct)
    {operation target c : Value} (h : m.build now (.dict members) operation target = .ok c) :
    ∃ held, c = .record m.schema.signature held ∧ (held.Pairwise fun a b => a.1 ≠ b.1) ∧
      ∀ d ∈ m.schema.fields, ∃ v, (d.1.name, v) ∈ held ∧
        checkField now d.1 d.2 members = .ok v :=
  exists_fields_of_check hs.ownName hs.distinct hm (build_eq_ok.1 h)

/-- A patch with the stored form of an instance leaves distinct keys. -/
theorem isKeyed_patch {old new : StoredDocument} (hold : old.IsKeyed) {signature : Signature}
    {held : List (String × Value)}
    (hnew : new.data = old.data.patch (.dict (Value.jsonDumpFields signature held))) :
    new.IsKeyed := by
  obtain ⟨base, hbase, hb⟩ := hold
  refine ⟨_, ?_, Value.distinct_patchEntries hb (Value.jsonDumpFields signature held)⟩
  rw [hnew, hbase, Value.patch, Value.patchAt_dict]

/-- What stands under a name after a patch with the stored form of an instance. -/
theorem fieldAt_patch {old new : StoredDocument} (hold : old.IsKeyed) {signature : Signature}
    {held : List (String × Value)} (hheld : held.Pairwise fun a b => a.1 ≠ b.1)
    (hnew : new.data = old.data.patch (.dict (Value.jsonDumpFields signature held)))
    {name : String} {v : Value} (hv : (name, v) ∈ held) :
    new.fieldAt name = Value.patchedAt (old.fieldAt name)
      (some (v.jsonDump (signature.storingOf name))) := by
  obtain ⟨base, hbase, hb⟩ := hold
  rw [Value.jsonDumpFields_eq_map] at hnew
  have hdata : new.data = .dict (Value.patchEntries base
      (held.map fun e => (.text e.1, e.2.jsonDump (signature.storingOf e.1)))) := by
    rw [hnew, hbase, Value.patch, Value.patchAt_dict]
  have hfield := Value.get?_patchEntries hb (Value.distinct_named hheld
    fun e => e.2.jsonDump (signature.storingOf e.1)) (.text name)
  rw [Value.get?_named hheld _ hv] at hfield
  rw [StoredDocument.fieldAt, StoredDocument.fieldAt, hdata, hbase]
  exact hfield

/-- **An update writes all of a document**: under each declared name, the stored form of what the
candidate has there is laid over what was stored. Where the changes name no such field, the candidate
has what the document had, checked. -/
theorem update_writes_whole (hs : m.schema.AliasFree) (h : desk.Ready) {current : StoredDocument}
    (hthere : desk.remote.store.find m.name doc.id = some current) (hcurrent : current.IsKeyed)
    {held : List (String × Value)} (hdoc : doc.data = .record m.schema.signature held)
    (hheld : held.Pairwise fun a b => a.1 ≠ b.1) {changes : Dict Value}
    (hchanges : changes.Distinct) {calls : List Value} {t : Store}
    (hrun : desk.Runs (m.updateDocument Memory.executor doc (.dict changes)) (.ok (some new))
      calls t) :
    t.find m.name doc.id = some new.stored ∧ new.stored.IsKeyed ∧
    ∃ c, m.candidate desk.logging.ambient.now doc (.dict changes) =
        .ok (.record m.schema.signature c) ∧
      ∀ d ∈ m.schema.fields, ∃ v, (d.1.name, v) ∈ c ∧
        new.stored.fieldAt d.1.name =
          Value.patchedAt (current.fieldAt d.1.name) (some (v.jsonDump d.2.storing)) ∧
        ∀ old, (d.1.name, old) ∈ held → changes.get? (.text d.1.name) = none →
          d.2.check desk.logging.ambient.now d.1.limits old.dump = .ok v := by
  obtain ⟨c, data, hc, hstored, hdata, hfind⟩ := written_of_updateDocument h hthere hrun
  have hdump : Dict.Distinct (Value.dumpFields held) := by
    rw [Value.dumpFields_eq_map]
    exact Value.distinct_named hheld fun e => e.2.dump
  have hbuild := hc
  rw [candidate, merged_eq_ok hdoc] at hbuild
  obtain ⟨fields, rfl, hfields, hdeclared⟩ :=
    fields_of_build hs (Value.distinct_mergeEntries hdump changes) hbuild
  cases Value.stored_record hstored
  refine ⟨hfind, isKeyed_patch hcurrent hdata, fields, hc, fun d hd => ?_⟩
  obtain ⟨v, hv, hcheck⟩ := hdeclared d hd
  have hfield := fieldAt_patch hcurrent hfields hdata hv
  rw [Schema.signature, storingOf_signatureOf hs.distinct hd] at hfield
  refine ⟨v, hv, hfield, fun old hold hnone => ?_⟩
  have hkept : Dict.get? (Value.mergeEntries (Value.dumpFields held) changes) (.text d.1.name) =
      some old.dump := by
    rw [Value.get?_mergeEntries hchanges, hnone, Value.dumpFields_eq_map,
      Value.get?_named hheld (fun e => e.2.dump) hold]
    rfl
  exact (checkField_of_get? (hs.ownName d hd) hkept).1 hcheck

/-! ## What was read -/

/-- A document that was created has all declared fields. -/
theorem Created.exists_fieldAt (hs : m.schema.AliasFree)
    (hinput : ∀ members, m.schema.plain input = .dict members → Dict.Distinct members)
    {stored : StoredDocument} (h : m.Created input stored) :
    ∃ members, stored.data = .dict members ∧ Dict.Distinct members ∧
      ∀ d ∈ m.schema.fields, ∃ v, Dict.get? members (.text d.1.name) = some v := by
  obtain ⟨now, built, hbuilt, hstored⟩ := h.data_eq
  obtain ⟨members, hmembers⟩ := exists_members_of_build hbuilt
  rw [build_eq_ok, hmembers] at hbuilt
  obtain ⟨held, rfl, hheld, hdeclared⟩ :=
    exists_fields_of_check hs.ownName hs.distinct (hinput members hmembers) hbuilt
  have hdata := Value.stored_record hstored
  rw [Value.jsonDumpFields_eq_map] at hdata
  refine ⟨_, hdata, Value.distinct_named hheld _, fun d hd => ?_⟩
  obtain ⟨v, hv, -⟩ := hdeclared d hd
  exact ⟨_, Value.get?_named hheld _ hv⟩

/-- A document that was read has all declared fields. -/
theorem ReadFrom.exists_fields (hs : m.schema.AliasFree) {stored : StoredDocument}
    (hplain : stored.data.isPlain = true) {members : Dict Value}
    (hmembers : stored.data = .dict members) (hdistinct : members.Distinct)
    (hdeclared : ∀ d ∈ m.schema.fields, ∃ v, Dict.get? members (.text d.1.name) = some v)
    (h : m.ReadFrom stored doc) :
    ∃ held, doc.data = .record m.schema.signature held ∧
      (held.Pairwise fun a b => a.1 ≠ b.1) ∧ ∀ d ∈ m.schema.fields, ∃ v, (d.1.name, v) ∈ held ∧
        (d.2.IsStorable → Fits d.1.limits d.2 v) := by
  obtain ⟨-, now, hcheck⟩ := h.check hplain
  rw [hmembers] at hplain hcheck
  obtain ⟨held, hdata, hheld, hfields⟩ :=
    exists_fields_of_check hs.ownName hs.distinct hdistinct hcheck
  refine ⟨held, hdata, hheld, fun d hd => ?_⟩
  obtain ⟨v, hv, hfield⟩ := hfields d hd
  refine ⟨v, hv, fun hstorable => ?_⟩
  obtain ⟨given, hgiven⟩ := hdeclared d hd
  obtain ⟨k, hmem, -⟩ := Dict.exists_mem_of_get? hgiven
  exact fits_of_check hstorable (Value.isPlain_dict.1 hplain _ hmem)
    ((checkField_of_get? (hs.ownName d hd) hgiven).1 hfield)

/-! ## Two documents that were read from one state -/

/-- **The later of two updates writes what its document had been read with.** After an update by one
document and another by a second that was read from the same state, the stored document is the one
that the second has written: under each declared name it has the stored form of what the second
candidate has, laid over what the first has written. Where the changes of the second name no such
field, that is what the second document had been read with, whatever the first has written there. -/
theorem stale_update_writes_whole (m : Model) (hs : m.schema.AliasFree) {input : Value}
    (hinput : ∀ members, m.schema.plain input = .dict members → Dict.Distinct members)
    {stored : StoredDocument} (hcreated : m.Created input stored) {doc₁ doc₂ new₁ new₂ : Document}
    (hread₁ : m.ReadFrom stored doc₁) (hread₂ : m.ReadFrom stored doc₂)
    {changes₁ changes₂ : Dict Value} (hchanges₁ : changes₁.Distinct)
    (hchanges₂ : changes₂.Distinct) {first second : Desk Memory} (h₁ : first.Ready)
    (h₂ : second.Ready) (hthere : first.remote.store.find m.name stored.ref.id = some stored)
    {calls₁ calls₂ : List Value} {t₁ t₂ : Store}
    (hrun₁ : first.Runs (m.updateDocument Memory.executor doc₁ (.dict changes₁))
      (.ok (some new₁)) calls₁ t₁)
    (hstore : second.remote.store = t₁)
    (hrun₂ : second.Runs (m.updateDocument Memory.executor doc₂ (.dict changes₂))
      (.ok (some new₂)) calls₂ t₂) :
    t₂.find m.name stored.ref.id = some new₂.stored ∧
    ∃ held c, doc₂.data = .record m.schema.signature held ∧
      m.candidate second.logging.ambient.now doc₂ (.dict changes₂) =
        .ok (.record m.schema.signature c) ∧
      ∀ d ∈ m.schema.fields, ∃ old v, (d.1.name, old) ∈ held ∧ (d.1.name, v) ∈ c ∧
        new₂.stored.fieldAt d.1.name =
          Value.patchedAt (new₁.stored.fieldAt d.1.name) (some (v.jsonDump d.2.storing)) ∧
        (changes₂.get? (.text d.1.name) = none →
          d.2.check second.logging.ambient.now d.1.limits old.dump = .ok v ∧
          (d.2.IsStorable → v = old)) := by
  have hplain := hcreated.isPlain
  obtain ⟨members, hmembers, hdistinct, hdeclared⟩ := hcreated.exists_fieldAt hs hinput
  obtain ⟨hstored₁, -⟩ := hread₁.check hplain
  obtain ⟨hstored₂, -⟩ := hread₂.check hplain
  obtain ⟨held₁, hdata₁, hheld₁, -⟩ :=
    hread₁.exists_fields hs hplain hmembers hdistinct hdeclared
  obtain ⟨held₂, hdata₂, hheld₂, hfields₂⟩ :=
    hread₂.exists_fields hs hplain hmembers hdistinct hdeclared
  have hid : doc₂.id = doc₁.id := by rw [Document.id, Document.id, hstored₁, hstored₂]
  have hthere₁ : first.remote.store.find m.name doc₁.id = some stored := by
    rw [Document.id, hstored₁, hthere]
  obtain ⟨hfind₁, hkeyed₁, -⟩ := update_writes_whole hs h₁ hthere₁ ⟨members, hmembers, hdistinct⟩
    hdata₁ hheld₁ hchanges₁ hrun₁
  have hthere₂ : second.remote.store.find m.name doc₂.id = some new₁.stored := by
    rw [hstore, hid, hfind₁]
  obtain ⟨hfind₂, -, c, hc, hwritten⟩ :=
    update_writes_whole hs h₂ hthere₂ hkeyed₁ hdata₂ hheld₂ hchanges₂ hrun₂
  have hfind : t₂.find m.name stored.ref.id = some new₂.stored := by
    rw [← hfind₂, Document.id, hstored₂]
  refine ⟨hfind, held₂, c, hdata₂, hc, fun d hd => ?_⟩
  obtain ⟨old, hold, hfits⟩ := hfields₂ d hd
  obtain ⟨v, hv, hfield, hkept⟩ := hwritten d hd
  refine ⟨old, v, hold, hv, hfield, fun hnone => ?_⟩
  have hcheck := hkept old hold hnone
  refine ⟨hcheck, fun hstorable => ?_⟩
  rw [check_dump hstorable (hfits hstorable)] at hcheck
  exact (Except.ok.inj hcheck).symm

/-! ## Two updates of a document that was created -/

theorem sampleModel_aliasFree : sampleModel.schema.AliasFree :=
  ⟨by decide, by simp [sampleModel]⟩

/-- `createdDocument` under a new name. -/
def renamedDocument : Document where
  stored := { createdDocument.stored with
    data := .dict (samplePerson "Ada" (.int 36)), ts := createdDesk.remote.store.clock + 1 }
  data := .record sampleModel.schema.signature [("name", "Ada"), ("age", .int 36)]

/-- `createdDesk` with the document renamed. -/
def renamedDesk : Desk Memory :=
  { createdDesk with remote :=
      { store := (createdDesk.remote.store.writeAt .update "users" createdDocument.id
          (.dict (samplePerson "Ada" (.int 36)))).2 } }

theorem renamedDesk_ready : renamedDesk.Ready := ⟨rfl, _, rfl⟩

/-- What is stored once the stale `createdDocument` has been given a new age. -/
def agedDocument : Document where
  stored := { createdDocument.stored with
    data := .dict (samplePerson "Eve" (.int 40)), ts := renamedDesk.remote.store.clock + 1 }
  data := .record sampleModel.schema.signature [("name", "Eve"), ("age", .int 40)]

theorem runs_renaming : ∃ q, createdDesk.Runs (sampleModel.updateDocument Memory.executor
    createdDocument (.dict [(.text "name", .text "Ada")])) (.ok (some renamedDocument)) [.query q]
    renamedDesk.remote.store := by
  have hcandidate : sampleModel.candidate createdDesk.logging.ambient.now createdDocument
      (.dict [(.text "name", .text "Ada")]) = .ok renamedDocument.data := rfl
  obtain ⟨q, hruns⟩ := runs_updateDocument createdDesk_ready hcandidate rfl
  exact ⟨q, hruns⟩

theorem runs_aging : ∃ q t, renamedDesk.Runs (sampleModel.updateDocument Memory.executor
    createdDocument (.dict [(.text "age", .int 40)])) (.ok (some agedDocument)) [.query q] t ∧
    t.find "users" createdDocument.id = some agedDocument.stored := by
  have hcandidate : sampleModel.candidate renamedDesk.logging.ambient.now createdDocument
      (.dict [(.text "age", .int 40)]) = .ok agedDocument.data := rfl
  obtain ⟨q, hruns⟩ := runs_updateDocument renamedDesk_ready hcandidate rfl
  exact ⟨q, _, hruns, rfl⟩

/-- The name that the first update has given is gone after the second, which names only the age. -/
theorem update_not_kept_sample :
    sampleModel.schema.AliasFree ∧
    sampleModel.Created (.dict (samplePerson "Eve" (.int 36))) createdDocument.stored ∧
    sampleModel.ReadFrom createdDocument.stored createdDocument ∧
    createdDesk.Ready ∧ renamedDesk.Ready ∧
    createdDesk.remote.store.find "users" createdDocument.id = some createdDocument.stored ∧
    ∃ new₁ new₂ calls₁ calls₂, ∃ t : Store,
      createdDesk.Runs (sampleModel.updateDocument Memory.executor createdDocument
        (.dict [(.text "name", .text "Ada")])) (.ok (some new₁)) calls₁ renamedDesk.remote.store ∧
      renamedDesk.Runs (sampleModel.updateDocument Memory.executor createdDocument
        (.dict [(.text "age", .int 40)])) (.ok (some new₂)) calls₂ t ∧
      new₁.stored.fieldAt "name" = some (.text "Ada") ∧
      ∃ after, t.find "users" createdDocument.id = some after ∧
        after.fieldAt "name" = some (.text "Eve") ∧ after.fieldAt "age" = some (.int 40) := by
  obtain ⟨q₁, hrun₁⟩ := runs_renaming
  obtain ⟨q₂, t, hrun₂, hfind⟩ := runs_aging
  exact ⟨sampleModel_aliasFree, created_createdDocument, readFrom_createdDocument,
    createdDesk_ready, renamedDesk_ready, rfl, renamedDocument, agedDocument, _, _, t, hrun₁, hrun₂,
    rfl, _, hfind, rfl, rfl⟩

theorem stale_update_writes_whole_sample : ∃ (t : Store) (held c : List (String × Value)),
    t.find "users" createdDocument.id = some agedDocument.stored ∧
    createdDocument.data = .record sampleModel.schema.signature held ∧
    sampleModel.candidate 0 createdDocument (.dict [(.text "age", .int 40)]) =
      .ok (.record sampleModel.schema.signature c) ∧
    ∃ old v, ("name", old) ∈ held ∧ ("name", v) ∈ c ∧
      agedDocument.stored.fieldAt "name" =
        Value.patchedAt (renamedDocument.stored.fieldAt "name") (some (v.jsonDump .plain)) ∧
      v = old := by
  obtain ⟨q₁, hrun₁⟩ := runs_renaming
  obtain ⟨q₂, t, hrun₂, -⟩ := runs_aging
  obtain ⟨hfind, held, c, hdata, hc, hfields⟩ := stale_update_writes_whole sampleModel
    sampleModel_aliasFree (fun members h => by cases h; decide) created_createdDocument
    readFrom_createdDocument readFrom_createdDocument (by decide) (by decide) createdDesk_ready
    renamedDesk_ready rfl hrun₁ rfl hrun₂
  obtain ⟨old, v, hold, hv, hfield, hkept⟩ :=
    hfields ({ name := "name" }, .text) (by simp [sampleModel])
  exact ⟨t, held, c, hfind, hdata, hc, old, v, hold, hv, hfield, (hkept rfl).2 trivial⟩

end Model

end DocMapper
