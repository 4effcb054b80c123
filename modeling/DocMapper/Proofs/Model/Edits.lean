import DocMapper.Proofs.Model.Batches
import DocMapper.Proofs.Model.Handles
import DocMapper.Proofs.Value.WellKeyed
/-!
# The writes of models and documents

`Edit` lists the operations by which a program writes: those of a model, on one document or on many,
and those of a document that was read before. Whatever an edit is given, and however it ends, the
store is left by some changes (`Edit.exists_changes`), each of which brings what the edit was given
(`Edit.Involves`): data as it is, or the stored form of an instance that was built first.
-/

namespace DocMapper.Model

open Store Action

/-- A write that a model offers, or a document that was read before. -/
inductive Edit
  | create (input ttl : Value)
  | createMany (inputs : List Value)
  | write (w : Writing) (id data : Value)
  | writeMany (w : Writing) (items : List Value)
  | delete (id : Value)
  | deleteMany (ids : List Value)
  | updateDocument (doc : Document) (changes : Value)
  | replaceDocument (doc : Document) (input : Value)
  | deleteDocument (doc : Document)

namespace Edit

/-- The operation that an edit is, with the documents that it gives. -/
def op (m : Model) : Edit → Op Memory (List Document)
  | create input ttl => (fun doc => [doc]) <$> m.create Memory.executor input ttl
  | createMany inputs => m.createMany Memory.executor (.list inputs)
  | write w id data => Option.toList <$> m.write Memory.executor w id data
  | writeMany w items => m.writeMany Memory.executor w (.list items)
  | delete id => Option.toList <$> m.delete Memory.executor id
  | deleteMany ids => m.deleteMany Memory.executor (.list ids)
  | updateDocument doc changes => Option.toList <$> m.updateDocument Memory.executor doc changes
  | replaceDocument doc input => Option.toList <$> m.replaceDocument Memory.executor doc input
  | deleteDocument doc => Option.toList <$> m.deleteDocument Memory.executor doc

/-- The store that an edit leaves. -/
def storeAfter (m : Model) (desk : Desk Memory) (edit : Edit) : Store :=
  ((edit.op m).perform desk).2.remote.store

/-- The document that an edit goes by, if it is one of a document. -/
def handle? : Edit → Option Document
  | updateDocument doc _ => some doc
  | replaceDocument doc _ => some doc
  | deleteDocument doc => some doc
  | _ => none

/-- An edit is given data. -/
def IsData : Edit → Prop
  | create input ttl => input.IsData ∧ ttl.IsData
  | createMany inputs => ∀ v ∈ inputs, v.IsData
  | write _ id data => id.IsData ∧ data.IsData
  | writeMany _ items => ∀ item ∈ items, item.IsData
  | delete id => id.IsData
  | deleteMany ids => ∀ id ∈ ids, id.IsData
  | updateDocument _ changes => changes.IsData
  | replaceDocument _ input => input.IsData
  | deleteDocument _ => True

/-- The changes that an edit can consist of, at a reading of the clock. -/
inductive Involves (m : Model) (now : Int) : Edit → Change → Prop
  | created {input ttl built data : Value} (build : m.build now input "create" .null = .ok built)
      (stored : built.stored = .ok data) :
      Involves m now (create input ttl) (.create m.name data ttl.settled)
  | createdMany {inputs : List Value} {input built data : Value} (mem : input ∈ inputs)
      (build : m.build now input "create" .null = .ok built) (stored : built.stored = .ok data) :
      Involves m now (createMany inputs) (.create m.name data .null)
  | wrote {w : Writing} {id data e : Value} {c i : String} (place : m.place? id = some (c, i))
      (stored : stored data = .ok e) :
      Involves m now (write w id data) (.write w c i (orEmpty e.settled))
  | wroteMany {w : Writing} {items : List Value} {item id data e : Value} {c i : String}
      (mem : item ∈ items) (pair : pairOf item = .ok (id, data))
      (place : m.place? id = some (c, i)) (stored : stored data = .ok e) :
      Involves m now (writeMany w items) (.write w c i (orEmpty e.settled))
  | took {id : Value} {c i : String} (place : m.place? id = some (c, i)) :
      Involves m now (delete id) (.take c i)
  | tookMany {ids : List Value} {id : Value} {c i : String} (mem : id ∈ ids)
      (place : m.place? id = some (c, i)) : Involves m now (deleteMany ids) (.take c i)
  | updated {doc : Document} {changes built data : Value}
      (build : m.candidate now doc changes = .ok built) (stored : built.stored = .ok data) :
      Involves m now (updateDocument doc changes) (.write .update m.name doc.id data)
  | replaced {doc : Document} {input built data : Value}
      (build : m.build now input "replace" (.text doc.id) = .ok built)
      (stored : built.stored = .ok data) :
      Involves m now (replaceDocument doc input) (.write .replace m.name doc.id data)
  | tookDocument (doc : Document) :
      Involves m now (deleteDocument doc) (.take m.name doc.id)

variable {m : Model} {desk : Desk Memory} {edit : Edit}

/-- The edit runs, and leaves the store that some changes leave which it involves. If it succeeds,
every document that the changes give has been opened. -/
def Makes (m : Model) (desk : Desk Memory) (edit : Edit) (changes : List Change) : Prop :=
  (∀ change ∈ changes, edit.Involves m desk.logging.ambient.now change) ∧ ∃ out calls,
    desk.Runs (edit.op m) out calls ((changes.mapM Change.apply).perform desk.remote.store).2 ∧
    ∀ docs, out = .ok docs →
      ∃ found, ((changes.mapM Change.apply).perform desk.remote.store).1 = .ok found ∧
        ∀ doc, some doc ∈ found → ∃ opened, m.opening desk.logging.ambient.now doc = .ok opened

/-- An edit that fails before its query is run makes no changes. -/
theorem makes_nil {out : Except Fault (List Document)} {calls : List Value}
    (h : desk.Runs (edit.op m) out calls desk.remote.store) : edit.Makes m desk [] :=
  ⟨by simp, out, calls, h, fun _ _ => ⟨[], rfl, by simp⟩⟩

/-- An edit of one change leaves what the change leaves. -/
theorem makes_single {change : Change} (hchange : edit.Involves m desk.logging.ambient.now change)
    {out : Except Fault (List Document)} {calls : List Value}
    (h : desk.Runs (edit.op m) out calls (change.apply.perform desk.remote.store).2)
    (hout : ∀ docs, out = .ok docs →
      ∃ found, (change.apply.perform desk.remote.store).1 = .ok found ∧
        ∀ doc, found = some doc → ∃ opened, m.opening desk.logging.ambient.now doc = .ok opened) :
    edit.Makes m desk [change] := by
  refine ⟨by simpa using hchange, out, calls, ?_, fun docs hdocs => ?_⟩
  · have hstore : (([change].mapM Change.apply).perform desk.remote.store).2 =
        (change.apply.perform desk.remote.store).2 := by
      rw [perform_mapM_cons]
      rcases change.apply.perform desk.remote.store with ⟨_ | _, _⟩ <;> rfl
    rwa [hstore]
  · obtain ⟨found, hfound, hopened⟩ := hout docs hdocs
    refine ⟨[found], ?_, fun doc hdoc => hopened doc (List.mem_singleton.1 hdoc).symm⟩
    rw [perform_mapM_cons]
    rcases hchange' : change.apply.perform desk.remote.store with ⟨_ | _, _⟩
    all_goals rw [hchange'] at hfound; cases hfound
    rfl

/-- What an operation answers with was found and opened. -/
theorem exists_opened_of_answered {now : Int} {operation target : Value}
    {r : Except Fault (Option StoredDocument)} {docs : List Document}
    (h : (m.answered now operation target r).map Option.toList = .ok docs) :
    ∃ found, r = .ok found ∧
      ∀ doc, found = some doc → ∃ opened, m.opening now doc = .ok opened := by
  obtain ⟨opened, hopened, -⟩ := Except.map_eq_ok.1 h
  cases r with
  | error cause => cases hopened
  | ok found =>
    refine ⟨found, rfl, fun doc hdoc => ?_⟩
    subst hdoc
    obtain ⟨opening, hopening, -⟩ := Except.map_eq_ok.1 hopened
    exact ⟨opening, hopening⟩

/-- What an operation on many answers with was found and opened. -/
theorem exists_opened_of_answeredMany {now : Int} {operation target : Value}
    {r : Except Fault (List (Option StoredDocument))} {docs : List Document}
    (h : m.answeredMany now operation target r = .ok docs) :
    ∃ found, r = .ok found ∧
      ∀ doc, some doc ∈ found → ∃ opened, m.opening now doc = .ok opened := by
  cases r with
  | error cause => cases h
  | ok found =>
    refine ⟨found, rfl, fun doc hdoc => ?_⟩
    have hmem : doc ∈ found.filterMap id := List.mem_filterMap.2 ⟨some doc, hdoc, rfl⟩
    obtain ⟨opened, -, hopened⟩ := exists_mem_of_forall₂ (Except.mapM_eq_ok.1 h).flip hmem
    exact ⟨opened, hopened⟩

/-- What is compiled from a plain id names a place. -/
theorem place?_of_refQuery {id : Value} (hid : id.isPlain = true) {q : Query}
    (h : m.refQuery id = .ok q) : ∃ c i, m.place? id = some (c, i) := by
  cases id with
  | text i => exact ⟨m.name, i, rfl⟩
  | ref r =>
    obtain ⟨i, _ | c, d⟩ := r
    · exact ⟨m.name, i, rfl⟩
    · exact ⟨c.id, i, rfl⟩
  | record | accessor | thunk | query | rows | closure | foreign => simp [Value.isPlain] at hid
  | _ =>
    obtain ⟨v, hv, -⟩ := Except.bind_eq_ok.1 h
    cases hv

/-- What is written for data is data. -/
theorem isData_of_storedData {data e : Value} (hdata : data.IsData) (h : stored data = .ok e) :
    e.IsData := by
  cases data with
  | record => exact absurd hdata.plain (by simp [Value.isPlain])
  | ref r => exact Value.isData_of_stored hdata.keyed h
  | _ =>
    cases h
    exact hdata

/-- The removal of a document leaves what is left when it is taken away, if it is there. -/
theorem removeAt_store (s : Store) (c i : String) :
    (s.removeAt c i).2 = ((Change.take c i).apply.perform s).2 := by
  rw [Change.apply, perform_of, removeAt, takeAt]
  cases s.find c i <;> rfl

/-- What is removed is what is taken away. -/
theorem takeAt_of_removeAt {s : Store} {c i : String} {found : Option StoredDocument}
    (h : (s.removeAt c i).1 = .ok found) : ((Change.take c i).apply.perform s).1 = .ok found := by
  rw [removeAt] at h
  rw [Change.apply, perform_of, takeAt]
  cases hfind : s.find c i with
  | none =>
    rw [hfind] at h
    cases h
  | some doc =>
    rw [hfind] at h
    exact h

theorem exists_changes_create (h : desk.Ready) (input : Value) {ttl : Value} (httl : ttl.IsData) :
    ∃ changes, (create input ttl).Makes m desk changes := by
  cases hdata : m.build desk.logging.ambient.now input "create" .null >>= stored with
  | error fault => exact ⟨[], makes_nil ((runs_create_unfit desk ttl hdata).map _)⟩
  | ok data =>
    obtain ⟨built, hbuilt, hstored⟩ := Except.bind_eq_ok.1 hdata
    obtain ⟨fields, rfl⟩ := exists_record_of_build hbuilt
    have hsettled := Value.isSettled_of_stored hstored
    obtain rfl := Value.stored_record hstored
    have hruns := runs_create h hbuilt hstored hsettled.1 httl.plain
    rw [hsettled.settled_eq] at hruns
    refine ⟨_, makes_single (.created hbuilt hstored) (hruns.map _) fun docs hdocs => ?_⟩
    obtain ⟨opened, hopened, -⟩ := Except.map_eq_ok.1 hdocs
    obtain ⟨made, hmade, hopening⟩ := Except.bind_eq_ok.1 hopened
    refine ⟨some made, by rw [Change.apply, perform_of, Except.mapError_eq_ok.1 hmade]; rfl, ?_⟩
    rintro _ ⟨rfl⟩
    exact ⟨opened, hopening⟩

theorem exists_changes_write (h : desk.Ready) (w : Writing) {id data : Value} (hid : id.IsData)
    (hdata : data.IsData) : ∃ changes, (write w id data).Makes m desk changes := by
  cases hq : m.writeQuery w id data with
  | error fault => exact ⟨[], makes_nil ((Desk.Runs.lift_bind_error hq).map _)⟩
  | ok q =>
    obtain ⟨target, htarget, hq'⟩ := Except.bind_eq_ok.1 hq
    obtain ⟨e, he, -⟩ := Except.bind_eq_ok.1 hq'
    obtain ⟨c, i, hplace⟩ := place?_of_refQuery hid.plain htarget
    have hsteady := Steady.plain (isData_of_storedData hdata he).plain
    obtain ⟨q', -, hruns⟩ := runs_write_steady h hplace w he hsteady
    exact ⟨_, makes_single (.wrote hplace he) (hruns.map _) fun _ => exists_opened_of_answered⟩

theorem exists_changes_delete (h : desk.Ready) {id : Value} (hid : id.IsData) :
    ∃ changes, (delete id).Makes m desk changes := by
  cases hq : m.deleteQuery id with
  | error fault => exact ⟨[], makes_nil ((Desk.Runs.lift_bind_error hq).map _)⟩
  | ok q =>
    obtain ⟨target, htarget, -⟩ := Except.bind_eq_ok.1 hq
    obtain ⟨c, i, hplace⟩ := place?_of_refQuery hid.plain htarget
    obtain ⟨q', -, hruns⟩ := runs_delete h hplace
    rw [removeAt_store] at hruns
    refine ⟨_, makes_single (.took hplace) (hruns.map _) fun docs hdocs => ?_⟩
    obtain ⟨found, hfound, hopened⟩ := exists_opened_of_answered hdocs
    exact ⟨found, takeAt_of_removeAt hfound, hopened⟩

theorem exists_changes_createMany (h : desk.Ready) (inputs : List Value) :
    ∃ changes, (createMany inputs).Makes m desk changes := by
  cases hbulk : m.buildBulk desk.logging.ambient.now (.list inputs) "create_many" .null with
  | error fault => exact ⟨[], makes_nil (Desk.Runs.now_bind (Desk.Runs.lift_bind_error hbulk))⟩
  | ok built =>
    cases hdata : (built.mapM stored : Except Fault (List Value)) with
    | error fault =>
      exact ⟨[], makes_nil (Desk.Runs.now_bind
        (Desk.Runs.lift_bind hbulk (Desk.Runs.lift_bind_error hdata)))⟩
    | ok data =>
      obtain ⟨items, hitems, hbuilt⟩ := exists_build_of_buildBulk hbulk
      cases hitems
      -- every stored form is that of an instance built from one of the inputs
      have hfrom : ∀ v ∈ data, ∃ input ∈ inputs, ∃ w,
          m.build desk.logging.ambient.now input "create" .null = .ok w ∧ stored w = .ok v := by
        intro v hv
        obtain ⟨w, hw, hstored⟩ := exists_mem_of_forall₂ (Except.mapM_eq_ok.1 hdata) hv
        obtain ⟨input, hinput, hbuild⟩ := hbuilt w hw
        exact ⟨input, hinput, w, hbuild _ _, hstored⟩
      have hsettled : ∀ v ∈ data, v.IsSettled ∧ ∃ entries, v = .dict entries := by
        intro v hv
        obtain ⟨input, -, w, hw, hstored⟩ := hfrom v hv
        obtain ⟨fields, rfl⟩ := exists_record_of_build hw
        exact ⟨Value.isSettled_of_stored hstored, _, Value.stored_record hstored⟩
      refine ⟨_, ?_, _, _, runs_createMany h hbulk hdata hsettled, fun _ =>
        exists_opened_of_answeredMany⟩
      rintro change hchange
      obtain ⟨v, hv, rfl⟩ := List.mem_map.1 hchange
      obtain ⟨input, hinput, w, hw, hstored⟩ := hfrom v hv
      obtain ⟨fields, rfl⟩ := exists_record_of_build hw
      exact .createdMany hinput hw hstored

/-- The id and the data of an item are data if the item is. -/
theorem isData_of_pairOf {item id data : Value} (hitem : item.IsData)
    (h : pairOf item = .ok (id, data)) : id.IsData ∧ data.IsData := by
  have hpair : ∀ {items : List Value}, item.items = .ok items → (∀ v ∈ items, v.IsData) →
      (∀ entries, item ≠ .dict entries) → id.IsData ∧ data.IsData := by
    intro items hitems hall hdict
    unfold pairOf at h
    split at h
    · exact absurd rfl (hdict _)
    · rw [hitems] at h
      obtain ⟨_, h', h⟩ := Except.bind_eq_ok.1 h
      cases h'
      split at h
      · cases h
        exact ⟨hall _ (by simp), hall _ (by simp)⟩
      · cases h
  cases item with
  | dict entries =>
    obtain ⟨v, hv, h⟩ := Except.bind_eq_ok.1 h
    obtain ⟨w, hw, h⟩ := Except.bind_eq_ok.1 h
    cases h
    exact ⟨hitem.subscript hv, hitem.subscript hw⟩
  | list items => exact hpair rfl (Value.isData_list.1 hitem) (by simp)
  | tuple items => exact hpair rfl (Value.isData_tuple.1 hitem) (by simp)
  | text s =>
    refine hpair rfl ?_ (by simp)
    simp [Value.isData_text]
  | bytes b =>
    refine hpair rfl ?_ (by simp)
    simp [Value.isData_int]
  | record => exact absurd hitem.plain (by simp [Value.isPlain])
  | _ => cases h

theorem exists_changes_writeMany (h : desk.Ready) (w : Writing) {items : List Value}
    (hitems : ∀ item ∈ items, item.IsData) :
    ∃ changes, (writeMany w items).Makes m desk changes := by
  have hsource : (Value.list items).items = .ok items := rfl
  cases hq : m.writeManyQuery w items with
  | error fault =>
    exact ⟨[], makes_nil (Desk.Runs.lift_bind hsource (Desk.Runs.lift_bind_error hq))⟩
  | ok q =>
    obtain ⟨docs, hdocs, -⟩ := Except.bind_eq_ok.1 hq
    have hbrings : ∀ item ∈ items, ∃ p : Parcel, m.Brings item p ∧
        (writeMany w items).Involves m desk.logging.ambient.now (p.change w) := by
      intro item hitem
      obtain ⟨v, -, hv⟩ := exists_mem_of_forall₂ (Except.mapM_eq_ok.1 hdocs).flip hitem
      obtain ⟨⟨id, data⟩, hpair, hv⟩ := Except.bind_eq_ok.1 hv
      obtain ⟨target, htarget, hv⟩ := Except.bind_eq_ok.1 hv
      obtain ⟨e, he, -⟩ := Except.bind_eq_ok.1 hv
      obtain ⟨hid, hdata⟩ := isData_of_pairOf (hitems item hitem) hpair
      obtain ⟨c, i, hplace⟩ := place?_of_refQuery hid.plain htarget
      have hsteady := Steady.plain (isData_of_storedData hdata he).plain
      exact ⟨⟨c, i, e.settled⟩, ⟨id, data, e, hpair, hplace, he, hsteady⟩,
        .wroteMany hitem hpair hplace he⟩
    obtain ⟨parcels, hparcels⟩ := exists_forall₂ hbrings
    obtain ⟨q', -, hruns⟩ := runs_writeMany h w hsource (hparcels.imp fun _ _ hp => hp.1)
    refine ⟨_, ?_, _, _, hruns, fun _ => exists_opened_of_answeredMany⟩
    intro change hchange
    obtain ⟨p, hp, rfl⟩ := List.mem_map.1 hchange
    obtain ⟨item, -, -, hinvolves⟩ := exists_mem_of_forall₂ hparcels hp
    exact hinvolves

theorem exists_changes_deleteMany (h : desk.Ready) {ids : List Value}
    (hids : ∀ id ∈ ids, id.IsData) : ∃ changes, (deleteMany ids).Makes m desk changes := by
  have hsource : (Value.list ids).items = .ok ids := rfl
  cases hq : m.deleteManyQuery ids with
  | error fault =>
    exact ⟨[], makes_nil (Desk.Runs.lift_bind hsource (Desk.Runs.lift_bind_error hq))⟩
  | ok q =>
    obtain ⟨refs, hrefs, -⟩ := Except.bind_eq_ok.1 hq
    have hplace : ∀ id ∈ ids, ∃ p : String × String, m.place? id = some p := by
      intro id hid
      obtain ⟨v, -, hv⟩ := exists_mem_of_forall₂ (Except.mapM_eq_ok.1 hrefs).flip hid
      obtain ⟨target, htarget, -⟩ := Except.bind_eq_ok.1 hv
      obtain ⟨c, i, hplace⟩ := place?_of_refQuery (hids id hid).plain htarget
      exact ⟨(c, i), hplace⟩
    obtain ⟨places, hplaces⟩ := exists_forall₂ hplace
    obtain ⟨q', -, hruns⟩ := runs_deleteMany h hsource hplaces
    refine ⟨_, ?_, _, _, hruns, fun _ => exists_opened_of_answeredMany⟩
    intro change hchange
    obtain ⟨p, hp, rfl⟩ := List.mem_map.1 hchange
    obtain ⟨id, hid, hplace⟩ := exists_mem_of_forall₂ hplaces hp
    exact .tookMany hid hplace

/-- An instance without a stored form is not written. -/
theorem runs_write_unstorable (desk : Desk Memory) (w : Writing) (i : String)
    {fields : List (String × Value)} {fault : Fault}
    (h : (Value.record m.schema.signature fields).stored = .error fault) :
    desk.Runs (m.write Memory.executor w (.text i) (.record m.schema.signature fields))
      (.error fault) [] desk.remote.store := by
  have hstored : stored (.record m.schema.signature fields) = .error fault := h
  have hq : m.writeQuery w (.text i) (.record m.schema.signature fields) = .error fault := by
    rw [writeQuery, refQuery]
    simp only [bind, Except.bind, hstored]
  exact Desk.Runs.lift_bind_error hq

theorem exists_changes_updateDocument (h : desk.Ready) (doc : Document) (changes : Value) :
    ∃ made, (updateDocument doc changes).Makes m desk made := by
  cases hbuilt : m.candidate desk.logging.ambient.now doc changes with
  | error fault =>
    exact ⟨[], makes_nil ((Desk.Runs.now_bind (Desk.Runs.lift_bind_error hbuilt)).map _)⟩
  | ok built =>
    obtain ⟨merged, -, hbuild⟩ := Except.bind_eq_ok.1 hbuilt
    obtain ⟨fields, rfl⟩ := exists_record_of_build hbuild
    cases hstored : (Value.record m.schema.signature fields).stored with
    | error fault =>
      have hfails := runs_write_unstorable desk .update doc.id hstored
      exact ⟨[], makes_nil ((Desk.Runs.now_bind (Desk.Runs.lift_bind hbuilt hfails)).map _)⟩
    | ok data =>
      obtain ⟨q, hruns⟩ := runs_updateDocument h hbuilt hstored
      exact ⟨_, makes_single (.updated hbuilt hstored) (hruns.map _) fun _ =>
        exists_opened_of_answered⟩

theorem exists_changes_replaceDocument (h : desk.Ready) (doc : Document) (input : Value) :
    ∃ made, (replaceDocument doc input).Makes m desk made := by
  cases hbuilt : m.build desk.logging.ambient.now input "replace" (.text doc.id) with
  | error fault =>
    have hfails : desk.Runs (m.replaceDocument Memory.executor doc input) (.error fault) []
        desk.remote.store := Desk.Runs.bind_error (runs_buildNow desk hbuilt)
    exact ⟨[], makes_nil (hfails.map _)⟩
  | ok built =>
    obtain ⟨fields, rfl⟩ := exists_record_of_build hbuilt
    cases hstored : (Value.record m.schema.signature fields).stored with
    | error fault =>
      have hfails : desk.Runs (m.replaceDocument Memory.executor doc input) (.error fault) []
          desk.remote.store :=
        (runs_buildNow desk hbuilt).bind_quiet fun mid hmid =>
          hmid.store ▸ runs_write_unstorable mid .replace doc.id hstored
      exact ⟨[], makes_nil (hfails.map _)⟩
    | ok data =>
      obtain ⟨q, hruns⟩ := runs_replaceDocument h hbuilt hstored
      exact ⟨_, makes_single (.replaced hbuilt hstored) (hruns.map _) fun _ =>
        exists_opened_of_answered⟩

theorem exists_changes_deleteDocument (h : desk.Ready) (doc : Document) :
    ∃ changes, (deleteDocument doc).Makes m desk changes := by
  obtain ⟨q, -, hruns⟩ := runs_delete h (m.place?_text doc.id)
  rw [removeAt_store] at hruns
  refine ⟨_, makes_single (.tookDocument doc) (hruns.map _) fun docs hdocs => ?_⟩
  obtain ⟨found, hfound, hopened⟩ := exists_opened_of_answered hdocs
  exact ⟨found, takeAt_of_removeAt hfound, hopened⟩

/-- **An edit leaves what some changes leave**, all of which it involves, whatever data it is given
and however it ends. -/
theorem exists_changes (h : desk.Ready) (hedit : edit.IsData) :
    ∃ changes, edit.Makes m desk changes := by
  cases edit with
  | create input ttl => exact exists_changes_create h input hedit.2
  | createMany inputs => exact exists_changes_createMany h inputs
  | write w id data => exact exists_changes_write h w hedit.1 hedit.2
  | writeMany w items => exact exists_changes_writeMany h w hedit
  | delete id => exact exists_changes_delete h hedit
  | deleteMany ids => exact exists_changes_deleteMany h hedit
  | updateDocument doc changes => exact exists_changes_updateDocument h doc changes
  | replaceDocument doc input => exact exists_changes_replaceDocument h doc input
  | deleteDocument doc => exact exists_changes_deleteDocument h doc

end Edit

end DocMapper.Model
