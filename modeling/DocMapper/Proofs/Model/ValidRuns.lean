import DocMapper.Proofs.Model.Listing
import DocMapper.Proofs.Model.Runs
import DocMapper.Proofs.Model.Updating
import DocMapper.Proofs.Schema.AnyTime
import DocMapper.Proofs.Setup.Provisioning
/-!
# Documents that match their schema, over whole runs

A creation writes what was built, and so does a replacement through a document that was read: what
they store matches the schema. An update, or a replacement by id, writes what it is given, and the
schema is held against what is stored then. So after any run a document matches its schema, or it
was left by an edit of the second kind that raised (`Model.stored_documents_valid`).
-/

namespace DocMapper.Model

open Store

variable {m : Model} {desk : Desk Memory} {doc : StoredDocument} {now : Int} {edit : Edit}
  {change : Change} {s : Store}

/-! ## Documents that match the schema -/

/-- The document is opened at any reading of the clock. -/
def Valid (m : Model) (doc : StoredDocument) : Prop :=
  ∀ now, ∃ opened, m.opening now doc = .ok opened

/-- A document is opened exactly if its data is accepted. -/
theorem exists_opening_iff : (∃ opened, m.opening now doc = .ok opened) ↔
    ∃ w, m.schema.type.check now {} (m.schema.plain doc.data) = .ok w := by
  constructor
  · rintro ⟨opened, h⟩
    obtain ⟨w, hw, -⟩ := Except.map_eq_ok.1 h
    exact ⟨w, build_eq_ok.1 hw⟩
  · rintro ⟨w, hw⟩
    exact ⟨⟨doc, w⟩, Except.map_eq_ok.2 ⟨w, build_eq_ok.2 hw, rfl⟩⟩

/-- **A document that was opened once is opened at any time.** -/
theorem valid_of_opening (hs : m.schema.type.IsStable {})
    (h : ∃ opened, m.opening now doc = .ok opened) : m.Valid doc := by
  intro later
  obtain ⟨w, hw⟩ := exists_opening_iff.1 h
  exact exists_opening_iff.2 (FieldType.check_anytime now later _ hs hw)

/-- **The stored form of an instance is opened at any time**, if the offsets of its timestamps are
whole minutes. -/
theorem valid_of_built (hs : m.schema.type.IsStable {}) {input operation target built : Value}
    (hinput : input.IsData) (hbuild : m.build now input operation target = .ok built)
    (hstored : built.stored = .ok doc.data) (hminutely : built.IsMinutely) : m.Valid doc := by
  have hplain : doc.data.isPlain = true := (Value.isSettled_of_stored hstored).1
  have hleft : FieldType.IsLeft {} m.schema.type built := by
    refine ⟨now, input, hinput, ?_⟩
    have hcheck := build_eq_ok.1 hbuild
    rwa [plain_of_isPlain hinput.plain] at hcheck
  obtain ⟨fields, rfl⟩ := exists_record_of_build hbuild
  intro later
  refine exists_opening_iff.2 ?_
  rw [plain_of_isPlain hplain, Value.stored_record hstored]
  exact FieldType.check_stored later _ hs hleft hminutely

/-! ## Edits that validate what they write -/

namespace Edit

/-- The edit writes nothing but instances that it has built. -/
def IsChecked : Edit → Prop
  | write .. => False
  | writeMany .. => False
  | updateDocument .. => False
  | _ => True

/-- The data that an edit builds instances from, to write them as they are. -/
def inputs : Edit → List Value
  | create input _ => [input]
  | createMany inputs => inputs
  | replaceDocument _ input => [input]
  | _ => []

/-- The instances that the edit writes as they are have timestamps with offsets of whole minutes. -/
def IsMinutely (m : Model) (edit : Edit) : Prop :=
  ∀ input ∈ edit.inputs, ∀ now operation target built,
    m.build now input operation target = .ok built → built.IsMinutely

/-- The inputs of an edit that is given data are data. -/
theorem IsData.input (h : edit.IsData) {input : Value} (hinput : input ∈ edit.inputs) :
    input.IsData := by
  cases edit with
  | create =>
    cases List.mem_singleton.1 hinput
    exact h.1
  | createMany => exact h _ hinput
  | replaceDocument =>
    cases List.mem_singleton.1 hinput
    exact h
  | _ => cases hinput

/-- **What a checked edit writes matches the schema.** -/
theorem Involves.valid (h : edit.Involves m now change) (hs : m.schema.type.IsStable {})
    (hdata : edit.IsData) (hchecked : edit.IsChecked) (hminutely : edit.IsMinutely m)
    (hmakes : change.Makes s doc.data) : m.Valid doc := by
  have hbuilt : ∀ {input operation target built}, input ∈ edit.inputs →
      m.build now input operation target = .ok built → built.stored = .ok doc.data →
      m.Valid doc := fun hinput hbuild hstored =>
    valid_of_built hs (hdata.input hinput) hbuild hstored (hminutely _ hinput _ _ _ _ hbuild)
  cases h with
  | created build stored => exact hbuilt (List.mem_singleton_self _) build (hmakes ▸ stored)
  | createdMany mem build stored => exact hbuilt mem build (hmakes ▸ stored)
  | replaced build stored =>
    obtain ⟨old, -, hdata⟩ := hmakes
    exact hbuilt (List.mem_singleton_self _) build (hdata ▸ stored)
  | took | tookMany | tookDocument => exact hmakes.elim
  | wrote | wroteMany | updated => exact hchecked.elim

end Edit

/-! ## What single steps leave -/

namespace Step

variable {step : Step}

/-- What a step comes to. -/
def outcome (step : Step) : Except Fault (List Document) :=
  ((step.edit.op step.model).perform step.desk).1

/-- The step has put a document into the collection of its model which it had not built as an
instance, and then raised. -/
structure LeftUnchecked (step : Step) (i : String) (doc : StoredDocument) : Prop where
  unchecked : ¬ step.edit.IsChecked
  raised : ∃ fault, step.outcome = .error fault
  left : step.after.find step.model.name i = some doc
  new : step.before.find step.model.name i ≠ some doc

/-- A document that is there after a checked step was there before, or matches the schema. -/
theorem find_or_valid_of_checked (hready : step.desk.Ready)
    (hs : step.model.schema.type.IsStable {}) (hdata : step.edit.IsData)
    (hchecked : step.edit.IsChecked) (hminutely : step.edit.IsMinutely step.model)
    (hdistinct : step.before.Distinct) {c i : String} (hfind : step.after.find c i = some doc) :
    step.before.find c i = some doc ∨ step.model.Valid doc := by
  have hafter : step.after.Distinct ∧ ∀ doc, step.after.find c i = some doc →
      step.before.find c i = some doc ∨ step.model.Valid doc := by
    refine Edit.storeAfter_keeps (P := fun s => s.Distinct ∧ ∀ doc, s.find c i = some doc →
      step.before.find c i = some doc ∨ step.model.Valid doc) hready hdata ?_
        ⟨hdistinct, fun _ => Or.inl⟩
    rintro change hchange s ⟨hdistinct, hall⟩
    have hdid := change.did_apply s
    refine ⟨hdid.distinct hdistinct, fun doc hdoc => ?_⟩
    rcases hdid.find_or hdistinct hdoc with hbefore | hmakes
    · exact hall doc hbefore
    · exact Or.inr (hchange.valid hs hdata hchecked hminutely hmakes)
  exact hafter.2 doc hfind

/-- A document that is there after a step that succeeds was there before, or matches the schema. -/
theorem find_or_valid_of_ok (hready : step.desk.Ready)
    (hs : step.model.schema.type.IsStable {}) (hdata : step.edit.IsData)
    (hdistinct : step.before.Distinct) {docs : List Document} (hok : step.outcome = .ok docs)
    {c i : String} (hfind : step.after.find c i = some doc) :
    step.before.find c i = some doc ∨ step.model.Valid doc := by
  obtain ⟨changes, -, out, calls, hruns, hopened⟩ :=
    Edit.exists_changes (m := step.model) hready hdata
  have hout : out = .ok docs := by
    obtain ⟨after, hperform, -⟩ := hruns
    rw [outcome, hperform] at hok
    exact hok
  obtain ⟨found, hfound, hall⟩ := hopened docs hout
  rw [after, Edit.storeAfter, hruns.store_eq] at hfind
  rcases Change.find_or_mem hdistinct hfound hfind with hbefore | hmem
  · exact Or.inl hbefore
  · exact Or.inr (valid_of_opening hs (hall doc hmem))

/-- **A document that is there after a step** was there before, matches the schema, or was left by a
step that raised and had not built it as an instance. -/
theorem find_or_valid (hready : step.desk.Ready)
    (hs : step.model.schema.type.IsStable {}) (hdata : step.edit.IsData)
    (hminutely : step.edit.IsMinutely step.model) (hdistinct : step.before.Distinct) {i : String}
    (hfind : step.after.find step.model.name i = some doc) :
    step.before.find step.model.name i = some doc ∨ step.model.Valid doc ∨
      step.LeftUnchecked i doc := by
  by_cases hchecked : step.edit.IsChecked
  · exact (find_or_valid_of_checked hready hs hdata hchecked hminutely hdistinct hfind).imp_right
      Or.inl
  · cases hout : step.outcome with
    | ok docs =>
      exact (find_or_valid_of_ok hready hs hdata hdistinct hout hfind).imp_right Or.inl
    | error fault =>
      by_cases hbefore : step.before.find step.model.name i = some doc
      · exact Or.inl hbefore
      · exact Or.inr (Or.inr ⟨hchecked, ⟨fault, hout⟩, hfind, hbefore⟩)

/-- A step keeps documents filed. -/
theorem filed_after (hready : step.desk.Ready) (hdata : step.edit.IsData)
    (hs : step.before.Filed) : step.after.Filed :=
  Edit.storeAfter_keeps hready hdata (fun change _ s hs => (change.did_apply s).filed hs) hs

end Step

/-! ## Reading documents that match the schema -/

/-- A document of the store that matches the schema is read. -/
theorem runs_get_valid (h : desk.Ready) {i : String}
    (hvalid : ∀ doc, desk.remote.store.find m.name i = some doc → m.Valid doc) :
    ∃ found calls, desk.Runs (m.get Memory.executor (.text i)) (.ok found) calls
      desk.remote.store := by
  obtain ⟨q, -, hruns⟩ := runs_get h (m.place?_text i)
  cases hfind : desk.remote.store.find m.name i with
  | none =>
    rw [hfind] at hruns
    exact ⟨none, _, hruns⟩
  | some doc =>
    rw [hfind] at hruns
    obtain ⟨opened, hopened⟩ := hvalid doc hfind desk.logging.ambient.now
    rw [Model.opened, hopened] at hruns
    exact ⟨some opened, _, hruns⟩

/-- A page of documents that match the schema is never refused by it. -/
theorem runs_list_valid (h : desk.Ready) (hs : desk.remote.store.Filed)
    (hvalid : ∀ i doc, desk.remote.store.find m.name i = some doc → m.Valid doc)
    {size after before : Value} (hsize : size.isPlain = true) (hafter : after.isPlain = true)
    (hbefore : before.isPlain = true) :
    ∃ out calls, desk.Runs (m.list Memory.executor size after before) out calls
      desk.remote.store ∧ ∀ operation issues target, out ≠ .error (.invalid operation issues target)
      := by
  refine ⟨_, _, runs_list m h hs hsize hafter hbefore, fun operation issues target => ?_⟩
  cases hpage : page (rowsOf (documentsOf desk.remote.store m.name)) size.settled after.settled
      before.settled with
  | error cause =>
    rw [answeredPage]
    simp [transported]
  | ok v =>
    obtain ⟨start, stop, first, last, -, -, -, rfl⟩ := page_eq_ok.1 hpage
    rw [slice_map, answeredPage]
    rw [m.buildPage_of_data desk.logging.ambient.now rfl]
    have hopen : ∀ doc ∈ slice (documentsOf desk.remote.store m.name) first last,
        ∃ opened, m.opening desk.logging.ambient.now doc = .ok opened := by
      intro doc hdoc
      obtain ⟨e, he, rfl⟩ := List.mem_map.1 (List.mem_of_mem_drop (List.mem_of_mem_take hdoc))
      exact hvalid _ _ (hs.find_of_mem he) _
    obtain ⟨opened, hopened⟩ := exists_forall₂ hopen
    rw [Except.mapM_eq_ok.2 hopened]
    simp [Except.map]

/-! ## Runs -/

/-- The document was left by a step that raised and had not built it as an instance. -/
def LeftBy (steps : List Step) (i : String) (doc : StoredDocument) : Prop :=
  ∃ step ∈ steps, step.LeftUnchecked i doc

/-- Steps that succeed leave no document so. -/
theorem not_leftBy {steps : List Step} (h : ∀ step ∈ steps, step.outcome.toBool = true)
    (i : String) (doc : StoredDocument) : ¬ LeftBy steps i doc := by
  rintro ⟨step, hmem, hleft⟩
  obtain ⟨fault, hraised⟩ := hleft.raised
  have hok := h step hmem
  rw [hraised] at hok
  cases hok

/-- **Stored documents match the schema**, over every run of edits of a model from a store without
documents, but for those that an update or a replacement by id has left and then raised. So no read
of another document, and no page of others, is ever refused by the schema. -/
theorem stored_documents_valid {start : Store} {steps : List Step}
    (hs : m.schema.type.IsStable {}) (hstart : start.Bare) (hrun : Run start steps)
    (hmodel : ∀ step ∈ steps, step.model = m)
    (hminutely : ∀ step ∈ steps, step.edit.IsMinutely m) :
    (∀ s ∈ stores start steps, ∀ i doc, s.find m.name i = some doc →
      m.Valid doc ∨ LeftBy steps i doc) ∧
    ∀ desk : Desk Memory, desk.Ready → desk.remote.store ∈ stores start steps →
      (∀ i, (∀ doc, desk.remote.store.find m.name i = some doc → ¬ LeftBy steps i doc) →
        ∃ found calls, desk.Runs (m.get Memory.executor (.text i)) (.ok found) calls
          desk.remote.store) ∧
      ((∀ i doc, desk.remote.store.find m.name i = some doc → ¬ LeftBy steps i doc) →
        ∀ size after before : Value, size.isPlain = true → after.isPlain = true →
          before.isPlain = true →
          ∃ out calls, desk.Runs (m.list Memory.executor size after before) out calls
            desk.remote.store ∧
          ∀ operation issues target, out ≠ .error (.invalid operation issues target)) := by
  have hall : ∀ s ∈ stores start steps, s.Filed ∧ ∀ i doc, s.find m.name i = some doc →
      m.Valid doc ∨ LeftBy steps i doc := by
    refine hrun.keeps ⟨hstart.filed, fun i doc hdoc => ?_⟩ ?_
    · rw [hstart.find] at hdoc
      cases hdoc
    · rintro step hmem hready hdata - ⟨hfiled, hbefore⟩
      obtain rfl := hmodel step hmem
      refine ⟨step.filed_after hready hdata hfiled, fun i doc hdoc => ?_⟩
      rcases step.find_or_valid hready hs hdata (hminutely step hmem) hfiled.distinct hdoc with
        hthere | hvalid | hleft
      · exact hbefore i doc hthere
      · exact Or.inl hvalid
      · exact Or.inr ⟨step, hmem, hleft⟩
  refine ⟨fun s hmem => (hall s hmem).2, fun desk hready hmem => ?_⟩
  obtain ⟨hfiled, hdocs⟩ := hall _ hmem
  constructor
  · intro i hothers
    exact runs_get_valid hready fun doc hdoc => (hdocs i doc hdoc).resolve_right (hothers doc hdoc)
  · intro hothers size after before
    exact runs_list_valid hready hfiled fun i doc hdoc =>
      (hdocs i doc hdoc).resolve_right (hothers i doc hdoc)

/-! ## People, times and lists -/

/-- Data of one member. -/
def only (name : String) (v : Value) : Value := .dict [(.text name, v)]

theorem isData_only (name : String) {v : Value} (h : v.IsData) : (only name v).IsData where
  plain := Value.isPlain_dict.2 (by simpa using h.plain)
  keyed := Value.wellKeyed_dict.2 ⟨by simp [Dict.Distinct], by simpa using h.keyed⟩

/-- Two people are created, and the first is given an age. -/
def peopleEdits : List Edit :=
  [.create (only "name" "Ada") .null, .create (only "name" "Bob") .null,
    .write .update (.text "101") (only "age" (.int 36))]

/-- The steps of these edits, once `sampleModel` is set up. -/
def peopleSteps : List Step := sampleModel.following (Setup.storeOf sampleModel) peopleEdits

/-- The store that they end with. -/
def peopleEnd : Store := lastStore (Setup.storeOf sampleModel) peopleSteps

theorem run_peopleSteps : Run (Setup.storeOf sampleModel) peopleSteps := by
  have hname : ∀ s, (only "name" (.text s)).IsData := fun s => isData_only _ (Value.isData_text s)
  refine run_following ?_ (by simp [peopleEdits, Edit.handle?])
  simp only [peopleEdits, List.forall_mem_cons, List.not_mem_nil, false_implies, implies_true,
    and_true]
  exact ⟨⟨hname "Ada", rfl, trivial⟩, ⟨hname "Bob", rfl, trivial⟩, Value.isData_text "101",
    isData_only _ (Value.isData_int 36)⟩

/-- What is built for `sampleModel` has no timestamps. -/
theorem isMinutely_of_build_sample {input operation target built : Value}
    (hinput : input.isPlain = true)
    (h : sampleModel.build now input operation target = .ok built) : built.IsMinutely := by
  have hfits : FieldType.Fits {} sampleModel.schema.type built :=
    fits_of_build sampleModel_isStorable ((plain_of_isPlain hinput).symm ▸ hinput) h
  obtain ⟨held, rfl, ⟨name, others, rfl, ⟨s, rfl, -⟩, hage⟩, -⟩ := hfits
  obtain ⟨age, others, rfl, hage, rfl⟩ := hage
  rcases hage with rfl | ⟨n, rfl, -⟩
  · exact ⟨trivial, trivial, trivial⟩
  · exact ⟨trivial, trivial, trivial⟩

theorem sampleModel_isStable : sampleModel.schema.type.IsStable {} :=
  FieldType.isStable_of_clockless sampleModel.schema.type ⟨nofun, trivial, nofun, trivial, trivial⟩
    sampleModel_isStorable {}

theorem stored_documents_valid_sample :
    Run (Setup.storeOf sampleModel) peopleSteps ∧
    (∀ i, ∃ found calls, (sampleModel.deskOver peopleEnd).Runs
      (sampleModel.get Memory.executor (.text i)) (.ok found) calls peopleEnd) ∧
    (peopleEnd.find "users" "101").isSome = true := by
  have hstart : (Setup.storeOf sampleModel).Bare :=
    Setup.bare_storeOf (by simp [sampleModel, IndexCatalog.PlainMetadata])
  have hminutely : ∀ step ∈ peopleSteps, step.edit.IsMinutely sampleModel :=
    fun step hstep _ hinput _ _ _ _ hbuild =>
      isMinutely_of_build_sample
        (Edit.IsData.input (run_peopleSteps.isData step hstep) hinput).plain hbuild
  have hvalid := stored_documents_valid sampleModel_isStable hstart run_peopleSteps
    model_of_following hminutely
  have hok : ∀ step ∈ peopleSteps, step.outcome.toBool = true :=
    List.all_eq_true.1 (by decide +kernel)
  refine ⟨run_peopleSteps, fun i => ?_, by decide +kernel⟩
  have hmem : (sampleModel.deskOver peopleEnd).remote.store ∈
      stores (Setup.storeOf sampleModel) peopleSteps := by
    rw [deskOver_store, peopleEnd]
    exact lastStore_mem _ _
  have hreads := hvalid.2 (sampleModel.deskOver peopleEnd) (sampleModel.deskOver_ready peopleEnd)
    hmem
  rw [deskOver_store] at hreads
  exact hreads.1 i fun doc _ => not_leftBy hok i doc

/-- Whether the model refuses the document of an id, at a reading of the clock. -/
def refuses (m : Model) (now : Int) (s : Store) (i : String) : Bool :=
  (s.find m.name i).any fun doc => !(m.opening now doc).toBool

theorem exists_not_valid_of_refuses {i : String} (h : m.refuses now s i = true) :
    ∃ doc, s.find m.name i = some doc ∧ ¬ m.Valid doc := by
  rw [refuses] at h
  cases hfind : s.find m.name i with
  | none =>
    rw [hfind] at h
    cases h
  | some doc =>
    refine ⟨doc, rfl, fun hvalid => ?_⟩
    obtain ⟨opened, hopened⟩ := hvalid now
    rw [hfind, Option.any_some, hopened] at h
    cases h

/-- The edits leave a document that does not match the schema, once the model is set up. -/
def Spoils (m : Model) (edits : List Edit) : Prop :=
  Run (Setup.storeOf m) (m.following (Setup.storeOf m) edits) ∧
    ∃ i doc, (lastStore (Setup.storeOf m) (m.following (Setup.storeOf m) edits)).find m.name i =
      some doc ∧ ¬ m.Valid doc

theorem spoils_of_refuses {edits : List Edit} (hdata : ∀ edit ∈ edits, edit.IsData)
    (hhandle : ∀ edit ∈ edits, edit.handle? = none) (now : Int) (i : String)
    (h : m.refuses now (lastStore (Setup.storeOf m) (m.following (Setup.storeOf m) edits)) i =
      true) : m.Spoils edits :=
  ⟨run_following hdata hhandle, i, exists_not_valid_of_refuses h⟩

/-- A person is created and then given a name that is no text. -/
def misnamedEdits : List Edit :=
  [.create (only "name" "Ada") .null, .write .update (.text "101") (only "name" (.int 5))]

theorem isDate_newYear : Calendar.IsDate 2024 1 1 := by decide

theorem isTime_midnight : Calendar.IsTime 0 0 0 0 := by decide

theorem isTime_halfMinute : Calendar.IsTime 0 0 30 0 := by decide

theorem isOffset_halfMinute : (30000000 : Int).natAbs < microsecondsPerDay := by decide

/-- The beginning of a year. -/
def newYear : Timestamp :=
  ⟨⟨2024, 1, 1, isDate_newYear⟩, 0, 0, 0, 0, some .utc, isTime_midnight⟩

/-- A model of things that happened by the beginning of a year. -/
def pastModel : Model where
  name := "past"
  schema :=
    { name := "Past"
      fields := [({ name := "at", limits := { atMost := some (.timestamp newYear) } },
        .timestamp)] }
  indexes := {}

/-- A time half a minute into the year, at a place that is half a minute ahead. -/
def aheadTime : Timestamp :=
  ⟨⟨2024, 1, 1, isDate_newYear⟩, 0, 0, 30, 0, some ⟨30000000, false, isOffset_halfMinute⟩,
    isTime_halfMinute⟩

/-- The fields of things that are dated by the clock unless they have a date. -/
def datedFields : List (Field × FieldType) := [({ name := "at", default := .now }, .int)]

/-- A model of lists of such things that may not come after a list of one thing that is dated 0. -/
def shelfModel : Model where
  name := "shelves"
  schema :=
    { name := "Shelf"
      fields := [({ name := "items", limits :=
        { atMost := some (.list [.record (signatureOf "Dated" 1 datedFields) [("at", .int 0)]]) } },
          .list (.record "Dated" 1 .ignored datedFields))] }
  indexes := {}

/-- The fields of things that may have any members besides. -/
def taggedFields : List (Field × FieldType) := [({ name := "at" }, .int)]

/-- A model of lists of such things that may not come after a list of one thing with a time. -/
def tagModel : Model where
  name := "tags"
  schema :=
    { name := "Tags"
      fields := [({ name := "items", limits :=
        { atMost := some (.list [.record (signatureOf "Tagged" 2 taggedFields)
          [("at", .int 0), ("when", .timestamp newYear)]]) } },
          .list (.record "Tagged" 2 .kept taggedFields))] }
  indexes := {}

/-- Things are put into a list without a date. -/
def undatedEdits : List Edit :=
  [.create (only "items" (.list [])) .null,
    .write .update (.text "101") (only "items" (.list [.dict []]))]

/-- **Documents that do not match the schema**: one is left by an update that raises, one by a
creation at a time whose offset is no whole minute, one by a creation of a list with the time of its
bound, which is a text once it is stored, as no field declares it, and one by an update that succeeds
and leaves the date of a thing to the clock, which then goes on. -/
theorem stored_documents_spoiled_sample :
    sampleModel.Spoils misnamedEdits ∧
    pastModel.Spoils [.create (only "at" (.timestamp aheadTime)) .null] ∧
    tagModel.Spoils [.create (only "items"
      (.list [.object [("at", .int 0), ("when", .timestamp newYear)]])) .null] ∧
    shelfModel.Spoils undatedEdits ∧
    ∀ step ∈ shelfModel.following (Setup.storeOf shelfModel) undatedEdits,
      step.outcome.toBool = true := by
  refine ⟨?_, ?_, ?_, ?_, List.all_eq_true.1 (by decide +kernel)⟩
  · refine spoils_of_refuses ?_ (by simp [misnamedEdits, Edit.handle?]) 0 "101" (by decide +kernel)
    simp only [misnamedEdits, List.forall_mem_cons, List.not_mem_nil, false_implies, implies_true,
      and_true]
    exact ⟨⟨isData_only _ (Value.isData_text "Ada"), rfl, trivial⟩, Value.isData_text "101",
      isData_only _ (Value.isData_int 5)⟩
  · refine spoils_of_refuses ?_ (by simp [Edit.handle?]) 0 "101" (by decide +kernel)
    simp only [List.forall_mem_cons, List.not_mem_nil, false_implies, implies_true, and_true]
    exact ⟨isData_only _ ⟨rfl, trivial⟩, rfl, trivial⟩
  · refine spoils_of_refuses ?_ (by simp [Edit.handle?]) 0 "101" (by decide +kernel)
    simp only [List.forall_mem_cons, List.not_mem_nil, false_implies, implies_true, and_true]
    have hitem : (Value.object [("at", .int 0), ("when", .timestamp newYear)]).IsData :=
      ⟨rfl, Dict.distinct_ofEntries _, trivial, trivial, trivial⟩
    exact ⟨isData_only _ (Value.isData_list.2 (by simpa using hitem)), rfl, trivial⟩
  · refine spoils_of_refuses ?_ (by simp [undatedEdits, Edit.handle?]) 1 "101" (by decide +kernel)
    simp only [undatedEdits, List.forall_mem_cons, List.not_mem_nil, false_implies, implies_true,
      and_true]
    have hnone : (Value.dict []).IsData := ⟨rfl, Value.wellKeyed_dict.2 ⟨Dict.distinct_nil, nofun⟩⟩
    exact ⟨⟨isData_only _ (Value.isData_list.2 nofun), rfl, trivial⟩, Value.isData_text "101",
      isData_only _ (Value.isData_list.2 (by simpa using hnone))⟩

end DocMapper.Model
