import DocMapper.Proofs.Model.Runs
import DocMapper.Proofs.Schema.WellNamed
import DocMapper.Proofs.Setup.Provisioning
import DocMapper.Proofs.Store.UniqueIndexes
/-!
# Unique indexes over whole runs

Once the models are set up over an empty store, no edits ever bring two documents together that a
unique index keeps apart (`Model.unique_indexes_hold`): creations, updates and replacements of one or
of many documents, by models or by documents that were read before, whether they succeed or fail
midway.
-/

namespace DocMapper.Model

open Store

variable {m : Model} {now : Int} {edit : Edit} {change : Change}

/-- What a schema checks in place of data of distinct keys has distinct keys. -/
theorem wellKeyed_plain {schema : Schema} {v : Value} (hv : v.WellKeyed) :
    (schema.plain v).WellKeyed := by
  rw [Schema.plain]
  split
  · exact hv.dump
  · exact hv

/-- What is built from data of distinct keys has distinct keys and names. -/
theorem wellKeyed_of_build (hm : m.schema.type.WellNamed) {input operation target built : Value}
    (hinput : input.WellKeyed) (h : m.build now input operation target = .ok built) :
    built.WellKeyed :=
  FieldType.wellKeyed_of_check m.schema.type hm (wellKeyed_plain hinput) (build_eq_ok.1 h)

/-- A document that was read from data has distinct keys and names. -/
theorem Opens.wellKeyed (hm : m.schema.type.WellNamed) {doc : Document} (h : m.Opens doc) :
    doc.data.WellKeyed := by
  obtain ⟨now, stored, hdata, hopening⟩ := h
  obtain ⟨data, hbuild, rfl⟩ := Except.map_eq_ok.1 hopening
  exact wellKeyed_of_build hm hdata.keyed hbuild

/-- A document that was read is an instance of the schema. -/
theorem Opens.exists_record {doc : Document} (h : m.Opens doc) :
    ∃ fields, doc.data = .record m.schema.signature fields := by
  obtain ⟨now, stored, -, hopening⟩ := h
  obtain ⟨data, hbuild, rfl⟩ := Except.map_eq_ok.1 hopening
  exact exists_record_of_build hbuild

/-- An instance with changes laid over it has distinct keys if both have. -/
theorem wellKeyed_merged (hm : m.schema.type.WellNamed) {doc : Document} {changes merged : Value}
    (hdoc : m.Opens doc) (hchanges : changes.WellKeyed) (h : doc.merged changes = .ok merged) :
    merged.WellKeyed := by
  obtain ⟨fields, hfields⟩ := hdoc.exists_record
  obtain ⟨laid, hlaid, h⟩ := Except.bind_eq_ok.1 h
  cases h
  obtain ⟨base, hbase, hlaid⟩ := Except.bind_eq_ok.1 hlaid
  obtain ⟨update, hupdate, h⟩ := Except.bind_eq_ok.1 hlaid
  cases h
  have hdump : doc.data.dump = .dict (Value.dumpFields fields) := by rw [hfields, Value.dump]
  rw [hdump] at hbase
  cases hbase
  have hentries : changes = .dict update := by
    cases changes <;> cases hupdate
    rfl
  exact (hdump ▸ (hdoc.wellKeyed hm).dump).mergeEntries (hentries ▸ hchanges)

/-- Data is written as data, and nothing as an empty dictionary. -/
theorem isData_orEmpty {v : Value} (hv : v.IsData) : (orEmpty v).IsData := by
  rw [orEmpty]
  split
  · exact hv
  · exact ⟨rfl, Value.wellKeyed_dict.2 ⟨Dict.distinct_nil, by simp⟩⟩

/-- **What an edit writes is data.** -/
theorem Edit.Involves.isData (h : edit.Involves m now change) (hm : m.schema.type.WellNamed)
    (hedit : edit.IsData)
    (hhandle : ∀ doc, edit.handle? = some doc → m.Opens doc) : change.IsData := by
  cases h with
  | created build stored =>
    exact Value.isData_of_stored (wellKeyed_of_build hm hedit.1.keyed build) stored
  | createdMany mem build stored =>
    exact Value.isData_of_stored (wellKeyed_of_build hm (hedit _ mem).keyed build) stored
  | wrote place stored => exact isData_orEmpty (isData_of_storedData hedit.2 stored).settled
  | wroteMany mem pair place stored =>
    exact isData_orEmpty
      (isData_of_storedData (isData_of_pairOf (hedit _ mem) pair).2 stored).settled
  | took => trivial
  | tookMany => trivial
  | @updated doc changes built data build stored =>
    obtain ⟨merged, hmerged, hbuilt⟩ := Except.bind_eq_ok.1 build
    exact Value.isData_of_stored
      (wellKeyed_of_build hm (wellKeyed_merged hm (hhandle doc rfl) hedit.keyed hmerged) hbuilt)
      stored
  | replaced build stored =>
    exact Value.isData_of_stored (wellKeyed_of_build hm hedit.keyed build) stored
  | tookDocument => trivial

/-- **A step keeps the documents of unique indexes apart.** -/
theorem separating_after {step : Step} (hready : step.desk.Ready) (hdata : step.edit.IsData)
    (hm : step.model.schema.type.WellNamed)
    (hhandle : ∀ doc, step.edit.handle? = some doc → step.model.Opens doc)
    (hs : step.before.Separating) : step.after.Separating :=
  Edit.storeAfter_keeps hready hdata (fun change hchange s hs =>
    (change.did_apply s).separating (hchange.isData hm hdata hhandle) hs) hs

/-- **Unique indexes hold over whole runs.** Once models are set up over an empty store, and however
their setup ends, no two documents of the source of a unique index over the data ever agree on all of
its term fields, whatever edits follow one another. The metadata of the indexes must be data: a query
in it would be run when the index is created. -/
theorem unique_indexes_hold {logging : Logging} {members : List Attached} {echo create : Bool}
    {steps : List Step} (hmembers : ∀ a ∈ members, a.model.indexes.PlainMetadata)
    (hmodels : ∀ step ∈ steps, step.model.schema.type.WellNamed)
    (hrun : Run (Setup.freshStore echo create logging members) steps) :
    ∀ s ∈ stores (Setup.freshStore echo create logging members) steps,
      ∀ e ∈ s.indexes, s.Separates e.2 := by
  have hbare : (Setup.freshStore echo create logging members).Bare :=
    Setup.bare_freshStore hmembers
  have hkeeps := hrun.keeps (separating_of_empty hbare.distinct hbare.find)
    fun step hmem hready hdata hhandle => separating_after hready hdata (hmodels step hmem) hhandle
  exact fun s hs => (hkeeps s hs).separates

/-! ## Notes of different texts -/

/-- A model of notes of which no two have the same text, with metadata for the index. -/
def textNotes (metadata : Option (Dict Value)) : Model where
  name := "notes"
  schema := { name := "Note", declaration := 0, fields := [({ name := "text" }, .text)] }
  indexes :=
    { definitions :=
        [(.text "by_text", { unique := true, terms := [.text "data.text"], data := metadata })]
      owner := some "notes" }

/-- The store that setting `textNotes` up leaves. -/
def textStore (metadata : Option (Dict Value)) : Store := Setup.storeOf (textNotes metadata)

/-- The data of a note. -/
def noteOf (text : String) : Value := .dict [(.text "text", .text text)]

theorem isData_noteOf (text : String) : (noteOf text).IsData :=
  ⟨rfl, Value.wellKeyed_dict.2 ⟨by simp [Dict.Distinct], by simp [Value.WellKeyed]⟩⟩

/-- Two notes are created of different texts, and then the first is given the text of the second. -/
def textEdits : List Edit :=
  [.create (noteOf "a") .null, .create (noteOf "b") .null, .write .update (.text "101") (noteOf "b")]

theorem wellNamed_textNotes (metadata : Option (Dict Value)) :
    (textNotes metadata).schema.type.WellNamed := by
  simp [textNotes, Schema.type, FieldType.WellNamed, FieldType.AreWellNamed]

theorem unique_indexes_hold_sample :
    Run (textStore none) ((textNotes none).following (textStore none) textEdits) ∧
    (∀ s ∈ stores (textStore none) ((textNotes none).following (textStore none) textEdits),
      ∀ e ∈ s.indexes, s.Separates e.2) ∧
    ((lastStore (textStore none) ((textNotes none).following (textStore none) textEdits)).find
      "notes" "102").isSome = true := by
  have hrun : Run (textStore none) ((textNotes none).following (textStore none) textEdits) := by
    refine run_following ?_ ?_
    · simp only [textEdits, List.forall_mem_cons, List.not_mem_nil, false_implies, implies_true,
        and_true]
      exact ⟨⟨isData_noteOf "a", rfl, trivial⟩, ⟨isData_noteOf "b", rfl, trivial⟩,
        Value.isData_text "101", isData_noteOf "b"⟩
    · simp [textEdits, Edit.handle?]
  refine ⟨hrun, unique_indexes_hold ?_ ?_ hrun, by decide +kernel⟩
  · simp [textNotes, IndexCatalog.PlainMetadata]
  · intro step hstep
    rw [model_of_following step hstep]
    exact wellNamed_textNotes none

/-- The creation of a note, as a query. -/
def noteCreation : Value :=
  .query (.create (.query (.collection (.text "notes") none)) [(.text "data", noteOf "a")])

/-- A query in the metadata of an index is run before the index is there, and so is free to create
two notes of the same text. -/
theorem unique_index_broken_sample :
    ¬ ∀ s ∈ stores (textStore (some [(.text "a", noteCreation), (.text "b", noteCreation)])) [],
      ∀ e ∈ s.indexes, s.Separates e.2 := by
  intro h
  have hclash : (textStore (some [(.text "a", noteCreation), (.text "b", noteCreation)])).clashes
      "notes-by_text" "notes" "101" "102" = true := by decide +kernel
  obtain ⟨e, he, hnot⟩ := exists_not_separates_of_clashes hclash (by simp)
  exact hnot (h _ (by simp [stores]) e he)

end DocMapper.Model
