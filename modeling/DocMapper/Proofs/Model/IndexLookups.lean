import DocMapper.Proofs.Model.ValidRuns
import DocMapper.Proofs.Setup.IndexLayouts
/-!
# Lookups by index

The documents that an index has for some terms can be listed page by page, or only the first of them
be looked for. The queries for this find the reference in an entry of the index where its definition
puts it (`Model.entryRef_spec`). The two lookups agree (`Model.index_lookups_agree`): a page that is
large enough shows what the index lists (`Store.Listed`), and a look for the first document finds the
first of that list.
-/

namespace DocMapper

open Store
open Query (named binding)

namespace Store

open Action

variable {apply : Value → Value → Action Evaluation Value} {b : Bindings} {s : Store}

/-! ## Entries of an index -/

/-- A look-up comes to the entries that the index has for what its terms come to. -/
theorem Yields.matching {index v : Value} {terms : Option Value} {name : String}
    {params : IndexParams} (hindex : Yields apply b s index (.ok (.ref (indexRef name))) s)
    (hparams : s.indexes.get? name = some params)
    (hterms : ∀ frame frames, ∃ frames', (evaluateOption apply .null terms ⟨b, frame⟩).perform
      ⟨s, frames⟩ = (.ok v, ⟨s, frames'⟩)) :
    Yields apply b s (.query (.matching index terms)) ((s.entriesOf params v).map .rows) s := by
  intro frame frames
  obtain ⟨f₁, h₁⟩ := hindex frame frames
  obtain ⟨f₂, h₂⟩ := hterms frame f₁
  have hfound : s.index (.ref (indexRef name)) = .ok params := by
    have hname : IndexParams.idOf (.ref (indexRef name)) = .ok name := rfl
    simp only [Store.index, hname, bind, Except.bind, hparams]
    rfl
  refine ⟨f₂, ?_⟩
  simp only [evaluateWith, evaluateQuery, perform_bind, h₁, perform_get, perform_liftM, hfound, h₂]
  cases s.entriesOf params v <;> rfl

/-- **A look-up for plain terms** comes to the entries that the index has for them. -/
theorem Yields.lookUp {index : Value} {terms : List Value} {name : String} {params : IndexParams}
    (hindex : Yields apply b s index (.ok (.ref (indexRef name))) s)
    (hparams : s.indexes.get? name = some params) (hterms : ∀ v ∈ terms, v.isPlain = true) :
    Yields apply b s (.query (Query.lookUp index terms))
      ((s.entriesOf params (termsArgument (terms.map Value.settled))).map .rows) s := by
  match terms, hterms with
  | [], _ => exact Yields.matching hindex hparams fun _ frames => ⟨frames, rfl⟩
  | [term], hterms =>
    exact Yields.matching hindex hparams fun frame frames =>
      Yields.plain (hterms term List.mem_cons_self) frame frames
  | first :: second :: rest, hterms =>
    have hsettled : (Value.list (first :: second :: rest)).settled =
        termsArgument ((first :: second :: rest).map Value.settled) := by
      rw [Value.settled, Value.settledList_eq_map]
      rfl
    rw [← hsettled]
    exact Yields.matching hindex hparams fun frame frames =>
      Yields.plain (Value.isPlain_list.2 hterms) frame frames

end Store

namespace Model

variable {m : Model} {s : Store} {name : Value} {l : IndexLayout}

/-- **The reference in an entry** is where the index shows it. -/
theorem entryRef_spec (hl : m.indexes.layout name m.name = .ok l) {entry : Value}
    (hentry : entry.Sendable) : ∃ target, m.entryRef name entry = .ok target ∧ target.Sendable ∧
      ∀ apply b s doc, Yields apply b s entry (.ok (l.entry doc)) s →
        Yields apply b s target (.ok (.ref doc.ref)) s := by
  have hposition := IndexCatalog.refPosition_of_layout hl
  by_cases hnone : l.values = []
  · refine ⟨entry, ?_, hentry, fun apply b s doc h => ?_⟩
    · rw [entryRef, hposition, if_pos hnone]
      rfl
    · rwa [IndexLayout.entry_of_nil hnone] at h
  · refine ⟨.query (.select [.int l.values.length] entry none), ?_, ?_, fun apply b s doc h => ?_⟩
    · rw [entryRef, hposition, if_neg hnone]
      rfl
    · exact Value.sendable_query.2 (Query.Sendable.select rfl hentry)
    · rw [IndexLayout.entry_of_ne_nil hnone] at h
      refine Yields.select h ?_
      rw [select?, l.subscript_row doc]
      rfl

/-- The first of the entries that are bound under `matched`. -/
def firstEntry : Value :=
  .query (.select [.text "data", .int 0]
    (.query (.page (named "matched") (.int 1) .null .null)) none)

theorem sendable_firstEntry : firstEntry.Sendable := by
  have hpage : (Query.page (named "matched") (.int 1) .null .null).Sendable :=
    .page (Query.sendable_named "matched") (.plain rfl) (.plain rfl) (.plain rfl)
  exact Value.sendable_query.2 (Query.Sendable.select rfl (Value.sendable_query.2 hpage))

/-- A look whether there are entries comes to the document of the first of them, or to null. -/
theorem yields_found {apply : Value → Value → Action Evaluation Value} {b : Bindings}
    {docs : List StoredDocument} {target : Value}
    (hget : b.get? (.text "matched") = some (.rows (docs.map l.entry)))
    (htarget : ∀ doc, Yields apply b s firstEntry (.ok (l.entry doc)) s →
      Yields apply b s target (.ok (.ref doc.ref)) s) :
    Yields apply b s (.query (.ifElse (.query (.present (named "matched")))
        (.query (.get target)) .null))
      (docs.head?.elim (.ok .null) fun doc => s.fetch (.ref doc.ref)) s := by
  have hvar : Yields apply b s (named "matched") (.ok (.rows (docs.map l.entry))) s :=
    Yields.var hget
  have hpresent := Yields.present hvar rfl
  cases docs with
  | nil => exact Yields.ifElse_false hpresent rfl Yields.null
  | cons doc rest =>
    refine Yields.ifElse_true hpresent rfl ?_
    obtain ⟨v, hv, hselect⟩ := exists_page_one (l.entry doc) (rest.map l.entry)
    have hpaged := Yields.paged hvar (Yields.plain (v := .int 1) rfl) (by simp)
      (Yields.plain (v := .null) rfl) (fun _ => rfl) (Yields.plain (v := .null) rfl)
      (fun _ => rfl)
    exact Yields.get (htarget doc (Yields.select (hv ▸ hpaged) hselect))

section Queries

variable {terms : List Value} {matched : Query} {docs : List StoredDocument}

/-- A query whose first name is bound to the entries that an index has, and whose last is its
result. -/
theorem perform_matched {last : String} {body : Value} {out : Except Fault Value}
    (hlast : last ≠ "matched")
    (hmatched : ∀ apply b, Yields apply b s (.query matched) (.ok (.rows (docs.map l.entry))) s)
    (hbody : ∀ apply,
      Yields apply (Dict.put [] "matched" (.rows (docs.map l.entry))) s body out s) :
    (evaluate (.query (binding [("matched", .query matched), (last, body)] (named last)))).perform s
      = (out, s) := by
  have hnames : Dict.ofFields [("matched", Value.query matched), (last, body)] =
      [(.text "matched", .query matched)] ++ [(.text last, body)] := by
    simp [Dict.ofFields, Dict.ofEntries, Dict.putAll, Dict.put, Ne.symm hlast]
  refine perform_evaluate ?_
  rw [binding, hnames]
  exact Yields.letIn_last [_] (Binds.cons (hmatched _ _)) (hbody _)

theorem sendable_matched {last : String} {body : Value} (hlast : last ≠ "matched")
    (hmatched : matched.Sendable) (hbody : body.Sendable) :
    (binding [("matched", .query matched), (last, body)] (named last)).Sendable := by
  simp [binding, Dict.ofFields, Dict.ofEntries, Dict.putAll, Dict.put, Ne.symm hlast, hmatched,
    hbody]

variable (hl : m.indexes.layout name m.name = .ok l)
  (hmatching : m.indexes.matching name terms = .ok matched) (hsend : matched.Sendable)
  (hmatched : ∀ apply b, Yields apply b s (.query matched) (.ok (.rows (docs.map l.entry))) s)
  (hfetch : ∀ doc ∈ docs, s.fetch (.ref doc.ref) = .ok (.dict doc.members))

include hl hmatching hsend hmatched hfetch

/-- **The query for the first document** of those that an index lists. -/
theorem firstByIndexQuery_spec : ∃ q, m.firstByIndexQuery name terms = .ok q ∧ q.Sendable ∧
    (evaluate (.query q)).perform s = (.ok (Store.shown docs.head?), s) := by
  obtain ⟨target, htarget, hsendTarget, hyields⟩ := entryRef_spec hl sendable_firstEntry
  refine ⟨_, Except.bind_eq_ok.2 ⟨_, hmatching, Except.bind_eq_ok.2 ⟨_, htarget, rfl⟩⟩, ?_, ?_⟩
  · exact sendable_matched (by simp) hsend (by simp [hsendTarget])
  · refine perform_matched (by simp) hmatched fun apply => ?_
    have hfound := yields_found (Dict.get?_put_self [] "matched" (Value.rows (docs.map l.entry)))
      fun doc => hyields apply _ s doc
    cases docs with
    | nil => exact hfound
    | cons doc rest =>
      have hdoc := hfetch doc List.mem_cons_self
      exact hdoc ▸ hfound

/-- **The query for a page** of the documents that an index lists. -/
theorem listByIndexQuery_spec {request : PageRequest} (hafter : request.after.isPlain = true)
    (hbefore : request.before.isPlain = true) :
    ∃ q, m.listByIndexQuery name terms request = .ok q ∧ q.Sendable ∧
      (evaluate (.query q)).perform s =
        (page (rowsOf docs) (.int request.size) request.after.settled request.before.settled,
          s) := by
  obtain ⟨target, htarget, hsendTarget, hyields⟩ := entryRef_spec hl
    (Query.sendable_named "entry")
  have hpage : (Query.page (named "matched") (.int request.size) request.after
      request.before).Sendable :=
    .page (Query.sendable_named "matched") (.plain rfl) (.plain hafter) (.plain hbefore)
  refine ⟨_, Except.bind_eq_ok.2 ⟨_, hmatching, Except.bind_eq_ok.2 ⟨_, htarget, rfl⟩⟩, ?_, ?_⟩
  · exact sendable_matched (by simp) hsend (by simp [hsendTarget, hpage])
  · refine perform_matched (by simp) hmatched fun apply => ?_
    have hvar : Yields apply (Dict.put [] "matched" (.rows (docs.map l.entry))) s (named "matched")
        (.ok (.rows (docs.map l.entry))) s := Yields.var (Dict.get?_put_self _ _ _)
    exact Yields.page_documents docs l.entry
      (Yields.paged hvar (Yields.plain rfl) (by simp) (Yields.plain hafter)
        (fun h => by rw [h]; rfl) (Yields.plain hbefore) (fun h => by rw [h]; rfl))
      (fun doc _ s => hyields _ _ _ doc (Yields.var (Dict.get?_put_self _ _ _))) hfetch

/-! ## Operations -/

variable {desk : Desk Memory} (h : desk.Ready) (hstore : desk.remote.store = s)

include h hstore

/-- **A look for the first document** opens the first of those that the index lists. -/
theorem runs_getFirstByIndex : ∃ q, desk.Runs (m.getFirstByIndex Memory.executor name terms)
    (m.opened desk.logging.ambient.now docs.head?) [.query q] s := by
  obtain ⟨q, hq, hsendQ, heval⟩ := firstByIndexQuery_spec hl hmatching hsend hmatched hfetch
  have hopened : m.opened desk.logging.ambient.now docs.head? =
      m.answered desk.logging.ambient.now "get_first_by_index" name (.ok docs.head?) := rfl
  subst hstore
  rw [hopened]
  exact ⟨q, Desk.Runs.lift_bind hq (runs_documentOrNone_run h hsendQ heval)⟩

/-- **A list by an index** opens a page of the documents that the index lists. -/
theorem runs_listByIndex {given options : Value} (hgiven : given.items = .ok terms)
    {request : PageRequest} (hoptions : PageRequest.ofOptions options = .ok request)
    (hafter : request.after.isPlain = true) (hbefore : request.before.isPlain = true) :
    ∃ q, desk.Runs (m.listByIndex Memory.executor name given options)
      (m.answeredPage desk.logging.ambient.now "list_by_index" name (page (rowsOf docs)
        (.int request.size) request.after.settled request.before.settled)) [.query q] s := by
  obtain ⟨q, hq, hsendQ, heval⟩ :=
    listByIndexQuery_spec hl hmatching hsend hmatched hfetch hafter hbefore
  subst hstore
  exact ⟨q, Desk.Runs.lift_bind hoptions (Desk.Runs.lift_bind hgiven
    (Desk.Runs.lift_bind hq (runs_page h hsendQ heval)))⟩

end Queries

variable {desk : Desk Memory} {terms : List Value}

/-- The query for the documents that an index has for some plain terms comes to one entry for each
of those that have what the terms ask for. -/
theorem matching_wanted (hs : s.Filed) (hprovides : m.Provides s name)
    (hl : m.indexes.layout name m.name = .ok l) (hplain : ∀ v ∈ terms, v.isPlain = true)
    {wanted : List Value}
    (hwanted : sought l (terms.map Value.settled) = .ok wanted)
    (hsort : l.CanSort (s.having l wanted)) :
    ∃ matched docs, m.indexes.matching name terms = .ok matched ∧ matched.Sendable ∧
      (∀ apply b, Yields apply b s (.query matched) (.ok (.rows (docs.map l.entry))) s) ∧
      s.Listed l wanted docs := by
  obtain ⟨-, d, hd, -⟩ := IndexCatalog.exists_of_layout hl
  obtain ⟨full, stored, hfull, hstored, hlaid⟩ := hprovides.exists_laysOut hl
  obtain ⟨docs, hentries, hlisted⟩ := entriesOf_spec hs hlaid hwanted hsort
  refine ⟨.lookUp (.query (.index (.text full) none)) terms, docs,
    Except.bind_eq_ok.2 ⟨d, hd, Except.bind_eq_ok.2 ⟨full, hfull, rfl⟩⟩, ?_, fun apply b => ?_,
    hlisted⟩
  · exact Query.Sendable.lookUp (by simp) fun v hv => .plain (hplain v hv)
  · have hindex : Yields apply b s (.query (.index (.text full) none))
        (.ok (.ref (indexRef full))) s := Yields.index none (Yields.plain rfl)
    have hlookUp := Yields.lookUp hindex hstored hplain
    rwa [hentries] at hlookUp

/-- As many terms as the index has ask for themselves. -/
theorem matching_spec (hs : s.Filed) (hprovides : m.Provides s name)
    (hl : m.indexes.layout name m.name = .ok l) (hterms : terms ≠ [])
    (hlen : terms.length = l.terms.length) (hplain : ∀ v ∈ terms, v.isPlain = true)
    (hsort : l.CanSort (s.having l (terms.map Value.settled))) :
    ∃ matched docs, m.indexes.matching name terms = .ok matched ∧ matched.Sendable ∧
      (∀ apply b, Yields apply b s (.query matched) (.ok (.rows (docs.map l.entry))) s) ∧
      s.Listed l (terms.map Value.settled) docs :=
  matching_wanted hs hprovides hl hplain (sought_eq (by simpa using hterms) (by simp [hlen])) hsort

/-- A step takes no index away. -/
theorem Step.provides_after {step : Step} (hready : step.desk.Ready) (hdata : step.edit.IsData)
    (h : m.Provides step.before name) : m.Provides step.after name :=
  Edit.storeAfter_keeps (P := fun s => m.Provides s name) hready hdata
    (fun change _ s hs => hs.of_did (change.did_apply s)) h

/-- **Over whole runs** documents stay filed and indexes provided. -/
theorem Run.provides {start : Store} {steps : List Step} (hrun : Run start steps)
    (hfiled : start.Filed) (h : m.Provides start name) :
    ∀ s ∈ stores start steps, s.Filed ∧ m.Provides s name :=
  hrun.keeps ⟨hfiled, h⟩ fun step _ hready hdata _ hs =>
    ⟨step.filed_after hready hdata hs.1, Step.provides_after hready hdata hs.2⟩

/-- **Lookups by an index agree.** A list by an index that the store provides has the documents with
the terms that were given, each once and no other: in the order of the collection, or, if the index
shows values, in the order of these, each way as its definition says, with null behind all else and
the id telling apart what is level. A look for the first document opens the first of that list, or
finds none if it is empty. The terms are compared as the database keeps them, in which a tuple is a
list.

Documents with the terms have to match the schema, and an index has to be able to tell which of two
values comes first. -/
theorem index_lookups_agree (h : desk.Ready) (hstore : desk.remote.store = s) (hs : s.Filed)
    (hprovides : m.Provides s name) (hl : m.indexes.layout name m.name = .ok l)
    (hterms : terms ≠ []) (hlen : terms.length = l.terms.length)
    (hplain : ∀ v ∈ terms, v.isPlain = true)
    (hsort : l.CanSort (s.having l (terms.map Value.settled)))
    (hvalid : ∀ doc ∈ s.having l (terms.map Value.settled),
      ∃ opened, m.opening desk.logging.ambient.now doc = .ok opened)
    {given options : Value} (hgiven : given.items = .ok terms) {size : Int}
    (hoptions : PageRequest.ofOptions options = .ok ⟨size, .null, .null⟩)
    (hsize : (s.having l (terms.map Value.settled)).length ≤ size) :
    ∃ docs opened, s.Listed l (terms.map Value.settled) docs ∧
      docs.mapM (m.opening desk.logging.ambient.now) = .ok opened ∧
      (∃ calls, desk.Runs (m.listByIndex Memory.executor name given options)
        (.ok ⟨opened, .null, .null⟩) calls s) ∧
      ∃ calls, desk.Runs (m.getFirstByIndex Memory.executor name terms) (.ok opened.head?) calls
        s := by
  obtain ⟨matched, docs, hmatching, hsend, hmatched, hlisted⟩ :=
    matching_spec hs hprovides hl hterms hlen hplain hsort
  have hmem : ∀ doc ∈ docs, doc ∈ s.having l (terms.map Value.settled) :=
    fun doc hdoc => hlisted.perm.mem_iff.1 hdoc
  have hfetch : ∀ doc ∈ docs, s.fetch (.ref doc.ref) = .ok (.dict doc.members) := by
    intro doc hdoc
    obtain ⟨e, he, rfl⟩ := List.mem_map.1 (List.mem_filter.1 (hmem doc hdoc)).1
    exact hs.fetch he
  obtain ⟨opened, hopened⟩ := exists_forall₂ fun doc hdoc => hvalid doc (hmem doc hdoc)
  have hopening := Except.mapM_eq_ok.2 hopened
  refine ⟨docs, opened, hlisted, hopening, ?_, ?_⟩
  · obtain ⟨q, hruns⟩ := runs_listByIndex hl hmatching hsend hmatched hfetch h hstore hgiven
      hoptions rfl rfl
    have hlength : (docs.map fun doc => Value.dict doc.members).length ≤ size := by
      rwa [List.length_map, hlisted.perm.length_eq]
    have hpage : m.answeredPage desk.logging.ambient.now "list_by_index" name
        (page (rowsOf docs) (.int size) .null .null) = .ok ⟨opened, .null, .null⟩ := by
      rw [rowsOf, page_whole hlength, answeredPage, m.buildPage_of_data _ rfl, hopening]
      rfl
    exact ⟨_, hpage ▸ hruns⟩
  · obtain ⟨q, hruns⟩ := runs_getFirstByIndex hl hmatching hsend hmatched hfetch h hstore
    have hhead : m.opened desk.logging.ambient.now docs.head? = .ok opened.head? := by
      cases hopened with
      | nil => rfl
      | cons hdoc _ => exact Except.map_eq_ok.2 ⟨_, hdoc, rfl⟩
    exact ⟨_, hhead ▸ hruns⟩

/-! ## Books on shelves -/

/-- A model of books with an index by shelf and kind, which shows the latest books first. -/
def bookModel : Model where
  name := "books"
  schema :=
    { name := "Book"
      fields := [({ name := "shelf" }, .text), ({ name := "kind" }, .text),
        ({ name := "year", default := .value .null }, .optional .int)] }
  indexes :=
    { definitions := [(.text "by_shelf", {
        terms := [.text "data.shelf", .text "data.kind"]
        values := [{ field := .text "data.year", reverse := true }] })]
      owner := some "books" }

/-- The layout of the index. -/
def shelfLayout : IndexLayout where
  source := "books"
  terms := [["data", "shelf"], ["data", "kind"]]
  values := [(["data", "year"], true)]

/-- The terms of novels on a shelf. -/
def shelfTerms : List Value := [.text "A", .text "novel"]

/-- The data of a book. -/
def bookOf (shelf kind : String) (year : Value) : Value :=
  .dict [(.text "shelf", .text shelf), (.text "kind", .text kind), (.text "year", year)]

/-- Five books are created: four of one shelf and kind, of which one has no year and two are of the
same year. -/
def bookEdits : List Edit :=
  [.create (bookOf "A" "novel" (.int 1990)) .null, .create (bookOf "A" "novel" .null) .null,
    .create (bookOf "B" "novel" (.int 2000)) .null, .create (bookOf "A" "novel" (.int 2001)) .null,
    .create (bookOf "A" "novel" (.int 1990)) .null]

/-- The store that these edits leave, once `bookModel` is set up. -/
def bookStore : Store :=
  lastStore (Setup.storeOf bookModel) (bookModel.following (Setup.storeOf bookModel) bookEdits)

theorem isData_bookOf (shelf kind : String) {year : Value} (h : year.IsData) :
    (bookOf shelf kind year).IsData where
  plain := Value.isPlain_dict.2 (by simpa [Value.isPlain] using h.plain)
  keyed := Value.wellKeyed_dict.2
    ⟨by simp [Dict.Distinct], by simpa [Value.WellKeyed] using h.keyed⟩

theorem bookStore_spec : bookStore.Filed ∧ bookModel.Provides bookStore "by_shelf" := by
  have hplain : bookModel.indexes.PlainMetadata := by
    simp [bookModel, IndexCatalog.PlainMetadata]
  have hrun : Run (Setup.storeOf bookModel)
      (bookModel.following (Setup.storeOf bookModel) bookEdits) := by
    refine run_following ?_ (by simp [bookEdits, Edit.handle?])
    simp only [bookEdits, List.forall_mem_cons, List.not_mem_nil, false_implies, implies_true,
      and_true]
    have hdated : ∀ shelf kind year, (Edit.create (bookOf shelf kind (.int year)) .null).IsData :=
      fun shelf kind year => ⟨isData_bookOf shelf kind (Value.isData_int year), rfl, trivial⟩
    exact ⟨hdated .., ⟨isData_bookOf _ _ ⟨rfl, trivial⟩, rfl, trivial⟩, hdated .., hdated ..,
      hdated ..⟩
  have hprovides : bookModel.Provides (Setup.storeOf bookModel) "by_shelf" := by
    have hfull : bookModel.indexes.fullName "by_shelf" = .ok "books-by_shelf" := rfl
    refine Setup.provides_storeOf hplain hfull (by decide +kernel) fun other hother _ => ?_
    simpa [bookModel, IndexCatalog.names, Dict.keys, Value.ofKey] using hother
  exact hrun.provides (Setup.bare_storeOf hplain).filed hprovides _ (lastStore_mem _ _)

theorem index_lookups_agree_sample :
    (∃ docs opened, bookStore.Listed shelfLayout shelfTerms docs ∧
      docs.mapM (bookModel.opening (bookModel.deskOver bookStore).logging.ambient.now) =
        .ok opened ∧
      (∃ calls, (bookModel.deskOver bookStore).Runs (bookModel.listByIndex Memory.executor
        "by_shelf" (.list shelfTerms) .null) (.ok ⟨opened, .null, .null⟩) calls bookStore) ∧
      ∃ calls, (bookModel.deskOver bookStore).Runs (bookModel.getFirstByIndex Memory.executor
        "by_shelf" shelfTerms) (.ok opened.head?) calls bookStore) ∧
    ((bookModel.listByIndex Memory.executor "by_shelf" (.list shelfTerms) .null).perform
      (bookModel.deskOver bookStore)).1.toOption.map (fun page => page.documents.map Document.id) =
        some ["102", "104", "101", "105"] := by
  have hstore : (bookModel.deskOver bookStore).remote.store = bookStore :=
    bookModel.deskOver_store bookStore
  have hlayout : bookModel.indexes.layout "by_shelf" bookModel.name = .ok shelfLayout := rfl
  have hplain : ∀ v ∈ shelfTerms, v.isPlain = true := by simp [shelfTerms, Value.isPlain]
  have hne : shelfTerms ≠ [] := by simp [shelfTerms]
  have hsort : shelfLayout.CanSort (bookStore.having shelfLayout shelfTerms) :=
    IndexLayout.canSort_of_leaves (by decide +kernel)
  have hopens : ((bookStore.having shelfLayout shelfTerms).all fun doc =>
      (bookModel.opening (bookModel.deskOver bookStore).logging.ambient.now doc).toBool) = true :=
    by decide +kernel
  have hopened : ∀ doc ∈ bookStore.having shelfLayout shelfTerms, ∃ opened,
      bookModel.opening (bookModel.deskOver bookStore).logging.ambient.now doc = .ok opened := by
    intro doc hdoc
    have htoBool := List.all_eq_true.1 hopens doc hdoc
    cases h : bookModel.opening (bookModel.deskOver bookStore).logging.ambient.now doc with
    | error fault =>
      rw [h] at htoBool
      cases htoBool
    | ok opened => exact ⟨opened, rfl⟩
  have hfew : (bookStore.having shelfLayout shelfTerms).length ≤ 100 := by decide +kernel
  have hsize : ((bookStore.having shelfLayout shelfTerms).length : Int) ≤ 100 := by omega
  have hgiven : (Value.list shelfTerms).items = .ok shelfTerms := rfl
  have hoptions : PageRequest.ofOptions .null = .ok ⟨100, .null, .null⟩ := rfl
  obtain ⟨hfiled, hprovides⟩ := bookStore_spec
  refine ⟨?_, by decide +kernel⟩
  exact index_lookups_agree (bookModel.deskOver_ready bookStore) hstore hfiled hprovides hlayout hne
    rfl hplain hsort hopened hgiven hoptions hsize

end Model

end DocMapper
