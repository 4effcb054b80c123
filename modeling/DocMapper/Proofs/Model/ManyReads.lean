import DocMapper.Proofs.Model.OneByOne
/-!
# Reading many documents

A read of many ids is one query that maps the read of a document over the places of the ids
(`Model.getManyQuery_spec`). It finds for each id what a read of that id alone finds, and passes over
the ids that have no document (`Model.runs_getMany`). So the documents that it gives are those of
the single reads in their order, and there are as many of them as ids only if every id has one
(`Model.get_many_collects_gets`).
-/

namespace DocMapper.Model

open Query Store Action

/-- The stored document that an id names, if there is one. -/
def document? (m : Model) (s : Store) (id : Value) : Option StoredDocument :=
  (m.place? id).bind fun p => s.find p.1 p.2

variable {m : Model} {desk : Desk Memory} {ids : List Value} {docs : List (Option Document)}

theorem document?_of_place {s : Store} {id : Value} {p : String × String}
    (h : m.place? id = some p) : m.document? s id = s.find p.1 p.2 := by
  rw [document?, h, Option.bind_some]

/-! ## The query -/

/-- The document of a place is looked up. -/
def lookUp (p : String × String) : Action Store (Option StoredDocument) :=
  .of fun s => (.ok (s.find p.1 p.2), s)

/-- Looking up leaves the store alone, so that one look does not show in the next. -/
theorem perform_mapM_lookUp (places : List (String × String)) (s : Store) :
    (places.mapM lookUp).perform s = (.ok (places.map fun p => s.find p.1 p.2), s) := by
  induction places with
  | nil => rfl
  | cons p rest ih =>
    rw [perform_mapM_cons, lookUp, perform_of]
    simp only [ih]
    rfl

theorem yields_getOrNull (s : Store) (b : Bindings) (p : String × String) :
    Yields (applyClosure depthBound) (b.put "ref" (.ref (documentRef p.1 p.2))) s getOrNull
      (.ok (Store.shown (s.find p.1 p.2))) s := by
  have href : Yields (applyClosure depthBound) (b.put "ref" (.ref (documentRef p.1 p.2))) s
      (named "ref") (.ok (.ref (documentRef p.1 p.2))) s := Yields.var (Dict.get?_put_self _ _ _)
  have hexists : Yields _ _ s refExists _ s := Yields.present href (exists?_documentRef s p.1 p.2)
  cases hfind : s.find p.1 p.2 with
  | none => exact Yields.ifElse_false hexists (by simp [Value.truthy, hfind]) Yields.null
  | some doc =>
    refine Yields.ifElse_true hexists (by simp [Value.truthy, hfind]) ?_
    have hget := Yields.get href
    rwa [fetch_documentRef hfind] at hget

/-- Ids have the documents of the places that they name. -/
theorem map_document? {s : Store} {places : List (String × String)}
    (h : List.Forall₂ (fun id p => m.place? id = some p) ids places) :
    ids.map (m.document? s) = places.map fun p => s.find p.1 p.2 := by
  induction h with
  | nil => rfl
  | cons hplace _ ih => rw [List.map_cons, List.map_cons, document?_of_place hplace, ih]

/-- **A read of many ids looks the document of each id up**, and has no effect. -/
theorem getManyQuery_spec (h : ∀ id ∈ ids, (m.place? id).isSome = true) :
    ∃ q, m.getManyQuery ids = .ok q ∧ q.Sendable ∧ ∃ act : Action Store (List (Option StoredDocument)),
      (∀ s, act.perform s = (.ok (ids.map (m.document? s)), s)) ∧
      ∀ s, (evaluate (.query q)).perform s =
        ((act.perform s).1.map fun found => .list (found.map Store.shown), (act.perform s).2) := by
  obtain ⟨places, hplaces⟩ := exists_forall₂ fun id hid => Option.isSome_iff_exists.1 (h id hid)
  obtain ⟨refs, hrefs, hsource⟩ := refQueries_spec hplaces
  refine ⟨_, by rw [getManyQuery, hrefs]; rfl, sendable_mapped (by simp) hsource.sendable ?_,
    places.mapM lookUp, fun s => ?_, evaluate_mapped_acts (by simp) (hsource.yields _ _)
      fun p _ b s => yields_getOrNull s b p⟩
  · simp [getOrNull]
  · rw [perform_mapM_lookUp, map_document? hplaces]

/-! ## The operations -/

/-- **A read of many ids opens the documents that there are**, one for each id that has one. -/
theorem runs_getMany (h : desk.Ready) (hids : ∀ id ∈ ids, (m.place? id).isSome = true) :
    ∃ q, m.getManyQuery ids = .ok q ∧ desk.Runs (m.getMany Memory.executor (.list ids))
      (((ids.map (m.document? desk.remote.store)).filterMap id).mapM
        (m.opening desk.logging.ambient.now)) [.query q] desk.remote.store := by
  obtain ⟨q, hq, hsend, act, hact, heval⟩ := getManyQuery_spec hids
  have hlength : (Value.list ids).length = .ok ids.length := rfl
  refine ⟨q, hq, Desk.Runs.lift_bind rfl (Desk.Runs.lift_bind hq (Desk.Runs.lift_bind hlength ?_))⟩
  refine Desk.Runs.quiet_bind (Desk.Runs.onLog_add h .debug _ (.inl rfl)) fun mid hmid => ?_
  have hmany := runs_many (hmid.ready h) "get_many" (.list ids) hsend (heval _)
    fun ran found _ => runs_presentDocuments m ran found
  rwa [hact, hmid.now, hmid.store] at hmany

/-- A read of many ids that have to be there counts the documents that a read of the ids gives. -/
theorem runs_getManyOrThrow {found : List Document} {calls : List Value} {t : Store}
    (h : desk.Runs (m.getMany Memory.executor (.list ids)) (.ok found) calls t) :
    desk.Runs (m.getManyOrThrow Memory.executor (.list ids))
      (if found.length = ids.length then .ok found else .error (.countMismatch "get_many_or_throw"
        (.int ids.length) (.int found.length) (.text m.name))) calls t := by
  have hlength : (Value.list ids).length = .ok ids.length := rfl
  refine Desk.Runs.bind_quiet h fun mid hmid => Desk.Runs.lift_bind hlength ?_
  rw [← hmid.store]
  by_cases hcount : found.length = ids.length
  · simp only [hcount, ne_eq, not_true_eq_false, if_false, if_true]
    exact Desk.Runs.pure mid found
  · simp only [hcount, ne_eq, not_false_eq_true, if_true, if_false]
    exact Desk.Runs.lift mid _

/-! ## Single reads in their order -/

/-- An id names a document that a model opens, or none at all. -/
def Gives (m : Model) (now : Int) (s : Store) (id : Value) (doc : Option Document) : Prop :=
  (m.place? id).isSome = true ∧ m.opened now (m.document? s id) = .ok doc

theorem Gives.stored {now : Int} {s : Store} {id : Value} {doc : Option Document}
    (h : m.Gives now s id doc) : doc.map Document.stored = m.document? s id := by
  cases doc with
  | some doc => exact (stored_of_opened h.2).symm
  | none =>
    cases hfind : m.document? s id with
    | none => rfl
    | some stored =>
      have hopened := h.2
      rw [hfind, opened] at hopened
      obtain ⟨_, -, hsome⟩ := Except.map_eq_ok.1 hopened
      cases hsome

theorem Gives.runs_get {id : Value} {doc : Option Document} (h : desk.Ready)
    (hdoc : m.Gives desk.logging.ambient.now desk.remote.store id doc) :
    ∃ q, desk.Runs (m.get Memory.executor id) (.ok doc) [.query q] desk.remote.store := by
  obtain ⟨p, hplace⟩ := Option.isSome_iff_exists.1 hdoc.1
  obtain ⟨q, -, hruns⟩ := Model.runs_get h hplace
  rw [← document?_of_place hplace, hdoc.2] at hruns
  exact ⟨q, hruns⟩

/-- **Reads of single ids one after another** give what each of them gives by itself. -/
theorem runs_mapM_get {now : Int} {s : Store} (hdocs : List.Forall₂ (m.Gives now s) ids docs)
    (h : desk.Ready) (hnow : desk.logging.ambient.now = now) (hstore : desk.remote.store = s) :
    ∃ calls, desk.Runs (ids.mapM (m.get Memory.executor)) (.ok docs) calls s := by
  induction hdocs generalizing desk with
  | nil =>
    rw [← hstore]
    exact ⟨[], Desk.Runs.pure desk []⟩
  | @cons id doc rest others hdoc _ ih =>
    rw [← hnow, ← hstore] at hdoc
    obtain ⟨q, hget⟩ := hdoc.runs_get h
    obtain ⟨mid, hmid, hbecomes⟩ := hget
    obtain ⟨calls, after, hafter, hthen⟩ :=
      ih (hbecomes.ready h) (hbecomes.now.trans hnow) (hbecomes.store.trans hstore)
    refine ⟨[.query q] ++ calls, after, ?_, hbecomes.trans hthen⟩
    rw [perform_mapM_cons, hmid]
    simp only [hafter]
    rfl

theorem map_opened {now : Int} {s : Store} (hdocs : List.Forall₂ (m.Gives now s) ids docs) :
    (ids.map (m.document? s)).map (m.opened now) = docs.map .ok := by
  induction hdocs with
  | nil => rfl
  | cons hdoc _ ih => rw [List.map_cons, List.map_cons, List.map_cons, hdoc.2, ih]

/-- There are as many documents as ids that have one. -/
theorem length_present {now : Int} {s : Store} (hdocs : List.Forall₂ (m.Gives now s) ids docs) :
    (docs.filterMap id).length = ids.countP fun id => (m.document? s id).isSome := by
  induction hdocs with
  | nil => rfl
  | @cons id doc rest others hdoc _ ih =>
    rw [List.countP_cons, ← hdoc.stored, Option.isSome_map, ← ih]
    cases doc <;> simp

/-- **A read of many ids collects the reads of single ids**: over every store whose addressed
documents fit the schema, it gives the documents that reads of the ids one after another give, in the
order of the ids, an id that stands twice twice and an id without a document not at all. The ids are
texts or references, and nothing is changed. A read of ids that all have to be there gives the same
documents exactly if every id has one, and otherwise fails with the number of ids and the number of
those that have a document. -/
theorem get_many_collects_gets (m : Model) (desk : Desk Memory) (h : desk.Ready) (ids : List Value)
    (hids : ∀ id ∈ ids, (m.place? id).isSome = true)
    (hvalid : ∀ id ∈ ids, ∀ doc, m.document? desk.remote.store id = some doc →
      ∃ opening, m.opening desk.logging.ambient.now doc = .ok opening) :
    ∃ docs : List (Option Document),
      List.Forall₂ (fun id doc => doc.map Document.stored = m.document? desk.remote.store id ∧
        ∃ q, desk.Runs (m.get Memory.executor id) (.ok doc) [.query q] desk.remote.store) ids docs ∧
      (∃ calls, desk.Runs (ids.mapM (m.get Memory.executor)) (.ok docs) calls
        desk.remote.store) ∧
      (∃ q, desk.Runs (m.getMany Memory.executor (.list ids)) (.ok (docs.filterMap id)) [.query q]
        desk.remote.store) ∧
      ((∃ q, desk.Runs (m.getManyOrThrow Memory.executor (.list ids)) (.ok (docs.filterMap id))
        [.query q] desk.remote.store) ↔
          ∀ id ∈ ids, (m.document? desk.remote.store id).isSome = true) ∧
      ((∃ id ∈ ids, m.document? desk.remote.store id = none) →
        ∃ q, desk.Runs (m.getManyOrThrow Memory.executor (.list ids))
          (.error (.countMismatch "get_many_or_throw" (.int ids.length)
            (.int (ids.countP fun id => (m.document? desk.remote.store id).isSome))
            (.text m.name))) [.query q] desk.remote.store) := by
  have hgives : ∀ id ∈ ids, ∃ doc, m.Gives desk.logging.ambient.now desk.remote.store id doc := by
    intro id hid
    cases hfind : m.document? desk.remote.store id with
    | none => exact ⟨none, hids id hid, by rw [hfind]; rfl⟩
    | some doc =>
      obtain ⟨opening, hopening⟩ := hvalid id hid doc hfind
      exact ⟨some opening, hids id hid, by rw [hfind, opened, hopening]; rfl⟩
  obtain ⟨docs, hdocs⟩ := exists_forall₂ hgives
  obtain ⟨q, -, hmany⟩ := runs_getMany h hids
  rw [mapM_opening_of_opened (map_opened hdocs)] at hmany
  have hthrow := runs_getManyOrThrow hmany
  have hcount := length_present hdocs
  rw [hcount] at hthrow
  refine ⟨docs, hdocs.imp fun _ _ hdoc => ⟨hdoc.stored, hdoc.runs_get h⟩,
    runs_mapM_get hdocs h rfl rfl, ⟨q, hmany⟩, ⟨?_, ?_⟩, ?_⟩
  case refine_1 =>
    rintro ⟨q', hall⟩
    obtain ⟨hout, -⟩ := hthrow.unique hall
    split at hout
    · rename_i heq
      exact List.countP_eq_length.1 heq
    · cases hout
  case refine_2 =>
    intro hall
    rw [if_pos (List.countP_eq_length.2 hall)] at hthrow
    exact ⟨q, hthrow⟩
  case refine_3 =>
    rintro ⟨id, hid, hnone⟩
    rw [if_neg fun heq => ?_] at hthrow
    · exact ⟨q, hthrow⟩
    · have hsome := List.countP_eq_length.1 heq id hid
      rw [hnone] at hsome
      cases hsome

/-- Ids of documents of `sampleStore`, one of which stands twice, and an id without a document. -/
def sampleIds : List Value :=
  [.text "7", .text "8", .ref (documentRef "staff" "7"), .text "7"]

theorem get_many_collects_gets_sample : ∃ docs : List (Option Document),
    docs.map Option.isSome = [true, false, true, true] ∧
    (∃ q, sampleDesk.Runs (sampleModel.getMany Memory.executor (.list sampleIds))
      (.ok (docs.filterMap id)) [.query q] sampleStore) ∧
    ∃ q, sampleDesk.Runs (sampleModel.getManyOrThrow Memory.executor (.list sampleIds))
      (.error (.countMismatch "get_many_or_throw" (.int 4) (.int 3) (.text "users"))) [.query q]
      sampleStore := by
  have hall : ∀ id ∈ sampleIds, (sampleModel.document? sampleStore id).all (fun doc =>
      (sampleModel.opening 0 doc).toOption.isSome) = true := by
    decide +kernel
  obtain ⟨docs, hdocs, -, hmany, -, hmissing⟩ :=
    get_many_collects_gets sampleModel sampleDesk sampleDesk_ready sampleIds (by decide) (by
      intro id hid doc hdoc
      have hopens := hall id hid
      rw [show sampleModel.document? sampleStore id = some doc from hdoc] at hopens
      obtain ⟨opening, hopening⟩ := Option.isSome_iff_exists.1 hopens
      exact ⟨opening, Except.toOption_eq_some.1 hopening⟩)
  refine ⟨docs, ?_, hmany, hmissing ⟨.text "8", by simp [sampleIds], rfl⟩⟩
  have hsome : docs.map Option.isSome =
      sampleIds.map fun id => (sampleModel.document? sampleStore id).isSome := by
    refine (List.forall₂_eq_eq_eq ▸ ?_ : _ = docs.map Option.isSome).symm
    rw [List.forall₂_map_left_iff, List.forall₂_map_right_iff]
    refine hdocs.imp fun id doc hdoc => ?_
    rw [← Option.isSome_map (f := Document.stored), hdoc.1]
    rfl
  rw [hsome]
  rfl

end DocMapper.Model
