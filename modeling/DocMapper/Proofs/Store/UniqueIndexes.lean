import DocMapper.Proofs.Data.Outcome
import DocMapper.Proofs.Store.Changes
import DocMapper.Proofs.Value.WellKeyed
/-!
# Unique indexes

An index that is unique keeps the documents of its source apart: no two of them agree on all term
fields (`Store.Separates`). A write is checked against all other documents of the collection before
it takes place, so every change of a store keeps this, as long as the terms are fields of the data
(`Store.Change.Did.separating`): only then is what is checked what the document has afterwards.
-/

namespace DocMapper

/-- The path leads into the data of a document. -/
def Value.IsDataPath (path : Value) : Prop := ∃ rest, path.items = .ok (.text "data" :: rest)

namespace Value

/-- Whether the path leads into the data of a document. -/
def leadsToData (path : Value) : Bool :=
  match path.items with
  | .ok (.text key :: _) => key == "data"
  | _ => false

theorem isDataPath_of_leadsToData {path : Value} (h : path.leadsToData = true) :
    path.IsDataPath := by
  rw [leadsToData] at h
  split at h
  · rename_i key rest hitems
    rw [beq_iff_eq] at h
    exact ⟨rest, by rw [hitems, h]⟩
  · cases h

/-- What is read along a path into the data depends on the data alone. -/
theorem atPath_of_isDataPath {path data : Value} {entries : Dict Value} (hp : path.IsDataPath)
    (hdata : entries.get? "data" = some data) : ∃ rest,
      (Value.dict entries).atPath path = data.fieldAt rest ∧
      (Value.dict [(.text "data", data)]).atPath path = data.fieldAt rest := by
  obtain ⟨rest, hrest⟩ := hp
  have hfield : ∀ {entries : Dict Value}, entries.get? "data" = some data →
      (Value.dict entries).fieldAt (.text "data" :: rest) = data.fieldAt rest := by
    intro entries hdata
    have hfind : find entries (.text "data") = .ok (some data) :=
      congrArg Except.ok hdata
    rw [Value.fieldAt, hfind]
    rfl
  have hself : Dict.get? [(Key.text "data", data)] "data" = some data := by simp [Dict.get?]
  refine ⟨rest, ?_, ?_⟩
  · rw [atPath, hrest]
    exact hfield hdata
  · rw [atPath, hrest]
    exact hfield hself

end Value

namespace StoredDocument

@[simp] theorem get?_members_data (doc : StoredDocument) :
    Dict.get? doc.members "data" = some doc.data := by
  simp [members, Dict.get?]

/-- The fields along paths into the data are those of the data. -/
theorem fields_eq {doc : StoredDocument} {paths : List Value} (hp : ∀ p ∈ paths, p.IsDataPath) :
    doc.fields paths = paths.mapM (Value.dict [(.text "data", doc.data)]).atPath := by
  induction paths with
  | nil => rfl
  | cons p rest ih =>
    obtain ⟨hpath, hrest⟩ := List.forall_mem_cons.1 hp
    obtain ⟨keys, hdoc, hdata⟩ := Value.atPath_of_isDataPath hpath doc.get?_members_data
    rw [fields, List.mapM_cons, List.mapM_cons, ← fields, ih hrest, field, hdoc, hdata]

/-- The fields of a document along paths into its data are data. -/
theorem isData_of_fields {doc : StoredDocument} (hd : doc.data.IsData) {paths : List Value}
    (hp : ∀ p ∈ paths, p.IsDataPath) {fields : List Value} (h : doc.fields paths = .ok fields) :
    ∀ v ∈ fields, v.IsData := by
  induction paths generalizing fields with
  | nil =>
    cases h
    simp
  | cons p rest ih =>
    obtain ⟨hpath, hrest⟩ := List.forall_mem_cons.1 hp
    obtain ⟨keys, hdoc, -⟩ := Value.atPath_of_isDataPath hpath doc.get?_members_data
    rw [StoredDocument.fields, List.mapM_cons, Except.bind_eq_ok] at h
    obtain ⟨v, hv, h⟩ := h
    obtain ⟨vs, hvs, h⟩ := Except.bind_eq_ok.1 h
    cases h
    rw [field, hdoc] at hv
    exact List.forall_mem_cons.2 ⟨hd.fieldAt hv, ih hrest hvs⟩

/-- Two documents have the same values along some paths. -/
def Agree (paths : List Value) (d d' : StoredDocument) : Prop :=
  ∃ fields fields', d.fields paths = .ok fields ∧ d'.fields paths = .ok fields' ∧
    Value.sameList fields fields' = true

/-- Whether two documents have the same values along some paths. -/
def agrees (paths : List Value) (d d' : StoredDocument) : Bool :=
  (d.fields paths).toOption.any fun fields =>
    (d'.fields paths).toOption.any fun fields' => Value.sameList fields fields'

theorem agrees_iff {paths : List Value} {d d' : StoredDocument} :
    agrees paths d d' = true ↔ Agree paths d d' := by
  rw [agrees, Agree]
  cases d.fields paths <;> cases d'.fields paths <;> simp [Except.toOption]

/-- Documents of data agree with each other or not at all. -/
theorem Agree.symm {paths : List Value} (hp : ∀ p ∈ paths, p.IsDataPath) {d d' : StoredDocument}
    (hd : d.data.IsData) (hd' : d'.data.IsData) (h : Agree paths d d') : Agree paths d' d := by
  obtain ⟨fields, fields', hf, hf', hsame⟩ := h
  exact ⟨fields', fields, hf', hf,
    Value.sameList_symm (isData_of_fields hd hp hf) (isData_of_fields hd' hp hf') hsame⟩

end StoredDocument

namespace Store

/-! ## What a check finds out -/

/-- **A look for documents that agree** looks at all and keeps those that do, in their order. -/
theorem agreeing_eq_ok {paths wanted : List Value} {docs found : Dict StoredDocument} :
    agreeing paths wanted docs = .ok found ↔
      (∀ e ∈ docs, ∃ fields, e.2.fields paths = .ok fields) ∧
      found = docs.filter fun e =>
        ((e.2.fields paths).toOption.any fun fields => Value.sameList fields wanted) := by
  induction docs generalizing found with
  | nil => simp [agreeing, eq_comm]
  | cons e rest ih =>
    obtain ⟨id, doc⟩ := e
    rw [agreeing, Except.bind_eq_ok]
    constructor
    · rintro ⟨fields, hfields, h⟩
      obtain ⟨others, hothers, h⟩ := Except.bind_eq_ok.1 h
      obtain ⟨hall, rfl⟩ := ih.1 hothers
      refine ⟨List.forall_mem_cons.2 ⟨⟨fields, hfields⟩, hall⟩, ?_⟩
      rw [← Except.ok.inj h]
      simp [List.filter_cons, hfields, Except.toOption]
    · rintro ⟨hall, rfl⟩
      obtain ⟨⟨fields, hfields⟩, hrest⟩ := List.forall_mem_cons.1 hall
      refine ⟨fields, hfields, ?_⟩
      rw [ih.2 ⟨hrest, rfl⟩]
      simp [List.filter_cons, hfields, Except.toOption, bind, Except.bind, pure, Except.pure]

/-- The index is unique over a collection, and its terms are fields of the data. -/
structure IsUnique (params : IndexParams) (c : String) (paths : List Value) : Prop where
  unique : ∃ v, params.required "unique" = .ok v ∧ v.truthy = true
  source : params.source = .ok c
  termPaths : params.termPaths = .ok paths
  dataPaths : ∀ p ∈ paths, p.IsDataPath

/-- **What passes the check of a unique index agrees with no other document** of the source. -/
theorem not_agree_of_checkIndex {s : Store} {params : IndexParams} {c : String}
    {paths : List Value} (hu : IsUnique params c paths) {data : Value} {own : Option String}
    (h : s.checkIndex c data own params = .ok ()) {new : StoredDocument} (hnew : new.data = data)
    {i : String} {d : StoredDocument} (hfind : s.find c i = some d) (hi : own ≠ some i) :
    ¬ StoredDocument.Agree paths d new := by
  obtain ⟨v, hv, htruthy⟩ := hu.unique
  simp only [checkIndex, hv, hu.source, hu.termPaths, htruthy, Bool.not_true, Bool.false_eq_true,
    if_false, ne_eq, not_true_eq_false, Except.bind_eq_ok, Except.ok.injEq, exists_eq_left'] at h
  obtain ⟨candidate, hcandidate, found, hfound, h⟩ := h
  obtain ⟨-, hfilter⟩ := agreeing_eq_ok.1 hfound
  have hempty : found = [] := by
    cases found with
    | nil => rfl
    | cons e rest => cases h
  rintro ⟨fields, fields', hd, hd', hsame⟩
  have hnewFields : new.fields paths = .ok candidate := by
    rw [StoredDocument.fields_eq hu.dataPaths, hnew, hcandidate]
  cases hnewFields.symm.trans hd'
  -- the document is among the others, so it would have been found
  obtain ⟨k, hmem, hk⟩ := Dict.exists_mem_of_get? hfind
  have hother : (k, d) ∈ (s.documents c).filter fun e => !(own.map Key.text).any e.1.same := by
    refine List.mem_filter.2 ⟨hmem, ?_⟩
    cases own with
    | none => rfl
    | some j =>
      have hne : k.same (.text j) = false := by
        rw [Key.same_congr hk, Key.same_text]
        exact decide_eq_false fun hij => hi (by rw [hij])
      simp [hne]
  have hagrees : (k, d) ∈ found := by
    rw [hfilter]
    exact List.mem_filter.2 ⟨hother, by simp [hd, Except.toOption, hsame]⟩
  rw [hempty] at hagrees
  cases hagrees

/-- A check of all indexes is one of each. -/
theorem checkIndex_of_checkUnique {s : Store} {c : String} {data : Value} {own : Option String}
    (h : s.checkUnique c data own = .ok ()) {e : Key × IndexParams} (he : e ∈ s.indexes) :
    s.checkIndex c data own e.2 = .ok () := by
  have key : ∀ {all : List IndexParams}, all.forM (s.checkIndex c data own) = .ok () →
      ∀ params ∈ all, s.checkIndex c data own params = .ok () := by
    intro all
    induction all with
    | nil => simp
    | cons params rest ih =>
      intro h
      obtain ⟨⟨⟩, hparams, hrest⟩ := Except.bind_eq_ok.1 h
      exact List.forall_mem_cons.2 ⟨hparams, ih hrest⟩
  exact key h e.2 (List.mem_map_of_mem he)

/-! ## Unique indexes -/

/-- No two documents of the source of a unique index agree on all term fields. -/
def Separates (s : Store) (params : IndexParams) : Prop :=
  ∀ c paths, IsUnique params c paths → ∀ i j d d', s.find c i = some d → s.find c j = some d' →
    i ≠ j → ¬ StoredDocument.Agree paths d d'

/-- Whether an index is unique over a collection of which two documents agree. -/
def clashes (s : Store) (name c i j : String) : Bool :=
  (s.indexes.get? name).any fun (params : IndexParams) =>
    (params.required "unique").toOption.any Value.truthy && params.source.toOption == some c &&
      params.termPaths.toOption.any fun paths => paths.all Value.leadsToData &&
        (s.find c i).any fun d => (s.find c j).any (StoredDocument.agrees paths d)

/-- **Where two documents clash** over an index, it does not separate them. -/
theorem exists_not_separates_of_clashes {s : Store} {name c i j : String}
    (h : s.clashes name c i j = true) (hij : i ≠ j) : ∃ e ∈ s.indexes, ¬ s.Separates e.2 := by
  simp only [clashes, Option.any_eq_true, Bool.and_eq_true, beq_iff_eq,
    Except.toOption_eq_some, List.all_eq_true] at h
  obtain ⟨params, hparams, ⟨⟨v, hv, htruthy⟩, hsource⟩, paths, hpaths, hdata, d, hd, d', hd',
    hagrees⟩ := h
  obtain ⟨k, hmem, -⟩ := Dict.exists_mem_of_get? hparams
  have hunique : IsUnique params c paths :=
    ⟨⟨v, hv, htruthy⟩, hsource, hpaths, fun p hp => Value.isDataPath_of_leadsToData (hdata p hp)⟩
  exact ⟨(k, params), hmem, fun hseparates =>
    hseparates c paths hunique i j d d' hd hd' hij (StoredDocument.agrees_iff.1 hagrees)⟩

/-- Every unique index of the store separates the documents, which are data. -/
structure Separating (s : Store) : Prop where
  distinct : s.Distinct
  isData : ∀ c i doc, s.find c i = some doc → doc.data.IsData
  separates : ∀ e ∈ s.indexes, s.Separates e.2

/-- A store without documents is separating. -/
theorem separating_of_empty {s : Store} (hs : s.Distinct) (h : ∀ c i, s.find c i = none) :
    s.Separating where
  distinct := hs
  isData c i doc hfind := by
    rw [h] at hfind
    cases hfind
  separates e _ c paths _ i j d d' hd _ _ := by
    rw [h] at hd
    cases hd

/-- **A document that was checked comes to a place**, and everything stays apart. -/
theorem Separating.of_checked {s t : Store} (hs : s.Separating) (ht : t.Distinct)
    (hindexes : t.indexes = s.indexes) {c i : String} {new : StoredDocument}
    (hnew : t.find c i = some new) (hdata : new.data.IsData)
    (helse : ∀ c' i', (c', i') ≠ (c, i) → t.find c' i' = s.find c' i') {own : Option String}
    (hown : ∀ j, j ≠ i → own ≠ some j) (hcheck : s.checkUnique c new.data own = .ok ()) :
    t.Separating where
  distinct := ht
  isData c' i' doc hfind := by
    by_cases heq : (c', i') = (c, i)
    · obtain ⟨rfl, rfl⟩ := Prod.mk.inj heq
      rw [hnew] at hfind
      cases hfind
      exact hdata
    · rw [helse c' i' heq] at hfind
      exact hs.isData c' i' doc hfind
  separates e he c' paths hu i' j' d d' hd hd' hne := by
    rw [hindexes] at he
    have hold : ∀ {k : String} {doc : StoredDocument}, (c', k) ≠ (c, i) →
        t.find c' k = some doc → s.find c' k = some doc := by
      intro k doc hk hdoc
      rwa [helse c' k hk] at hdoc
    by_cases hi : (c', i') = (c, i)
    · obtain ⟨rfl, rfl⟩ := Prod.mk.inj hi
      have hj : (c', j') ≠ (c', i') := fun heq => hne (Prod.mk.inj heq).2.symm
      have hd's := hold hj hd'
      rw [hnew] at hd
      cases hd
      intro hagree
      exact not_agree_of_checkIndex hu (checkIndex_of_checkUnique hcheck he) rfl hd's
        (hown j' (Ne.symm hne)) (hagree.symm hu.dataPaths hdata (hs.isData _ _ _ hd's))
    · have hds := hold hi hd
      by_cases hj : (c', j') = (c, i)
      · obtain ⟨rfl, rfl⟩ := Prod.mk.inj hj
        rw [hnew] at hd'
        cases hd'
        exact not_agree_of_checkIndex hu (checkIndex_of_checkUnique hcheck he) rfl hds
          (hown i' hne)
      · exact hs.separates e he c' paths hu i' j' d d' hds (hold hj hd') hne

/-- The data that a change brings is data. -/
def Change.IsData : Change → Prop
  | .write _ _ _ data => data.IsData
  | .take .. => True
  | .create _ data _ => data.IsData

/-- **Every change keeps the documents of unique indexes apart.** -/
theorem Change.Did.separating {change : Change} {s t : Store} (h : change.Did s t)
    (hchange : change.IsData) (hs : s.Separating) : t.Separating := by
  have ht := h.distinct hs.distinct
  cases h with
  | nothing => exact hs
  | @wrote _ w c i data doc hfind hunique =>
    have hresult : (w.result doc.data data).IsData := by
      cases w with
      | update => exact (hs.isData c i doc hfind).patch hchange
      | replace => exact hchange
    refine hs.of_checked ht rfl (find_putRewritten ..) hresult (fun c' i' hne => ?_) ?_ hunique
    · exact (sameElsewhere_putRewritten ..).find_eq hne
    · intro j hj heq
      exact hj (Option.some.inj heq).symm
  | @took _ c i =>
    have hold : ∀ {c' i' doc}, (s.erase c i).find c' i' = some doc → s.find c' i' = some doc := by
      intro c' i' doc hfind
      by_cases heq : (c', i') = (c, i)
      · obtain ⟨rfl, rfl⟩ := Prod.mk.inj heq
        rw [hs.distinct.find_erase_self] at hfind
        cases hfind
      · rwa [find_erase_of_ne _ (Ne.symm heq)] at hfind
    exact ⟨ht, fun c' i' doc hfind => hs.isData c' i' doc (hold hfind),
      fun e he c' paths hu i' j' d d' hd hd' hne =>
        hs.separates e he c' paths hu i' j' d d' (hold hd) (hold hd') hne⟩
  | @created _ c data ttl hhas hunique =>
    refine hs.of_checked ht rfl (find_insert_self ..) hchange
      (fun c' i' hne => find_insert_of_ne s data ttl hne) ?_ hunique
    intro j _ heq
    cases heq

end Store

end DocMapper
