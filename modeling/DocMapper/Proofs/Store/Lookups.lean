import DocMapper.Index.Catalog
import DocMapper.Proofs.Store.Filed
import DocMapper.Proofs.Store.UniqueIndexes
import DocMapper.Proofs.Value.Ordering
import DocMapper.Proofs.Value.Sorting
import Mathlib.Data.List.Perm.Basic
/-!
# What an index has for some terms

An index is laid out by the paths of its terms and of the values that it shows
(`IndexLayout`). For some terms it has one entry for each document of its source that has those
terms, and no others (`Store.Listed`): in the order of the collection, or, if it shows values, in
their order (`StoredDocument.Precedes`), documents that are level going by their ids.

The store sorts the rows of values by one position after another, from the last to the first. Each
pass keeps the order of the pass before among rows that are level, so the last pass counts the most
and the result is in lexicographic order (`Store.sortRows_spec`). What an index has for some terms
is put together from this in `Store.entriesOf_spec`.
-/

namespace DocMapper

open IndexCatalog (keysValue valueField)
open Sorting (Goes turned)

/-! ## Fields -/

namespace Value

/-- What keys lead to through dictionaries: null where they lead nowhere. -/
def along : Value → List String → Value
  | v, [] => v
  | .dict entries, key :: rest =>
    ((Dict.get? entries (.text key)).map fun v => v.along rest).getD .null
  | _, _ :: _ => .null

/-- A path of texts can be followed through any value. -/
theorem fieldAt_texts (v : Value) (keys : List String) :
    v.fieldAt (keys.map text) = .ok (v.along keys) := by
  induction keys generalizing v with
  | nil => cases v <;> rfl
  | cons key rest ih =>
    cases v with
    | dict entries =>
      have hfind : find entries (text key) = .ok (Dict.get? entries (.text key)) := rfl
      rw [List.map_cons, fieldAt, hfind, along]
      cases Dict.get? entries (.text key) with
      | none => rfl
      | some v => exact ih v
    | _ => rfl

theorem atPath_keysValue (v : Value) (keys : List String) :
    v.atPath (keysValue keys) = .ok (v.along keys) :=
  v.fieldAt_texts keys

/-- A reference goes before another by its id. -/
theorem before_ref {r r' : Ref} : (ref r).before (.ref r') = true ↔ r.id < r'.id := by
  rw [before_iff (by simp) (by simp)]
  simp only [sortKey, compare?, Option.some.injEq, Comparison.ofOrdering_eq_less]
  exact Batteries.compareOfLessAndEq_eq_lt

/-- References can be put in order. -/
theorem ordered_ref (r r' : Ref) : (ref r).Ordered (.ref r') := by
  refine Or.inr (Or.inr (Or.inr ⟨.ofOrdering (compare r.id r'.id), rfl, ?_⟩))
  cases compare r.id r'.id <;> simp [Comparison.ofOrdering]

end Value

namespace StoredDocument

/-- What a document has at a path: null where there is nothing. -/
def valueAt (doc : StoredDocument) (keys : List String) : Value :=
  (Value.dict doc.members).along keys

/-- Whether a document has some terms at some paths. -/
def hasTerms (paths : List (List String)) (terms : List Value) (doc : StoredDocument) : Bool :=
  Value.sameList (paths.map doc.valueAt) terms

@[simp] theorem field_keysValue (doc : StoredDocument) (keys : List String) :
    doc.field (keysValue keys) = .ok (doc.valueAt keys) :=
  Value.atPath_keysValue _ keys

theorem fields_keysValue (doc : StoredDocument) (paths : List (List String)) :
    doc.fields (paths.map keysValue) = .ok (paths.map doc.valueAt) := by
  rw [fields, List.mapM_map]
  exact Except.mapM_eq_map fun keys _ => doc.field_keysValue keys

@[simp] theorem valueAt_ref (doc : StoredDocument) : doc.valueAt ["ref"] = .ref doc.ref := by
  simp [valueAt, members, Value.along, Dict.get?]

/-! ## The order of documents -/

/-- One document goes before another by some fields, each from the smallest to the largest or the
other way: the first field that tells them apart decides, and the id if none does. -/
def Precedes : List (List String × Bool) → StoredDocument → StoredDocument → Prop
  | [] => fun a b => a.ref.id < b.ref.id
  | (keys, reverse) :: rest =>
    Goes (turned reverse fun a b => (a.valueAt keys).before (b.valueAt keys)) (Precedes rest)

/-- A document that has no value goes behind all that have one, or in front of them where the order is
turned around. -/
theorem precedes_of_null {a b : StoredDocument} {keys : List String}
    {rest : List (List String × Bool)} (ha : a.valueAt keys = .null) (hb : b.valueAt keys ≠ .null) :
    Precedes ((keys, false) :: rest) b a ∧ Precedes ((keys, true) :: rest) a b := by
  have hbefore : (b.valueAt keys).before (a.valueAt keys) = true := by
    rw [ha]
    exact Value.before_null_right hb
  exact ⟨Or.inl hbefore, Or.inl hbefore⟩

end StoredDocument

/-! ## Layouts -/

/-- What an index is over, the paths of its terms, and those of the values that it shows, each with
whether it sorts from the largest to the smallest. -/
structure IndexLayout where
  source : String
  terms : List (List String)
  values : List (List String × Bool)

namespace IndexLayout

/-- The field that follows the values of an index. -/
def refField : List String × Bool := (["ref"], false)

/-- The fields of the entries of an index that shows values: these, and then the reference. -/
def fields (l : IndexLayout) : List (List String × Bool) := l.values ++ [refField]

/-- What a document has at some fields. -/
def row (fields : List (List String × Bool)) (doc : StoredDocument) : List Value :=
  fields.map fun f => doc.valueAt f.1

/-- The last thing in a row is the reference. -/
theorem subscript_row (l : IndexLayout) (doc : StoredDocument) :
    (Value.list (row l.fields doc)).subscript (.int l.values.length) = .ok (.ref doc.ref) := by
  have hposition : position? (row l.fields doc).length l.values.length = some l.values.length := by
    have hlength : ¬ (l.values.length : Int) < 0 := by omega
    simp only [position?, hlength, if_false, row, fields, List.length_map, List.length_append,
      List.length_singleton]
    rw [if_pos (by omega), Int.toNat_natCast]
  have hlast : (row l.fields doc)[l.values.length]? = some (.ref doc.ref) := by
    simp [row, fields, refField]
  rw [Value.subscript, Value.element]
  simp only [Value.asPosition, bind, Except.bind, hposition, Option.bind_some, hlast]
  rfl

/-- The entry of a document. -/
def entry (l : IndexLayout) (doc : StoredDocument) : Value :=
  if l.values.isEmpty then .ref doc.ref else .list (row l.fields doc)

theorem entry_of_nil {l : IndexLayout} (h : l.values = []) :
    l.entry = fun doc => .ref doc.ref := by
  simp [funext_iff, entry, h]

theorem entry_of_ne_nil {l : IndexLayout} (h : l.values ≠ []) :
    l.entry = fun doc => .list (row l.fields doc) := by
  simp [funext_iff, entry, h]

/-- An index can put some documents in order: what they have at its values is null, or of one
kind. -/
structure CanSort (l : IndexLayout) (docs : List StoredDocument) : Prop where
  data : ∀ f ∈ l.values, ∀ a ∈ docs, (a.valueAt f.1).IsData
  ordered : ∀ f ∈ l.values, ∀ a ∈ docs, ∀ b ∈ docs, (a.valueAt f.1).Ordered (b.valueAt f.1)

/-- Documents can be put in order if they have plain values without parts at the values of an index
and each two of these can be. -/
theorem canSort_of_leaves {l : IndexLayout} {docs : List StoredDocument}
    (h : (l.values.all fun f => docs.all fun a =>
      (a.valueAt f.1).isPlain && (a.valueAt f.1).isLeaf &&
        docs.all fun b => decide ((a.valueAt f.1).Ordered (b.valueAt f.1))) = true) :
    l.CanSort docs := by
  simp only [List.all_eq_true, Bool.and_eq_true, decide_eq_true_eq] at h
  exact ⟨fun f hf a ha => Value.isData_of_isLeaf (h f hf a ha).1.1 (h f hf a ha).1.2,
    fun f hf a ha => (h f hf a ha).2⟩

end IndexLayout

/-- The parameters of an index say how it is laid out. -/
structure IndexParams.LaysOut (params : IndexParams) (l : IndexLayout) : Prop where
  source : params.source = .ok l.source
  terms : params.termPaths = .ok (l.terms.map keysValue)
  values : params.values =
    .ok (if l.values.isEmpty then [] else l.fields.map fun f => valueField f.1 f.2)

@[simp] theorem IndexParams.path_valueField (keys : List String) (reverse : Bool) :
    path (valueField keys reverse) = .ok (keysValue keys) := rfl

@[simp] theorem IndexParams.reversed_valueField (keys : List String) (reverse : Bool) :
    reversed (valueField keys reverse) = .ok reverse := rfl

/-! ## Sorting rows -/

/-- A row goes before another by what they have at the positions from `first` on, each turned around
or not. -/
def RowPrecedes (first : Nat) : List Bool → List Value → List Value → Prop
  | [] => fun _ _ => True
  | reverse :: rest =>
    Goes (turned reverse fun a b => (rowAt first a).before (rowAt first b))
      (RowPrecedes (first + 1) rest)

/-- Rows with values at each position that can be put in order. -/
structure RowsSort (rows : List (List Value)) : Prop where
  data : ∀ a ∈ rows, ∀ i, (rowAt i a).IsData
  ordered : ∀ a ∈ rows, ∀ b ∈ rows, ∀ i, (rowAt i a).Ordered (rowAt i b)

/-- Which of two rows comes first at a position is answered by the order of the values there. -/
theorem RowsSort.answers {rows : List (List Value)} (h : RowsSort rows) (position : Nat) :
    Sorting.Answers (fun a b => (rowAt position a).comesBefore (rowAt position b))
      (fun a b => (rowAt position a).before (rowAt position b)) rows where
  answer a ha b hb :=
    Value.comesBefore_eq (h.data a ha _) (h.data b hb _) (h.ordered a ha b hb _)
  asymm a ha b hb := Value.before_asymm (h.data a ha _) (h.data b hb _)
  trans a ha b hb c hc :=
    Value.before_trans (h.data a ha _) (h.data b hb _) (h.data c hc _) (h.ordered a ha b hb _)
      (h.ordered b hb c hc _) (h.ordered a ha c hc _)

/-- **Sorting by one position after another**, the first one last, sorts by all of them. -/
theorem sortRows_spec {rows : List (List Value)} (h : RowsSort rows)
    (fields : List (List String × Bool)) (first : Nat) :
    ∃ sorted, sortRows first (fields.map fun f => valueField f.1 f.2) rows = .ok sorted ∧
      sorted.Perm rows ∧ sorted.Pairwise (RowPrecedes first (fields.map Prod.snd)) := by
  induction fields generalizing first with
  | nil => exact ⟨rows, rfl, .refl rows, List.pairwise_of_forall fun _ _ => trivial⟩
  | cons f rest ih =>
    obtain ⟨later, hlater, hlaterPerm, hpairwise⟩ := ih (first + 1)
    have hanswers := (h.answers first).mono fun a ha => hlaterPerm.mem_iff.1 ha
    obtain ⟨sorted, hsorted, hperm, hgoes⟩ := Sorting.sort_spec hanswers hpairwise f.2
    refine ⟨sorted, ?_, hperm.trans hlaterPerm, hgoes⟩
    rw [List.map_cons, sortRows, hlater]
    exact hsorted

namespace IndexLayout

/-- What a row has at the position of a field. -/
theorem rowAt_row (done rest : List (List String × Bool)) (f : List String × Bool)
    (doc : StoredDocument) :
    rowAt done.length (row (done ++ f :: rest) doc) = doc.valueAt f.1 := by
  simp [rowAt, row]

/-- **The order of rows is that of their documents.** The reference at the end of a row tells those
apart that are level otherwise. -/
theorem precedes_of_rowPrecedes {a b : StoredDocument} (hid : a.ref.id ≠ b.ref.id)
    (rest done : List (List String × Bool))
    (h : RowPrecedes done.length ((rest ++ [refField]).map Prod.snd)
      (row (done ++ (rest ++ [refField])) a) (row (done ++ (rest ++ [refField])) b)) :
    StoredDocument.Precedes rest a b := by
  induction rest generalizing done with
  | nil =>
    simp only [List.nil_append, List.map_cons, RowPrecedes, Goes, turned, rowAt_row, refField,
      Bool.false_eq_true, if_false, StoredDocument.valueAt_ref] at h
    rcases h with hlt | ⟨hnot, -⟩
    · exact Value.before_ref.1 hlt
    · rw [← Bool.not_eq_true, Value.before_ref] at hnot
      exact Std.lt_of_le_of_ne (String.not_lt.1 hnot) hid
  | cons f rest ih =>
    have hnext := ih (done ++ [f])
    simp only [List.length_append, List.length_singleton, List.append_assoc,
      List.singleton_append] at hnext
    simp only [List.cons_append, List.map_cons, RowPrecedes, Goes, turned, rowAt_row] at h
    exact h.imp_right fun ⟨hlevel, hrest⟩ => ⟨hlevel, hnext hrest⟩

/-- What can be sorted by values can be sorted by all fields of the entries. -/
theorem CanSort.fields {l : IndexLayout} {docs : List StoredDocument} (h : l.CanSort docs)
    {f : List String × Bool} (hf : f ∈ l.fields) :
    (∀ a ∈ docs, (a.valueAt f.1).IsData) ∧
      ∀ a ∈ docs, ∀ b ∈ docs, (a.valueAt f.1).Ordered (b.valueAt f.1) := by
  rcases List.mem_append.1 hf with hf | hf
  · exact ⟨h.data f hf, h.ordered f hf⟩
  · rw [List.mem_singleton.1 hf]
    simp only [refField, StoredDocument.valueAt_ref]
    exact ⟨fun _ _ => ⟨rfl, trivial⟩, fun a _ b _ => Value.ordered_ref a.ref b.ref⟩

theorem CanSort.rowsSort {l : IndexLayout} {docs : List StoredDocument} (h : l.CanSort docs) :
    RowsSort (docs.map (row l.fields)) := by
  have hat : ∀ i doc, rowAt i (row l.fields doc) =
      (l.fields[i]?.map fun f => doc.valueAt f.1).getD .null := fun i doc => by
    rw [rowAt, row, List.getElem?_map]
  constructor
  · intro a ha i
    obtain ⟨doc, hdoc, rfl⟩ := List.mem_map.1 ha
    rw [hat]
    cases hf : l.fields[i]? with
    | none => exact ⟨rfl, trivial⟩
    | some f => exact (h.fields (List.mem_of_getElem? hf)).1 doc hdoc
  · intro a ha b hb i
    obtain ⟨doc, hdoc, rfl⟩ := List.mem_map.1 ha
    obtain ⟨other, hother, rfl⟩ := List.mem_map.1 hb
    rw [hat, hat]
    cases hf : l.fields[i]? with
    | none => exact Or.inl rfl
    | some f => exact (h.fields (List.mem_of_getElem? hf)).2 doc hdoc other hother

end IndexLayout

/-! ## Looking up -/

namespace Store

variable {s : Store} {l : IndexLayout} {terms : List Value}

/-- The documents of the source of an index that have some terms, in the order of the collection. -/
def having (s : Store) (l : IndexLayout) (terms : List Value) : List StoredDocument :=
  (s.documents l.source).values.filter (·.hasTerms l.terms terms)

/-- What an index lists for some terms: every document of its source that has them, once, and no
other. An index that shows values lists them in the order of these, any other in the order of the
collection. -/
structure Listed (s : Store) (l : IndexLayout) (terms : List Value) (docs : List StoredDocument) :
    Prop where
  perm : docs.Perm (s.having l terms)
  once : docs.Pairwise fun a b => a.ref.id ≠ b.ref.id
  unsorted : l.values = [] → docs = s.having l terms
  sorted : l.values ≠ [] → docs.Pairwise (StoredDocument.Precedes l.values)

/-- The documents of a collection have different ids. -/
theorem Filed.pairwise_id_ne (hs : s.Filed) (c : String) :
    (s.documents c).values.Pairwise fun a b => a.ref.id ≠ b.ref.id := by
  refine List.pairwise_map.2 ((hs.distinct.documents_of c).imp_of_mem fun {e e'} he he' h hid => ?_)
  rw [(hs.exists_key he).1, (hs.exists_key he').1, hid] at h
  simp at h

theorem agreeing_keysValue (paths : List (List String)) (wanted : List Value)
    (docs : Dict StoredDocument) :
    agreeing (paths.map keysValue) wanted docs =
      .ok (docs.filter fun e => e.2.hasTerms paths wanted) := by
  rw [agreeing_eq_ok]
  refine ⟨fun e _ => ⟨_, e.2.fields_keysValue paths⟩, List.filter_congr fun e _ => ?_⟩
  rw [e.2.fields_keysValue paths]
  rfl

/-- How terms are asked for: one stands for itself, more stand in a list. -/
def termsArgument : List Value → Value
  | [] => .null
  | [term] => term
  | terms => .list terms

/-- The terms that are asked for are the terms that are wanted. -/
theorem wantedTerms_termsArgument {paths : List Value} (h : terms ≠ [])
    (hlen : paths.length = terms.length) : wantedTerms paths (termsArgument terms) = .ok terms := by
  match paths, terms, hlen with
  | _, [], _ => exact absurd rfl h
  | [_], [_], _ => rfl
  | _ :: _ :: _, _ :: _ :: _, _ => rfl

/-- The terms that an index looks for when it is asked for some. -/
def sought (l : IndexLayout) (terms : List Value) : Except Fault (List Value) :=
  wantedTerms (l.terms.map keysValue) (termsArgument terms)

/-- As many terms as an index has are those that it looks for. -/
theorem sought_eq {l : IndexLayout} (h : terms ≠ []) (hlen : terms.length = l.terms.length) :
    sought l terms = .ok terms :=
  wantedTerms_termsArgument h (by simp [hlen])

/-- What has the elements of an image is the image of the same elements in some order. -/
theorem exists_perm_of_perm_map {α β : Type} {f : α → β} {ys : List β} {xs : List α}
    (h : ys.Perm (xs.map f)) : ∃ zs : List α, zs.Perm xs ∧ ys = zs.map f := by
  have hmap : List.Forall₂ (fun y x => y = f x) (xs.map f) xs := by
    rw [List.forall₂_map_left_iff]
    exact List.forall₂_same.2 fun _ _ => rfl
  obtain ⟨zs, hzs, hperm⟩ := List.perm_comp_forall₂ h hmap
  refine ⟨zs, hperm, ?_⟩
  rwa [← List.forall₂_eq_eq_eq, List.forall₂_map_right_iff]

/-- The documents that have the terms are what a look-up finds. -/
theorem agreeing_having (s : Store) (l : IndexLayout) (terms : List Value) :
    ∃ found, agreeing (l.terms.map keysValue) terms (s.documents l.source) = .ok found ∧
      found.values = s.having l terms := by
  refine ⟨_, agreeing_keysValue _ _ _, ?_⟩
  rw [having, Dict.values, Dict.values, List.filter_map]
  rfl

section Entries

variable {params : IndexParams} {asked : Value} (hp : params.LaysOut l)
  (hwanted : wantedTerms (l.terms.map keysValue) asked = .ok terms)

include hp hwanted

/-- The entries of an index that shows no values. -/
theorem entriesOf_of_nil (h : l.values = []) :
    s.entriesOf params asked = .ok ((s.having l terms).map l.entry) := by
  obtain ⟨found, hfound, hhaving⟩ := agreeing_having s l terms
  have hvalues : params.values = .ok [] := by rw [hp.values, h]; rfl
  rw [IndexLayout.entry_of_nil h, ← hhaving]
  exact Except.bind_eq_ok.2 ⟨_, hp.terms, Except.bind_eq_ok.2 ⟨_, hwanted, Except.bind_eq_ok.2
    ⟨_, hp.source, Except.bind_eq_ok.2 ⟨found, hfound, Except.bind_eq_ok.2 ⟨[], hvalues, rfl⟩⟩⟩⟩⟩

/-- The entries of an index that shows values are its rows in order. -/
theorem entriesOf_of_ne_nil (h : l.values ≠ []) {docs : List StoredDocument}
    (hsorted : sortRows 0 (l.fields.map fun f => valueField f.1 f.2)
      ((s.having l terms).map (IndexLayout.row l.fields)) =
        .ok (docs.map (IndexLayout.row l.fields))) :
    s.entriesOf params asked = .ok (docs.map l.entry) := by
  obtain ⟨found, hfound, hhaving⟩ := agreeing_having s l terms
  have hempty : l.values.isEmpty = false := List.isEmpty_eq_false_iff.2 h
  have hvalues : params.values = .ok (l.fields.map fun f => valueField f.1 f.2) := by
    rw [hp.values, hempty]
    rfl
  have hshown : (l.fields.map fun f => valueField f.1 f.2).isEmpty = false := by
    simp [IndexLayout.fields]
  have hrows : ((s.having l terms).mapM fun doc =>
      (l.fields.map fun f => valueField f.1 f.2).mapM fun value => do
        doc.field (← IndexParams.path value)) =
      .ok ((s.having l terms).map (IndexLayout.row l.fields)) := by
    refine Except.mapM_eq_map fun doc _ => ?_
    rw [List.mapM_map]
    exact Except.mapM_eq_map fun f _ => doc.field_keysValue f.1
  refine Except.bind_eq_ok.2 ⟨_, hp.terms, Except.bind_eq_ok.2 ⟨_, hwanted, Except.bind_eq_ok.2
    ⟨_, hp.source, Except.bind_eq_ok.2 ⟨found, hfound, Except.bind_eq_ok.2 ⟨_, hvalues, ?_⟩⟩⟩⟩⟩
  simp only [hshown, Bool.false_eq_true, if_false, hhaving]
  refine Except.bind_eq_ok.2 ⟨_, hrows, Except.bind_eq_ok.2 ⟨_, hsorted, ?_⟩⟩
  rw [IndexLayout.entry_of_ne_nil h, List.map_map]
  rfl

end Entries

/-- **An index has one entry for each document that has the wanted terms**, in order. -/
theorem entriesOf_spec (hs : s.Filed) {params : IndexParams} (hp : params.LaysOut l)
    {asked : Value} (hwanted : wantedTerms (l.terms.map keysValue) asked = .ok terms)
    (hsort : l.CanSort (s.having l terms)) :
    ∃ docs, s.entriesOf params asked = .ok (docs.map l.entry) ∧ s.Listed l terms docs := by
  have honce : (s.having l terms).Pairwise fun a b => a.ref.id ≠ b.ref.id :=
    (hs.pairwise_id_ne l.source).filter _
  by_cases hnone : l.values = []
  · exact ⟨s.having l terms, entriesOf_of_nil hp hwanted hnone, .refl _, honce, fun _ => rfl,
      fun h => absurd hnone h⟩
  · obtain ⟨rows, hrows, hperm, hpairwise⟩ := sortRows_spec hsort.rowsSort l.fields 0
    obtain ⟨docs, hdocs, rfl⟩ := exists_perm_of_perm_map hperm
    have hdocsOnce : docs.Pairwise fun a b => a.ref.id ≠ b.ref.id :=
      (hdocs.pairwise_iff fun h => Ne.symm h).2 honce
    refine ⟨docs, entriesOf_of_ne_nil hp hwanted hnone hrows, hdocs, hdocsOnce,
      fun h => absurd h hnone, fun _ => ?_⟩
    exact (List.pairwise_map.1 hpairwise).imp₂
      (fun a b h hid => IndexLayout.precedes_of_rowPrecedes hid l.values [] h) hdocsOnce

/-! ## Entries of any index -/

theorem perm_of_sortRows {first : Nat} {values : List Value} {rows sorted : List (List Value)}
    (h : sortRows first values rows = .ok sorted) : sorted.Perm rows := by
  induction values generalizing first sorted with
  | nil => exact .of_eq (Except.ok.inj h).symm
  | cons value rest ih =>
    obtain ⟨later, hlater, h⟩ := Except.bind_eq_ok.1 h
    obtain ⟨reverse, -, h⟩ := Except.bind_eq_ok.1 h
    exact (Sorting.perm_of_sort h).trans (ih hlater)

/-- **Every entry of an index is that of a document of its source**, whatever terms are asked for. -/
theorem exists_docs_of_entriesOf {params : IndexParams} (hp : params.LaysOut l) {asked : Value}
    {entries : List Value} (h : s.entriesOf params asked = .ok entries) :
    ∃ docs : List StoredDocument, entries = docs.map l.entry ∧
      ∀ doc ∈ docs, doc ∈ (s.documents l.source).values := by
  obtain ⟨paths, hpaths, h⟩ := Except.bind_eq_ok.1 h
  cases hpaths.symm.trans hp.terms
  obtain ⟨wanted, -, h⟩ := Except.bind_eq_ok.1 h
  obtain ⟨source, hsource, h⟩ := Except.bind_eq_ok.1 h
  cases hsource.symm.trans hp.source
  obtain ⟨found, hfound, h⟩ := Except.bind_eq_ok.1 h
  obtain ⟨values, hvalues, h⟩ := Except.bind_eq_ok.1 h
  cases hvalues.symm.trans hp.values
  cases hfound.symm.trans (agreeing_keysValue _ _ _)
  generalize hdocs : s.documents l.source = docs at h
  have hmem : ∀ doc ∈ Dict.values (docs.filter fun e => e.2.hasTerms l.terms wanted),
      doc ∈ docs.values := by
    intro doc hdoc
    obtain ⟨e, he, rfl⟩ := List.mem_map.1 hdoc
    exact List.mem_map_of_mem (List.mem_filter.1 he).1
  by_cases hnone : l.values = []
  · have hempty : l.values.isEmpty = true := List.isEmpty_iff.2 hnone
    simp only [hempty, if_true, List.isEmpty_nil] at h
    refine ⟨_, ?_, hmem⟩
    rw [IndexLayout.entry_of_nil hnone]
    exact (Except.ok.inj h).symm
  · have hempty : l.values.isEmpty = false := List.isEmpty_eq_false_iff.2 hnone
    have hshown : (l.fields.map fun f => valueField f.1 f.2).isEmpty = false := by
      simp [IndexLayout.fields]
    simp only [hempty, Bool.false_eq_true, if_false, hshown] at h
    obtain ⟨rows, hrows, h⟩ := Except.bind_eq_ok.1 h
    obtain ⟨sorted, hsorted, h⟩ := Except.bind_eq_ok.1 h
    have hread : ∀ doc : StoredDocument, ((l.fields.map fun f => valueField f.1 f.2).mapM
        fun value => do doc.field (← IndexParams.path value)) =
          .ok (IndexLayout.row l.fields doc) := by
      intro doc
      rw [List.mapM_map]
      exact Except.mapM_eq_map fun f _ => doc.field_keysValue f.1
    cases hrows.symm.trans (Except.mapM_eq_map fun doc _ => hread doc)
    obtain ⟨shown, hperm, rfl⟩ := exists_perm_of_perm_map (perm_of_sortRows hsorted)
    refine ⟨shown, ?_, fun doc hdoc => hmem doc (hperm.mem_iff.1 hdoc)⟩
    rw [IndexLayout.entry_of_ne_nil hnone, ← Except.ok.inj h, List.map_map]
    rfl

end Store

end DocMapper
