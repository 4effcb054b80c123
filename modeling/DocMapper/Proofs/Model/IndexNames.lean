import DocMapper.Proofs.Model.OwnDocuments
import DocMapper.Proofs.Setup.Completing
/-!
# Full names of indexes

The full name of an index is the name of its model and its own with a hyphen between. Two indexes of
different models have one full name exactly if the name of one model continues that of the other
behind a hyphen, and the rest is what the index of the other begins with
(`IndexCatalog.fullNameOf_eq_iff`).

Setting models up over an empty store creates, under each full name, the index that the first model
index with that name defines. So an index whose full name no index before it has is there as its
model defines it, and from then on, whatever is run, lookups by it give documents of the model's own
collection only (`Setup.index_names_isolate`). An index whose full name was taken is not created, and
a lookup by it goes to the collection of the other model (`Setup.index_names_collide_sample`).
-/

namespace DocMapper

open Store

namespace IndexCatalog

/-- Two texts with a hyphen between them are the same as two others if the cuts are at one place, or
the part between the two cuts belongs to the first text of the one and to the second of the other. -/
theorem hyphen_append_iff {xs ys us vs : List Char} :
    xs ++ '-' :: ys = us ++ '-' :: vs ↔ (xs = us ∧ ys = vs) ∨
      (∃ zs, us = xs ++ '-' :: zs ∧ ys = zs ++ '-' :: vs) ∨
      ∃ zs, xs = us ++ '-' :: zs ∧ vs = zs ++ '-' :: ys := by
  constructor
  · intro h
    rcases List.append_eq_append_iff.1 h with ⟨zs, hus, hys⟩ | ⟨zs, hxs, hvs⟩
    · cases zs with
      | nil => exact Or.inl ⟨by simp [hus], by simpa using hys⟩
      | cons z zs =>
        obtain ⟨rfl, hrest⟩ := List.cons.inj hys
        exact Or.inr (Or.inl ⟨zs, hus, hrest⟩)
    · cases zs with
      | nil => exact Or.inl ⟨by simp [hxs], by simpa using hvs.symm⟩
      | cons z zs =>
        obtain ⟨rfl, hrest⟩ := List.cons.inj hvs
        exact Or.inr (Or.inr ⟨zs, hxs, hrest⟩)
  · rintro (⟨rfl, rfl⟩ | ⟨zs, rfl, rfl⟩ | ⟨zs, rfl, rfl⟩)
    · rfl
    · simp
    · simp

/-- **Two indexes have one full name** if they have the same name in models of the same name, or if
the name of one model continues that of the other behind a hyphen. -/
theorem fullNameOf_eq_iff {model index model' index' : String} :
    fullNameOf model index = fullNameOf model' index' ↔ (model = model' ∧ index = index') ∨
      (∃ x, model' = model ++ "-" ++ x ∧ index = x ++ "-" ++ index') ∨
      ∃ x, model = model' ++ "-" ++ x ∧ index' = x ++ "-" ++ index := by
  have hchars : ∀ a b : String, (a ++ "-" ++ b).toList = a.toList ++ '-' :: b.toList := by
    intro a b
    simp
  have hexists : ∀ a b c d : String, (∃ x : String, a = b ++ "-" ++ x ∧ c = x ++ "-" ++ d) ↔
      ∃ zs, a.toList = b.toList ++ '-' :: zs ∧ c.toList = zs ++ '-' :: d.toList := by
    intro a b c d
    constructor
    · rintro ⟨x, rfl, rfl⟩
      exact ⟨x.toList, hchars b x, hchars x d⟩
    · rintro ⟨zs, ha, hc⟩
      refine ⟨String.ofList zs, String.toList_inj.1 ?_, String.toList_inj.1 ?_⟩
      · rw [ha, hchars, String.toList_ofList]
      · rw [hc, hchars, String.toList_ofList]
  rw [hexists, hexists, ← String.toList_inj, fullNameOf, fullNameOf, hchars, hchars,
    hyphen_append_iff, String.toList_inj, String.toList_inj]

end IndexCatalog

/-- The first entry of a key is what the key finds. -/
theorem Dict.get?_of_first {α : Type} {before after : Dict α} {key : Key} {v : α}
    (h : ∀ e ∈ before, e.1.same key = false) :
    Dict.get? (before ++ (key, v) :: after) key = some v := by
  rw [get?_append, get?_eq_none_of_forall h]
  simp [get?]

namespace Setup

/-! ## The indexes of models -/

/-- The indexes of some models, one model after another, each with its model. -/
def indexesOf (models : List Model) : List (Model × Value) :=
  models.flatMap fun m => m.indexes.names.map fun name => (m, name)

/-- No index before this one has its full name. -/
def First (models : List Model) (m : Model) (name : Value) : Prop :=
  ∃ before after, indexesOf models = before ++ (m, name) :: after ∧
    ∀ p ∈ before, IndexCatalog.fullNameOf p.1.name p.2.toText ≠
      IndexCatalog.fullNameOf m.name name.toText

/-- What models call for are their indexes, one by one. -/
theorem forall₂_indexNeeds {models : List Model} {needs : List Need}
    (h : indexNeeds models = .ok needs) :
    List.Forall₂ (fun p need => indexNeed p.1 p.2 = .ok need) (indexesOf models) needs := by
  obtain ⟨groups, hgroups, h⟩ := Except.bind_eq_ok.1 h
  cases h
  rw [indexesOf, List.flatMap_def]
  refine List.rel_flatten (List.forall₂_map_left_iff.2 ((Except.mapM_eq_ok.1 hgroups).imp ?_))
  intro m group hgroup
  exact List.forall₂_map_left_iff.2 (Except.mapM_eq_ok.1 hgroup)

/-- The entry that an index of a declared model makes. -/
theorem index?_of_indexNeed {m : Model} (hm : m.Declared) {name : Value} {need : Need}
    (h : indexNeed m name = .ok need) : ∃ params,
      m.indexes.creationParams name (.ref (collectionRef m.name)) = .ok params ∧
      need.index? = some (.text (IndexCatalog.fullNameOf m.name name.toText),
        params.map fun e => (e.1, e.2.settled)) := by
  obtain ⟨full, hfull, h⟩ := Except.bind_eq_ok.1 h
  obtain ⟨params, hparams, h⟩ := Except.bind_eq_ok.1 h
  cases h
  cases hfull.symm.trans (hm.fullName name)
  exact ⟨params, hparams, rfl⟩

/-- **The first index with a full name** is what the full name finds among those that are called
for. -/
theorem exists_get?_of_first {models : List Model} (hdeclared : ∀ m ∈ models, m.Declared)
    {needs : List Need} (h : indexNeeds models = .ok needs) {m : Model} {name : Value}
    (hfirst : First models m name) : m.Declared ∧ ∃ params,
      m.indexes.creationParams name (.ref (collectionRef m.name)) = .ok params ∧
      Dict.get? (needs.filterMap Need.index?)
        (.text (IndexCatalog.fullNameOf m.name name.toText)) =
          some (params.map fun e => (e.1, e.2.settled)) := by
  obtain ⟨before, after, hsplit, hother⟩ := hfirst
  have hmodel : ∀ p ∈ indexesOf models, p.1.Declared := by
    intro p hp
    obtain ⟨m, hm, hp⟩ := List.mem_flatMap.1 hp
    obtain ⟨name, -, rfl⟩ := List.mem_map.1 hp
    exact hdeclared m hm
  have hall := (forall₂_indexNeeds h).flip
  rw [hsplit] at hall hmodel
  have hm : m.Declared := hmodel (m, name) (by simp)
  have hbefore := List.forall₂_take_append _ _ _ hall
  obtain ⟨need, rest, hneed, -, hdrop⟩ :=
    List.forall₂_cons_right_iff.1 (List.forall₂_drop_append _ _ _ hall)
  obtain ⟨params, hparams, hindex⟩ := index?_of_indexNeed hm hneed
  refine ⟨hm, params, hparams, ?_⟩
  rw [← List.take_append_drop before.length needs, hdrop, List.filterMap_append,
    List.filterMap_cons_some hindex]
  refine Dict.get?_of_first fun e he => ?_
  obtain ⟨other, hother', he⟩ := List.mem_filterMap.1 he
  obtain ⟨p, hp, hneed'⟩ := exists_mem_of_forall₂ hbefore.flip hother'
  obtain ⟨params', -, hindex'⟩ :=
    index?_of_indexNeed (hmodel p (List.mem_append_left _ hp)) hneed'
  cases hindex'.symm.trans he
  simpa using hother p hp

/-! ## Setting up over an empty store -/

/-- Filling needs creates no documents. -/
theorem bare_filled {s : Store} (hs : s.Bare) (needs : List Need) : (filled needs s).Bare := by
  induction needs generalizing s with
  | nil => exact hs
  | cons need rest ih =>
    refine ih ?_
    cases need with
    | collection name =>
      rw [Need.fill]
      split
      · exact hs
      · exact hs.addCollection name
    | index source full params =>
      rw [Need.fill]
      split
      · exact hs
      · exact hs.addIndex full params

/-- What an index is over, how it is laid out and whether it is unique are as its definition says. -/
theorem laysOut_of_creationParams {m : Model} {name : Value} {params : Dict Value}
    (h : m.indexes.creationParams name (.ref (collectionRef m.name)) = .ok params) :
    ∃ d l, m.indexes.get name = .ok d ∧ m.indexes.layout name m.name = .ok l ∧
      IndexParams.LaysOut (params.map fun e => (e.1, e.2.settled)) l ∧
      Dict.get? (params.map fun e => (e.1, e.2.settled)) "unique" = some (.bool d.unique) := by
  obtain ⟨l, hl⟩ := IndexCatalog.exists_layout_of_creationParams h m.name
  obtain ⟨-, d, hd, hterms, hvalues, -⟩ := IndexCatalog.exists_of_layout hl
  refine ⟨d, l, hd, hl, IndexCatalog.laysOut_of_layout hl h fun key _ => Dict.get?_map _ _ _, ?_⟩
  obtain ⟨full, hfull, -⟩ := Except.bind_eq_ok.1 h
  cases (IndexCatalog.creationParams_eq hfull hd hvalues hterms _).symm.trans h
  rw [Dict.get?_map]
  rfl

/-- Whatever is performed, documents stay filed and the index stays as it is. -/
theorem indexed_performed {full : String} {params : IndexParams} (queries : List Query) {s : Store}
    (hs : Indexed full params s) : Indexed full params (performed queries s) := by
  induction queries generalizing s with
  | nil => exact hs
  | cons q rest ih => exact ih ((keptByWrites_indexed full params).keeps_evaluate (.query q) hs)

/-- **Full names isolate models, as far as they differ.** Two indexes have one full name only if they
have the same name in models of the same name, or one model's name continues the other's behind a
hyphen. When models are set up over an empty store, every index that is the first with its full name
is there, over the collection of its model, laid out and unique as its definition says; and whatever
is performed after that, lookups by it give documents of that collection only. -/
theorem index_names_isolate {models : List Model} (hne : models ≠ [])
    (hdeclared : ∀ m ∈ models, m.Declared) (hplain : ∀ m ∈ models, m.indexes.PlainMetadata)
    (echo : Bool) :
    (∀ model index model' index', IndexCatalog.fullNameOf model index =
        IndexCatalog.fullNameOf model' index' ↔ (model = model' ∧ index = index') ∨
      (∃ x, model' = model ++ "-" ++ x ∧ index = x ++ "-" ++ index') ∨
      ∃ x, model = model' ++ "-" ++ x ∧ index' = x ++ "-" ++ index) ∧
    ∃ summary t, Ends models {} (run Memory.executor echo true) summary t ∧
      ∀ m name, First models m name →
        ∃ (d : IndexDefinition) (l : IndexLayout) (stored : IndexParams),
        m.indexes.get name = .ok d ∧ m.indexes.layout name m.name = .ok l ∧
        t.indexes.get? (.text (IndexCatalog.fullNameOf m.name name.toText)) = some stored ∧
        stored.LaysOut l ∧ stored.get? (.text "unique") = some (.bool d.unique) ∧
        ∀ queries (desk : Desk Memory), desk.Ready → desk.remote.store = performed queries t →
          (∀ given options, desk.Results (m.listByIndex Memory.executor name given options)
            fun page => ∀ opened ∈ page.documents, opened.stored.IsOf m.name) ∧
          ∀ terms, desk.Results (m.getFirstByIndex Memory.executor name terms)
            fun found => ∀ opened, found = some opened → opened.stored.IsOf m.name := by
  refine ⟨fun model index model' index' => IndexCatalog.fullNameOf_eq_iff, ?_⟩
  obtain ⟨batches, needs, hbatches, hneeds, hcollections, hindexes, hsources⟩ :=
    exists_batches hdeclared hplain
  obtain ⟨collections, indexes, hrun, -⟩ :=
    ends_run (s := {}) echo hne hbatches hcollections hindexes hsources
  refine ⟨_, _, hrun, fun m name hfirst => ?_⟩
  obtain ⟨hm, params, hparams, hget⟩ := exists_get?_of_first hdeclared hneeds hfirst
  obtain ⟨d, l, hd, hl, hlaid, hunique⟩ := laysOut_of_creationParams hparams
  have hstored : (filled (collectionNeeds models ++ needs) {}).indexes.get?
      (.text (IndexCatalog.fullNameOf m.name name.toText)) =
        some (params.map fun e => (e.1, e.2.settled)) := by
    rw [filled_collectionNeeds_append hsources, Dict.get?_append_lacking, hget]
    rfl
  refine ⟨d, l, _, hd, hl, hstored, hlaid, hunique, fun queries desk hready hstore => ?_⟩
  have hindexed := indexed_performed queries ⟨(bare_filled bare_empty _).filed, hstored⟩
  rw [← hstore] at hindexed
  exact ⟨Model.results_listByIndex hl (hm.fullName name) hlaid hready hindexed,
    Model.results_getFirstByIndex hl (hm.fullName name) hlaid hready hindexed⟩

/-- Two models with indexes of one name. -/
def pairedModels : List Model := [noteModel "a" "by_text" none, noteModel "b" "by_text" none]

theorem index_names_isolate_sample :
    ∃ summary t, Ends pairedModels {} (run Memory.executor false true) summary t ∧
      (∃ stored, t.indexes.get? (.text "b-by_text") = some stored ∧
        stored.get? (.text "unique") = some (.bool false)) ∧
      ∀ queries, ((noteModel "b" "by_text" none).deskOver (performed queries t)).Results
        ((noteModel "b" "by_text" none).getFirstByIndex Memory.executor "by_text" [.text "x"])
        fun found => ∀ opened, found = some opened → opened.stored.IsOf "b" := by
  have hdeclared : ∀ m ∈ pairedModels, m.Declared := by
    simp only [pairedModels, List.forall_mem_cons, List.not_mem_nil, false_implies, implies_true,
      and_true]
    exact ⟨⟨(noteModel "a" "by_text" none).indexes, rfl⟩,
      ⟨(noteModel "b" "by_text" none).indexes, rfl⟩⟩
  have hplain : ∀ m ∈ pairedModels, m.indexes.PlainMetadata := by
    simp [pairedModels, noteModel, IndexCatalog.PlainMetadata]
  have hfirst : First pairedModels (noteModel "b" "by_text" none) "by_text" := by
    refine ⟨[(noteModel "a" "by_text" none, "by_text")], [], rfl, fun p hp => ?_⟩
    rw [List.mem_singleton.1 hp]
    decide
  obtain ⟨-, summary, t, hrun, hisolates⟩ :=
    index_names_isolate (by simp [pairedModels]) hdeclared hplain false
  obtain ⟨d, l, stored, hd, -, hstored, -, hunique, hlookups⟩ := hisolates _ _ hfirst
  have hnot : d.unique = false := by
    cases hd
    rfl
  rw [hnot] at hunique
  refine ⟨summary, t, hrun, ⟨stored, hstored, hunique⟩, fun queries => ?_⟩
  exact (hlookups queries _ (Model.deskOver_ready _ _) rfl).2 _

/-- Two models, the name of the one continuing that of the other behind a hyphen. -/
def collidingModels : List Model := [noteModel "a" "b-c" none, noteModel "a-b" "c" none]

/-- The store that models leave when they are set up over an empty one. -/
def storeOver (models : List Model) : Store :=
  ((run Memory.executor false true).perform
    { remote := {}, logging := ⟨newLog false, {}⟩,
      members := models.map fun m => { model := m, log := m.newLog } }).2.remote.store

/-- A note in the first of the colliding collections. -/
def strayNote : Query :=
  .create (.query (.collection (.text "a") none)) [(.text "data", .object [("text", .text "x")])]

/-- Indexes of models of different names can have one full name: the second index is not created, and
a lookup by it gives a document of the other model. An index whose metadata cannot be performed is
not created either. -/
theorem index_names_collide_sample :
    (collidingModels.map Model.name).Nodup ∧ (∀ m ∈ collidingModels, m.Declared) ∧
    IndexCatalog.fullNameOf "a" "b-c" = IndexCatalog.fullNameOf "a-b" "c" ∧
    (storeOver collidingModels).indexes.length = 1 ∧
    (¬ ((noteModel "a-b" "c" none).deskOver
        (performed [strayNote] (storeOver collidingModels))).Results
      ((noteModel "a-b" "c" none).getFirstByIndex Memory.executor "c" [.text "x"])
      fun found => ∀ opened, found = some opened → opened.stored.IsOf "a-b") ∧
    (storeOver [noteModel "notes" "by_text" (some abortingMetadata)]).indexes.length = 0 := by
  refine ⟨by decide, ?_, by decide, by decide +kernel, ?_, by decide +kernel⟩
  · simp only [collidingModels, List.forall_mem_cons, List.not_mem_nil, false_implies, implies_true,
      and_true]
    exact ⟨⟨(noteModel "a" "b-c" none).indexes, rfl⟩, ⟨(noteModel "a-b" "c" none).indexes, rfl⟩⟩
  · rintro ⟨out, calls, t, ⟨after, hperform, -⟩, hout⟩
    have hcollection : (((noteModel "a-b" "c" none).getFirstByIndex Memory.executor "c"
        [.text "x"]).perform ((noteModel "a-b" "c" none).deskOver
          (performed [strayNote] (storeOver collidingModels)))).1.toOption.join.bind
            (fun opened => opened.stored.ref.collection.map Ref.id) = some "a" := by
      decide +kernel
    rw [hperform] at hcollection
    obtain _ | _ | opened := out
    · cases hcollection
    · cases hcollection
    · have hown := hout _ rfl opened rfl
      rw [StoredDocument.IsOf, show opened.stored.ref.collection.map Ref.id = some "a" from
        hcollection] at hown
      exact absurd hown (by decide)

end Setup

end DocMapper
