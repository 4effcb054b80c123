import DocMapper.Proofs.Execution.Keeping
import DocMapper.Proofs.Execution.Running
import DocMapper.Proofs.Query.Yields
import DocMapper.Proofs.Store.Keyed
import DocMapper.Proofs.Value.WellKeyed
import DocMapper.Setup
/-!
# Provisioning

Setting models up adds collections and indexes to a store, and no documents, whatever goes wrong on
the way (`Setup.keeps_run`): as long as the metadata of the indexes is data, nothing else is
evaluated. The parameters of an index are what its definition says, over the collection of its model
(`Setup.yields_guardedCreation`).
-/

namespace DocMapper

open Store Action Query

/-! ## Adding to a store -/

namespace Store

/-- A store with one more collection, which has no documents yet. -/
def addCollection (s : Store) (name : String) : Store :=
  { s with collections := s.collections.put name [] }

/-- A store with one more index. -/
def addIndex (s : Store) (name : String) (params : IndexParams) : Store :=
  { s with indexes := s.indexes.put name params }

/-- A store without documents. -/
structure Bare (s : Store) : Prop where
  distinct : s.Distinct
  documents : ∀ c, s.documents c = []

theorem bare_empty : Bare {} := ⟨distinct_empty, fun _ => rfl⟩

theorem Bare.find {s : Store} (hs : s.Bare) (c i : String) : s.find c i = none := by
  rw [Store.find, hs.documents]
  rfl

theorem Bare.addCollection {s : Store} (hs : s.Bare) (name : String) :
    (s.addCollection name).Bare where
  distinct :=
    { collections := hs.distinct.collections.put _ _
      documents := fun e he => by
        rcases Dict.mem_put he with ⟨hv, -⟩ | hmem
        · rw [hv]
          exact Dict.distinct_nil
        · exact hs.distinct.documents e hmem }
  documents c := by
    by_cases hc : c = name
    · subst hc
      simp [Store.documents, Store.addCollection]
    · have hdocs : (s.addCollection name).documents c = s.documents c := by
        simp [Store.documents, Store.addCollection, Dict.get?_put_of_not_same, Ne.symm hc]
      rw [hdocs, hs.documents]

theorem Bare.addIndex {s : Store} (hs : s.Bare) (name : String) (params : IndexParams) :
    (s.addIndex name params).Bare :=
  ⟨⟨hs.distinct.collections, hs.distinct.documents⟩, hs.documents⟩

/-- A collection is created under its name unless it is there. -/
theorem perform_createCollection (s : Store) (name : String) (rest : Dict Value) :
    (createCollection (.dict ((.text "name", .text name) :: rest))).perform s =
      if s.collections.has name then (.error taken, s)
      else (.ok (.object [("ref", .ref (collectionRef name)), ("name", .text name)]),
        s.addCollection name) := by
  have hname : nameOf (.dict ((.text "name", .text name) :: rest)) =
      .ok (.text name, .text name) := rfl
  simp only [createCollection, perform_bind, perform_get, perform_liftM, hname]
  by_cases hhas : s.collections.has (.text name) = true
  · simp [hhas]
  · simp only [hhas, if_false, Bool.false_eq_true]
    rfl

/-- An index is created under its name, over a collection that is there, unless it is there. -/
theorem perform_createIndex (s : Store) (name c : String) (rest : Dict Value) :
    (createIndex (.dict ((.text "name", .text name) :: (.text "source", .ref (collectionRef c)) ::
        rest))).perform s =
      if s.indexes.has name then (.error taken, s)
      else if s.collections.has c then
        (.ok (.object [("ref", .ref (indexRef name)), ("name", .text name)]), s.addIndex name
          ((.text "name", .text name) :: (.text "source", .ref (collectionRef c)) :: rest))
      else (.error (collectionMissing c), s) := by
  have hname : nameOf (.dict ((.text "name", .text name) ::
      (.text "source", .ref (collectionRef c)) :: rest)) = .ok (.text name, .text name) := rfl
  have hsource : (Value.dict ((.text "name", .text name) ::
      (.text "source", .ref (collectionRef c)) :: rest)).subscript (.text "source") =
        .ok (.ref (collectionRef c)) := rfl
  have hid : IndexParams.idOf (.ref (collectionRef c)) = .ok c := rfl
  simp only [createIndex, perform_bind, perform_get, perform_liftM, hname]
  by_cases hhas : s.indexes.has (.text name) = true
  · simp [hhas]
  · simp only [hhas, if_false, Bool.false_eq_true, perform_bind, perform_liftM, hsource,
      hid]
    by_cases hc : s.collections.has (.text c) = true
    · simp only [hc, Bool.not_true, if_false, Bool.false_eq_true, if_true]
      rfl
    · simp [hc]

end Store

namespace IndexCatalog

/-- The metadata of the indexes is data. -/
def PlainMetadata (c : IndexCatalog) : Prop :=
  ∀ e ∈ c.definitions, ∀ data, e.2.data = some data → (Value.dict data).isPlain = true

theorem isPlain_keysValue (keys : List String) : (keysValue keys).isPlain = true :=
  Value.isPlain_list.2 (by simp [Value.isPlain])

theorem isPlain_valueField (keys : List String) (reverse : Bool) :
    (valueField keys reverse).isPlain = true := by
  have hfields : ∀ e ∈ [(Key.text "field", keysValue keys), (.text "reverse", .bool reverse)],
      e.2.isPlain = true := by
    simp [isPlain_keysValue, Value.isPlain]
  exact Value.isPlain_dict.2 hfields

/-- What the parameters of an index say besides its name and its source. -/
def otherParams (d : IndexDefinition) (terms : List (List String)) (shown : List Value) :
    List (String × Value) :=
  [("terms", .list (terms.map fun keys => .object [("field", keysValue keys)])),
    ("values", .list (if shown.isEmpty then [] else shown ++ [valueField ["ref"] false])),
    ("unique", .bool d.unique)]
    ++ (d.serialized.toList.map fun b => ("serialized", Value.bool b))
    ++ (d.data.toList.map fun entries => ("data", Value.dict entries))

theorem isPlain_otherParams {d : IndexDefinition} {terms : List (List String)} {shown : List Value}
    (hshown : ∀ v ∈ shown, v.isPlain = true)
    (hdata : ∀ data, d.data = some data → (Value.dict data).isPlain = true) :
    ∀ field ∈ otherParams d terms shown, field.2.isPlain = true := by
  have hterms : (Value.list (terms.map fun keys => .object [("field", keysValue keys)])).isPlain =
      true := by
    refine Value.isPlain_list.2 fun v hv => ?_
    obtain ⟨keys, -, rfl⟩ := List.mem_map.1 hv
    have hfields : ∀ e ∈ [(Key.text "field", keysValue keys)], e.2.isPlain = true := by
      simp [isPlain_keysValue]
    exact Value.isPlain_dict.2 hfields
  have hvalues : (Value.list (if shown.isEmpty then [] else
      shown ++ [valueField ["ref"] false])).isPlain = true := by
    refine Value.isPlain_list.2 fun v hv => ?_
    split at hv
    · cases hv
    · rcases List.mem_append.1 hv with hv | hv
      · exact hshown v hv
      · rw [List.mem_singleton.1 hv]
        exact isPlain_valueField _ _
  intro field hfield
  simp only [otherParams, List.mem_append, List.mem_cons, List.not_mem_nil, or_false, List.mem_map,
    Option.mem_toList] at hfield
  rcases hfield with ((rfl | rfl | rfl) | ⟨b, -, rfl⟩) | ⟨data, hfound, rfl⟩
  · exact hterms
  · exact hvalues
  · rfl
  · rfl
  · exact hdata data hfound

/-- The parameters of an index are its full name, its source, and what its definition says. -/
theorem creationParams_eq {c : IndexCatalog} {name : Value} {full : String} {d : IndexDefinition}
    {shown : List Value} {terms : List (List String)} (hfull : c.fullName name = .ok full)
    (hd : c.get name = .ok d) (hshown : c.valueFields name = .ok shown)
    (hterms : c.termPaths name = .ok terms) (source : Value) :
    c.creationParams name source = .ok ((.text "name", .text full) :: (.text "source", source) ::
      (otherParams d terms shown).map fun field => (.text field.1, field.2)) := by
  have hdistinct : Dict.Distinct (([("name", Value.text full), ("source", source)] ++
      otherParams d terms shown).map fun field => (Key.text field.1, field.2)) := by
    rcases d with ⟨unique, ts, vs, _ | b, _ | data⟩ <;> simp [otherParams, Dict.Distinct]
  rw [creationParams, hfull]
  simp only [hd, hshown, hterms]
  exact congrArg Except.ok (Dict.ofEntries_of_distinct hdistinct)

/-- **The parameters of an index** are its full name, its source, and plain data that its definition
says. -/
theorem exists_rest_of_creationParams {c : IndexCatalog} (hc : c.PlainMetadata)
    {name source : Value} {params : Dict Value} (h : c.creationParams name source = .ok params) :
    ∃ full rest, c.fullName name = .ok full ∧ (∀ e ∈ rest, e.2.isPlain = true) ∧
      ∀ source, c.creationParams name source =
        .ok ((.text "name", .text full) :: (.text "source", source) :: rest) := by
  obtain ⟨full, hfull, h⟩ := Except.bind_eq_ok.1 h
  obtain ⟨d, hd, h⟩ := Except.bind_eq_ok.1 h
  obtain ⟨shown, hshown, h⟩ := Except.bind_eq_ok.1 h
  obtain ⟨terms, hterms, -⟩ := Except.bind_eq_ok.1 h
  have hmetadata : ∀ data, d.data = some data → (Value.dict data).isPlain = true := by
    obtain ⟨found, hfound, hd⟩ := Except.bind_eq_ok.1 hd
    cases found with
    | none => cases hd
    | some d' =>
      cases hd
      obtain ⟨k, hmem⟩ := Value.exists_mem_of_find hfound
      exact hc _ hmem
  have hshownPlain : ∀ v ∈ shown, v.isPlain = true := by
    obtain ⟨d', -, hvalues⟩ := Except.bind_eq_ok.1 hshown
    intro v hv
    obtain ⟨value, -, hvalue⟩ := exists_mem_of_forall₂ (Except.mapM_eq_ok.1 hvalues) hv
    obtain ⟨keys, -, hkeys⟩ := Except.bind_eq_ok.1 hvalue
    cases hkeys
    exact isPlain_valueField keys value.reverse
  refine ⟨full, _, hfull, ?_, creationParams_eq hfull hd hshown hterms⟩
  intro e he
  obtain ⟨field, hfield, rfl⟩ := List.mem_map.1 he
  exact isPlain_otherParams hshownPlain hmetadata field hfield

end IndexCatalog

namespace Setup

variable {apply : Value → Value → Action Evaluation Value} {s : Store}

/-- A creation that is guarded by a look whether the thing exists takes place if it does not, and
comes to null otherwise. -/
theorem yields_guarded {name last : String} {look creation : Value} {there : Bool} {t : Store}
    {out : Except Fault Value} (hlast : last ≠ "name" ∧ last ≠ "exists")
    (hlook : ∀ b : Bindings, b.get? "name" = some (.text name) →
      Yields apply b s look (.ok (.bool there)) s)
    (hcreation : there = false → ∀ b, Yields apply b s creation out t) :
    Yields apply [] s (.query (binding [("name", .text name), ("exists", look),
        (last, .query (.ifElse (named "exists") .null creation))] (named last)))
      (if there then .ok .null else out) (if there then s else t) := by
  have hnames : Dict.ofFields [("name", .text name), ("exists", look),
      (last, .query (.ifElse (named "exists") .null creation))] =
      [(.text "name", .text name), (.text "exists", look)] ++
        [(.text last, .query (.ifElse (named "exists") .null creation))] := by
    simp [Dict.ofFields, Dict.ofEntries, Dict.putAll, Dict.put, Ne.symm hlast.1, Ne.symm hlast.2]
  let bound : Bindings := Dict.put [] "name" (.text name)
  have hbind : ∀ {rest out u}, Binds apply (bound.put "exists" (.bool there)) s rest out u →
      Binds apply [] s ((.text "name", .text name) :: (.text "exists", look) :: rest) out u :=
    fun hrest => Binds.cons (Yields.plain rfl)
      (Binds.cons (hlook bound (Dict.get?_put_self _ _ _)) hrest)
  have hexists : Yields apply (bound.put "exists" (.bool there)) s (named "exists")
      (.ok (.bool there)) s := Yields.var (Dict.get?_put_self _ _ _)
  rw [binding, hnames]
  cases there with
  | true => exact Yields.letIn_last [_, _] hbind (Yields.ifElse_true hexists rfl Yields.null)
  | false =>
    have hcreate := hcreation rfl (bound.put "exists" (.bool false))
    exact Yields.letIn_last [_, _] hbind (Yields.ifElse_false hexists rfl hcreate)

/-- **The query of a model's collection** adds it unless it is there. -/
theorem yields_collectionQuery (m : Model) (s : Store) :
    Yields apply [] s (.query (collectionQuery m))
      (if s.collections.has m.name then .ok .null
        else .ok (.object [("ref", .ref (collectionRef m.name)), ("name", .text m.name)]))
      (if s.collections.has m.name then s else s.addCollection m.name) := by
  refine yields_guarded (by simp)
    (fun b hb => Yields.present (Yields.collectionOf none (Yields.var hb)) rfl) fun hnone b => ?_
  have hname : Yields apply b s (.text m.name) (.ok (.text m.name)) s := Yields.plain rfl
  have hparams : ∀ e ∈ [(Key.text "data", Value.dict []), (.text "history_days", .null),
      (.text "ttl_days", .null)], e.2.isPlain = true := by
    simp [Value.isPlain, Value.arePlainEntries]
  have hcreate := Yields.createCollection
    (YieldsEntries.cons (k := .text "name") hname (YieldsEntries.plain hparams))
  rw [perform_createCollection, hnone] at hcreate
  exact hcreate

/-- **The query of an index** adds it over the model's collection unless it is there, with the
parameters that its definition says. -/
theorem yields_guardedCreation {m : Model} (hm : m.indexes.PlainMetadata) {name : Value} {q : Query}
    (h : m.indexes.guardedCreation name (.query m.collection) = .ok q) (s : Store) :
    ∃ full params, m.indexes.fullName name = .ok full ∧
      m.indexes.creationParams name (.ref (collectionRef m.name)) = .ok params ∧
      Yields apply [] s (.query q)
        (if s.indexes.has full then .ok .null
          else if s.collections.has m.name then
            .ok (.object [("ref", .ref (indexRef full)), ("name", .text full)])
          else .error (collectionMissing m.name))
        (if s.indexes.has full then s
          else if s.collections.has m.name then
            s.addIndex full (params.map fun e => (e.1, e.2.settled))
          else s) := by
  obtain ⟨full, hfull, h⟩ := Except.bind_eq_ok.1 h
  obtain ⟨creation, hcreation, h⟩ := Except.bind_eq_ok.1 h
  obtain ⟨given, hgiven, hquery⟩ := Except.bind_eq_ok.1 hcreation
  cases h
  cases hquery
  obtain ⟨full', rest, hfull', hrest, hparams⟩ :=
    IndexCatalog.exists_rest_of_creationParams hm hgiven
  cases hfull.symm.trans hfull'
  cases (hparams _).symm.trans hgiven
  refine ⟨full, _, hfull, hparams _, yields_guarded (by simp)
    (fun b hb => Yields.present (Yields.index none (Yields.var hb)) rfl) fun hnone b => ?_⟩
  have hname : Yields apply b s (.text full) (.ok (.text full)) s := Yields.plain rfl
  have hcreate := Yields.createIndex (YieldsEntries.cons (k := .text "name") hname
    (YieldsEntries.cons (k := .text "source") (Yields.collection m.name none)
      (YieldsEntries.plain hrest)))
  have hnone : s.indexes.has (.text full) = false := hnone
  rw [perform_createIndex, hnone] at hcreate
  have hsettled : ((Key.text "name", Value.text full) ::
      (.text "source", .ref (collectionRef m.name)) :: rest).map (fun e => (e.1, e.2.settled)) =
      (.text "name", .text full) :: (.text "source", .ref (collectionRef m.name)) ::
        rest.map fun e => (e.1, e.2.settled) := rfl
  rw [hsettled]
  by_cases hc : s.collections.has m.name = true
  · simp only [hc, Bool.false_eq_true, if_false, if_true] at hcreate ⊢
    exact hcreate
  · simp only [hc, Bool.false_eq_true, if_false] at hcreate ⊢
    exact hcreate

/-! ## What setting up keeps -/

section Keeping

variable {P : Store → Prop} {α β : Type}

/-- An action that keeps something of the store, however it ends. -/
def Keeps (P : Store → Prop) (action : Action (SetupState Memory) α) : Prop :=
  ∀ state, P state.remote.store → P (action.perform state).2.remote.store

theorem Keeps.onLog (action : Action Logging α) : Keeps P (onLog action) := fun _ h => h

/-- **A batch keeps what its query keeps.** -/
theorem keeps_runBatch_of_query {operation : String} {queries : List Query} {names : List String}
    (h : KeptByQuery P (.sequence (queries.map Value.query))) :
    Keeps P (runBatch Memory.executor operation queries names) := by
  refine Preserves.lift_bind fun q hq => Preserves.lift_bind fun wire _ =>
    Preserves.bind (Keeps.onLog _) fun _ => Preserves.bind (Keeps.onLog _) fun span =>
    Preserves.bind (Preserves.zoom (P := fun memory : Memory => P memory.store) (fun _ _ => rfl)
      (Preserves.attempt ?_)) fun reply => ?_
  · have hsequence : q = .sequence (queries.map Value.query) := by
      cases queries with
      | nil => cases hq
      | cons => exact (Except.ok.inj hq).symm
    rw [hsequence]
    exact Memory.preserves_run h
  · cases reply with
    | error cause =>
      exact Preserves.bind (Keeps.onLog _) fun _ => Preserves.bind (Keeps.onLog _) fun _ =>
        Preserves.throw _
    | ok v =>
      exact Preserves.bind (Keeps.onLog _) fun _ => Preserves.bind (Keeps.onLog _) fun _ =>
        Preserves.pure v

/-- A batch keeps what each of its queries keeps. -/
theorem keeps_runBatch {operation : String} {queries : List Query} {names : List String}
    (h : ∀ q ∈ queries, ∀ s, P s →
      ∃ out t, Yields (applyClosure depthBound) [] s (.query q) out t ∧ P t) :
    Keeps P (runBatch Memory.executor operation queries names) := by
  refine keeps_runBatch_of_query fun s hs => ?_
  obtain ⟨out, t, hyields, ht⟩ := Yields.sequence_keeps
    (fun e he s hs => by
      obtain ⟨q, hmem, rfl⟩ := List.mem_map.1 he
      exact h q hmem s hs) hs
  rw [perform_evaluate hyields]
  exact ht

/-- What both batches keep, the creation of what models need keeps. -/
theorem keeps_provision_of_batches {models : List Model} {names : List String}
    (hcollections : ∀ operation,
      Keeps P (runBatch Memory.executor operation (models.map collectionQuery) names))
    (hindexes : ∀ operation indexes, indexQueries models = .ok indexes →
      Keeps P (runBatch Memory.executor operation indexes names)) :
    Keeps P (provision Memory.executor models names) := by
  refine Preserves.lift_bind fun batches hbatches => Preserves.bind (Keeps.onLog _) fun _ => ?_
  obtain ⟨indexes, hprepared, h⟩ := Except.bind_eq_ok.1 hbatches
  cases h
  refine Preserves.bind (hcollections _) fun collections => ?_
  have hend : ∀ indexes : Value, Keeps P (do
      note "Setup done" names
      return ({ models := names, collections := collections, indexes := indexes } : SetupSummary)) :=
    fun indexes => Preserves.bind (Keeps.onLog _) fun _ => Preserves.pure _
  simp only
  split
  · exact hend _
  · exact Preserves.bind (hindexes _ _ hprepared) hend

/-- Something of a store is kept when an index of some model is added that is not there yet, as its
definition says. -/
def KeptByIndexes (P : Store → Prop) (models : List Model) : Prop :=
  ∀ m ∈ models, ∀ name ∈ m.indexes.names, ∀ full params, m.indexes.fullName name = .ok full →
    m.indexes.creationParams name (.ref (collectionRef m.name)) = .ok params →
    ∀ s, P s → s.indexes.has full = false →
      P (s.addIndex full (params.map fun e => (e.1, e.2.settled)))

/-- Each query of the two batches adds a collection or an index, or nothing. -/
theorem keeps_provision {models : List Model} {names : List String}
    (hcollections : ∀ s name, P s → P (s.addCollection name))
    (hindexes : KeptByIndexes P models) (hm : ∀ m ∈ models, m.indexes.PlainMetadata) :
    Keeps P (provision Memory.executor models names) := by
  refine keeps_provision_of_batches (fun operation => ?_) fun operation indexes hprepared => ?_
  · refine keeps_runBatch fun q hq s hs => ?_
    obtain ⟨m, -, rfl⟩ := List.mem_map.1 hq
    refine ⟨_, _, yields_collectionQuery m s, ?_⟩
    split
    · exact hs
    · exact hcollections s m.name hs
  · refine keeps_runBatch fun q hq s hs => ?_
    obtain ⟨groups, hgroups, h⟩ := Except.bind_eq_ok.1 hprepared
    cases h
    obtain ⟨group, hgroup, hmem⟩ := List.mem_flatten.1 hq
    obtain ⟨m, hmodel, hcreations⟩ := exists_mem_of_forall₂ (Except.mapM_eq_ok.1 hgroups) hgroup
    obtain ⟨name, hname, hguarded⟩ := exists_mem_of_forall₂ (Except.mapM_eq_ok.1 hcreations) hmem
    obtain ⟨full, params, hfull, hparams, hyields⟩ :=
      yields_guardedCreation (hm m hmodel) hguarded s
    refine ⟨_, _, hyields, ?_⟩
    split
    · exact hs
    · rename_i hnone
      split
      · exact hindexes m hmodel name hname full params hfull hparams s hs
          (eq_false_of_ne_true hnone)
      · exact hs

/-- What the creation of what models need keeps, setting them up keeps. -/
theorem keeps_run_of_provision {echo create : Bool} {state : SetupState Memory}
    (h : ∀ names, Keeps P
      (provision Memory.executor (state.members.map Attached.model) names))
    (hs : P state.remote.store) :
    P ((run Memory.executor echo create).perform state).2.remote.store := by
  have hmodels : (state.members.map (attach echo)).map Attached.model =
      state.members.map Attached.model := by
    rw [List.map_map]
    rfl
  rw [run, perform_bind, perform_modify]
  simp only [perform_bind, perform_get, hmodels]
  split
  · exact h _ _ hs
  · exact Preserves.bind (Keeps.onLog _) (fun _ => Preserves.pure _) _ hs

/-- **Setting up keeps what every query keeps**, whatever the models and however it ends. -/
theorem keeps_run_of_queries {echo create : Bool} {state : SetupState Memory}
    (h : ∀ q, KeptByQuery P q) (hs : P state.remote.store) :
    P ((run Memory.executor echo create).perform state).2.remote.store :=
  keeps_run_of_provision (fun _ => keeps_provision_of_batches
    (fun _ => keeps_runBatch_of_query (h _)) fun _ _ _ => keeps_runBatch_of_query (h _)) hs

/-- **Setting up keeps what new collections and indexes keep**, however it ends. -/
theorem keeps_run {echo create : Bool} {state : SetupState Memory}
    (hcollections : ∀ s name, P s → P (s.addCollection name))
    (hindexes : KeptByIndexes P (state.members.map Attached.model))
    (hm : ∀ a ∈ state.members, a.model.indexes.PlainMetadata) (hs : P state.remote.store) :
    P ((run Memory.executor echo create).perform state).2.remote.store := by
  refine keeps_run_of_provision (fun _ => keeps_provision hcollections hindexes fun m hmem => ?_) hs
  obtain ⟨a, ha, rfl⟩ := List.mem_map.1 hmem
  exact hm a ha

end Keeping

/-- The store that setting models up over an empty one leaves. -/
def freshStore (echo create : Bool) (logging : Logging) (members : List Attached) : Store :=
  ((run Memory.executor echo create).perform
    { remote := {}, logging := logging, members := members }).2.remote.store

/-- **Setting models up over an empty store** brings no documents. -/
theorem bare_freshStore {echo create : Bool} {logging : Logging} {members : List Attached}
    (hm : ∀ a ∈ members, a.model.indexes.PlainMetadata) :
    (freshStore echo create logging members).Bare :=
  keeps_run (fun _ name hs => hs.addCollection name)
    (fun _ _ _ _ full _ _ _ _ hs _ => hs.addIndex full _) hm bare_empty

/-- The store that setting one model up leaves. -/
def storeOf (m : Model) : Store :=
  freshStore false true ⟨newLog false, {}⟩ [{ model := m, log := m.newLog }]

theorem bare_storeOf {m : Model} (hm : m.indexes.PlainMetadata) : (storeOf m).Bare :=
  bare_freshStore (by simpa using hm)

end Setup

end DocMapper
