import DocMapper.Proofs.Setup.Needs
/-!
# Setting up completes a store

Setting models up fills what they need (`Setup.completes_run`): it ends well over any store, takes
nothing away, and leaves each collection and each index that was lacking, created once, in the order
in which the models call for them. So doing it twice is doing it once, and doing it again after a
first attempt was broken off anywhere comes to the same store (`Setup.setup_completes_store`).

This is for models that were declared, whose index paths therefore resolve, and for index metadata
that is data. Metadata may hold queries as well. Setting up performs these, and may then fail
(`Setup.setup_not_completed_sample`).
-/

namespace DocMapper

open Store Action Query

/-- The model was made by a declaration. -/
def Model.Declared (m : Model) : Prop :=
  ∃ indexes, Model.declare m.name m.schema indexes = .ok m

namespace IndexCatalog

variable {c bound : IndexCatalog} {model : String} {schema : Schema}

/-- The paths of a definition that has been checked resolve. -/
theorem exists_keys_of_checkPaths {owner : String} {d : IndexDefinition} {u : Unit}
    (h : checkPaths schema owner d = .ok u) :
    ∀ path ∈ d.terms ++ d.values.map IndexValue.field, ∃ keys, resolvePath path = .ok keys := by
  obtain ⟨_, hloop, -⟩ := Except.bind_eq_ok.1 h
  refine Except.forall_of_forIn (fun path r hr => ?_) hloop
  obtain ⟨keys, hkeys, hr⟩ := Except.bind_eq_ok.1 hr
  obtain ⟨_, -, hr⟩ := Except.bind_eq_ok.1 hr
  exact ⟨⟨keys, hkeys⟩, (Except.ok.inj hr).symm⟩

/-- The paths of a catalog that belongs to a model resolve. -/
theorem exists_keys_of_bind (h : c.bind model schema = .ok bound) :
    bound.owner = some model ∧ ∀ e ∈ bound.definitions,
      ∀ path ∈ e.2.terms ++ e.2.values.map IndexValue.field,
        ∃ keys, resolvePath path = .ok keys := by
  obtain ⟨_, hloop, hbound⟩ := Except.bind_eq_ok.1 h
  cases hbound
  refine ⟨rfl, Except.forall_of_forIn (fun e r hr => ?_) hloop⟩
  obtain ⟨_, hpaths, hr⟩ := Except.bind_eq_ok.1 hr
  exact ⟨exists_keys_of_checkPaths hpaths, (Except.ok.inj hr).symm⟩

/-- A name of the catalog has a definition of the catalog. -/
theorem exists_definition {name : Value} (h : name ∈ c.names) :
    ∃ d, c.get name = .ok d ∧ ∃ e ∈ c.definitions, e.2 = d := by
  obtain ⟨key, hkey, rfl⟩ := List.mem_map.1 h
  obtain ⟨e, he, rfl⟩ := List.mem_map.1 hkey
  obtain ⟨d, hd⟩ := Option.isSome_iff_exists.1 (Dict.has_of_mem he)
  obtain ⟨k, hmem, -⟩ := Dict.exists_mem_of_get? hd
  refine ⟨d, ?_, _, hmem, rfl⟩
  unfold IndexCatalog.get
  rw [Value.find_ofKey, hd]
  rfl

end IndexCatalog

namespace Model

variable {m : Model} {name : Value}

/-- A declaration gives the model the catalog of its indexes. -/
theorem Declared.exists_bind (h : m.Declared) :
    ∃ c : IndexCatalog, c.bind m.name m.schema = .ok m.indexes := by
  obtain ⟨c, hc⟩ := h
  obtain ⟨bound, hbound, hm⟩ := Except.bind_eq_ok.1 hc
  have hindexes : bound = m.indexes := congrArg Model.indexes (Except.ok.inj hm)
  exact ⟨c, hindexes ▸ hbound⟩

theorem Declared.fullName (h : m.Declared) (name : Value) :
    m.indexes.fullName name = .ok (IndexCatalog.fullNameOf m.name name.toText) := by
  obtain ⟨c, hc⟩ := h.exists_bind
  unfold IndexCatalog.fullName
  rw [(IndexCatalog.exists_keys_of_bind hc).1]

/-- The parameters of every index of a declared model can be made. -/
theorem Declared.exists_creationParams (h : m.Declared) (hname : name ∈ m.indexes.names)
    (source : Value) : ∃ params, m.indexes.creationParams name source = .ok params := by
  obtain ⟨d, hd, e, he, rfl⟩ := IndexCatalog.exists_definition hname
  have hpaths : ∀ path ∈ e.2.terms ++ e.2.values.map IndexValue.field,
      ∃ keys, resolvePath path = .ok keys := by
    obtain ⟨c, hc⟩ := h.exists_bind
    exact (IndexCatalog.exists_keys_of_bind hc).2 e he
  obtain ⟨terms, hterms⟩ := exists_forall₂ fun path hpath =>
    hpaths path (List.mem_append_left _ hpath)
  obtain ⟨fields, hfields⟩ := exists_forall₂ fun (value : IndexValue) hvalue =>
    hpaths value.field (List.mem_append_right _ (List.mem_map_of_mem hvalue))
  have htermPaths : m.indexes.termPaths name = .ok terms :=
    Except.bind_eq_ok.2 ⟨e.2, hd, Except.mapM_eq_ok.2 hterms⟩
  obtain ⟨shown, hshown⟩ : ∃ shown, m.indexes.valueFields name = .ok shown := by
    obtain ⟨shown, hshown, -⟩ := Except.exists_mapM_of_forall₂
      (f := fun (v : IndexValue) =>
        do return IndexCatalog.valueField (← resolvePath v.field) v.reverse)
      (S := fun _ _ => True)
      (fun value keys hkeys => ⟨_, Except.bind_eq_ok.2 ⟨keys, hkeys, rfl⟩, trivial⟩) hfields
    exact ⟨shown, Except.bind_eq_ok.2 ⟨e.2, hd, hshown⟩⟩
  exact ⟨_, IndexCatalog.creationParams_eq (h.fullName name) hd hshown htermPaths source⟩

/-- The guarded creation of every index of a declared model can be made. -/
theorem Declared.exists_guardedCreation (h : m.Declared) (hname : name ∈ m.indexes.names) :
    ∃ q, m.indexes.guardedCreation name (.query m.collection) = .ok q := by
  obtain ⟨params, hparams⟩ := h.exists_creationParams hname (.query m.collection)
  exact ⟨_, Except.bind_eq_ok.2 ⟨_, h.fullName name,
    Except.bind_eq_ok.2 ⟨_, Except.bind_eq_ok.2 ⟨params, hparams, rfl⟩, rfl⟩⟩⟩

end Model

namespace Setup

variable {s : Store}

/-! ## What models call for -/

/-- The index that a definition of a model calls for: over the model's collection, under its full
name, and with the parameters that the definition says. -/
def indexNeed (m : Model) (name : Value) : Except Fault Need := do
  let full ← m.indexes.fullName name
  let params ← m.indexes.creationParams name (.ref (collectionRef m.name))
  return .index m.name full (params.map fun e => (e.1, e.2.settled))

/-- The collections that models call for. -/
def collectionNeeds (models : List Model) : List Need := models.map fun m => .collection m.name

/-- The indexes that models call for, one model after another. -/
def indexNeeds (models : List Model) : Except Fault (List Need) := do
  return (← models.mapM fun m => m.indexes.names.mapM (indexNeed m)).flatten

/-- A query makes sure of a need, wherever that is possible. -/
structure Answers (q : Query) (need : Need) : Prop where
  sendable : q.Sendable
  yields : ∀ s, need.Possible s →
    Yields (applyClosure depthBound) [] s (.query q) (.ok (need.reply s)) (need.fill s)

theorem sendable_guarded {name last : String} {look creation : Value}
    (hlast : last ≠ "name" ∧ last ≠ "exists") (hlook : look.Sendable)
    (hcreation : creation.Sendable) :
    (binding [("name", .text name), ("exists", look),
      (last, .query (.ifElse (named "exists") .null creation))] (named last)).Sendable := by
  unfold binding
  simp [Dict.ofFields, Dict.ofEntries, Dict.putAll, Dict.put, Ne.symm hlast.1, Ne.symm hlast.2,
    hlook, hcreation]

theorem answers_collectionQuery (m : Model) :
    Answers (collectionQuery m) (.collection m.name) where
  sendable := by
    refine sendable_guarded (by simp) (by simp) (Value.sendable_query.2 ?_)
    have hparams : ∀ e ∈ Dict.ofFields [("name", Value.text m.name), ("data", .dict []),
        ("history_days", .null), ("ttl_days", .null)], e.2.isPlain = true := by
      simp [Dict.ofFields, Dict.ofEntries, Dict.putAll, Dict.put, Value.isPlain,
        Value.arePlainEntries]
    exact Sendable.createCollection fun e he => .plain (hparams e he)
  yields s _ := by
    have h := @yields_collectionQuery (applyClosure depthBound) m s
    unfold Need.reply Need.fill
    by_cases hhas : s.collections.has m.name = true
    · simpa only [hhas, if_true] using h
    · simpa only [hhas, if_false, Bool.false_eq_true] using h

/-- The query of an index of a declared model makes sure of the index. -/
theorem exists_answers_guardedCreation {m : Model} (hm : m.Declared)
    (hplain : m.indexes.PlainMetadata) {name : Value} (hname : name ∈ m.indexes.names) :
    ∃ q need, m.indexes.guardedCreation name (.query m.collection) = .ok q ∧
      indexNeed m name = .ok need ∧ Answers q need ∧ need.source? = some m.name := by
  obtain ⟨params, hparams⟩ := hm.exists_creationParams hname (.query m.collection)
  obtain ⟨full, rest, hfull, hrest, hall⟩ :=
    IndexCatalog.exists_rest_of_creationParams hplain hparams
  cases (hall _).symm.trans hparams
  have hguarded : m.indexes.guardedCreation name (.query m.collection) = .ok _ :=
    Except.bind_eq_ok.2 ⟨full, hfull,
      Except.bind_eq_ok.2 ⟨_, Except.bind_eq_ok.2 ⟨_, hparams, rfl⟩, rfl⟩⟩
  have hneed : indexNeed m name = .ok _ :=
    Except.bind_eq_ok.2 ⟨full, hfull, Except.bind_eq_ok.2 ⟨_, hall _, rfl⟩⟩
  refine ⟨_, _, hguarded, hneed, ⟨?_, fun s hs => ?_⟩, rfl⟩
  · refine sendable_guarded (by simp) (by simp) (Value.sendable_query.2 ?_)
    refine Sendable.createIndex (List.forall_mem_cons.2 ⟨by simp, List.forall_mem_cons.2 ⟨?_, ?_⟩⟩)
    · simp [Model.collection]
    · exact fun e he => .plain (hrest e he)
  · obtain ⟨full', params, hfull', hparams', hyields⟩ :=
      @yields_guardedCreation (applyClosure depthBound) _ hplain _ _ hguarded s
    cases hfull.symm.trans hfull'
    cases (hall _).symm.trans hparams'
    have hs : s.collections.has m.name = true := hs m.name rfl
    unfold Need.reply Need.fill
    by_cases hhas : s.indexes.has full = true
    · simpa only [hhas, if_true] using hyields
    · simpa only [hhas, hs, if_true, if_false, Bool.false_eq_true] using hyields

/-- **The two batches of declared models** make sure of what the models call for. -/
theorem exists_batches {models : List Model} (hdeclared : ∀ m ∈ models, m.Declared)
    (hplain : ∀ m ∈ models, m.indexes.PlainMetadata) :
    ∃ batches needs, prepare models = .ok batches ∧ indexNeeds models = .ok needs ∧
      List.Forall₂ Answers batches.collections (collectionNeeds models) ∧
      List.Forall₂ Answers batches.indexes needs ∧
      ∀ need ∈ needs, ∃ m ∈ models, need.source? = some m.name := by
  have heach : ∀ m ∈ models, ∃ queries needs,
      m.indexes.creations (.query m.collection) = .ok queries ∧
      m.indexes.names.mapM (indexNeed m) = .ok needs ∧
      List.Forall₂ (fun q need => Answers q need ∧ ∃ m ∈ models, need.source? = some m.name)
        queries needs := by
    intro m hm
    refine Except.exists_mapM_mapM fun name hname => ?_
    obtain ⟨q, need, hq, hneed, hanswers, hsource⟩ :=
      exists_answers_guardedCreation (hdeclared m hm) (hplain m hm) hname
    exact ⟨q, need, hq, hneed, hanswers, m, hm, hsource⟩
  obtain ⟨queries, needs, hqueries, hneeds, hall⟩ := Except.exists_mapM_mapM heach
  have hflat := List.rel_flatten hall
  refine ⟨⟨models.map collectionQuery, queries.flatten⟩, needs.flatten, ?_,
    Except.bind_eq_ok.2 ⟨needs, hneeds, rfl⟩, ?_, hflat.imp fun _ _ h => h.1, ?_⟩
  · exact Except.bind_eq_ok.2 ⟨_, Except.bind_eq_ok.2 ⟨queries, hqueries, rfl⟩, rfl⟩
  · refine List.forall₂_map_left_iff.2 (List.forall₂_map_right_iff.2 (List.forall₂_same.2 ?_))
    exact fun m _ => answers_collectionQuery m
  · intro need hneed
    obtain ⟨q, -, -, hsource⟩ := exists_mem_of_forall₂ hflat hneed
    exact hsource

/-- **A batch fills its needs**, and comes to null if they were met. -/
theorem exists_yieldsLast {queries : List Query} {needs : List Need}
    (h : List.Forall₂ Answers queries needs) (hs : ∀ need ∈ needs, need.Possible s)
    (last : Value) : ∃ v, YieldsLast (applyClosure depthBound) [] s last
        (queries.map Value.query) (.ok v) (filled needs s) ∧
      (last = .null → (∀ need ∈ needs, need.met s = true) → v = .null) := by
  induction h generalizing s last with
  | nil => exact ⟨last, YieldsLast.nil, fun hlast _ => hlast⟩
  | @cons q need queries needs hq _ ih =>
    obtain ⟨hneed, hneeds⟩ := List.forall_mem_cons.1 hs
    obtain ⟨v, hv, hnull⟩ := ih (s := need.fill s)
      (fun other hother => (hneeds other hother).fill need) (need.reply s)
    refine ⟨v, YieldsLast.cons (hq.yields s hneed) hv, fun _ hmet => ?_⟩
    obtain ⟨hfirst, hrest⟩ := List.forall_mem_cons.1 hmet
    refine hnull (Need.reply_of_met hfirst) fun other hother => ?_
    rw [Need.fill_of_met hfirst]
    exact hrest other hother

/-! ## Ending well -/

section Ending

variable {models : List Model} {t u : Store} {α β : Type} {a : α} {b : β}
  {action : Action (SetupState Memory) α} {next : α → Action (SetupState Memory) β}

/-- Some models are to be set up over a store, with a log whose metadata is a dictionary. -/
structure SetsUp (models : List Model) (s : Store) (state : SetupState Memory) : Prop where
  models_eq : state.members.map Attached.model = models
  store_eq : state.remote.store = s
  base : ∃ entries, state.logging.log.base = .dict entries

/-- Wherever the models are to be set up over one store, the action ends with a result and leaves them
to be set up over another. -/
def Ends (models : List Model) (s : Store) (action : Action (SetupState Memory) α) (a : α)
    (t : Store) : Prop :=
  ∀ state, SetsUp models s state →
    ∃ after, action.perform state = (.ok a, after) ∧ SetsUp models t after

theorem Ends.pure (a : α) : Ends models s (Pure.pure a) a s := fun state h => ⟨state, rfl, h⟩

theorem Ends.bind (h : Ends models s action a t) (hnext : Ends models t (next a) b u) :
    Ends models s (action >>= next) b u := by
  intro state hstate
  obtain ⟨mid, hmid, hsets⟩ := h state hstate
  obtain ⟨after, hafter, hdone⟩ := hnext mid hsets
  exact ⟨after, by rw [perform_bind_ok hmid, hafter], hdone⟩

theorem Ends.lift_bind {r : Except Fault α} (hr : r = .ok a) (hnext : Ends models s (next a) b t) :
    Ends models s (liftM r >>= next) b t := by
  intro state hstate
  obtain ⟨after, hafter, hdone⟩ := hnext state hstate
  exact ⟨after, by rw [hr, perform_bind_ok (perform_liftM _ _), hafter], hdone⟩

theorem Ends.onLog_add (severity : Severity) (message : String) {details : Value}
    (hdetails : details = .null ∨ ∃ d, details = .dict d) :
    Ends models s (onLog (Log.add severity message details)) () s := by
  intro state hstate
  obtain ⟨entries, hbase⟩ := hstate.base
  obtain ⟨after, hadd, hbase', -⟩ := Desk.perform_add hbase severity message hdetails
  refine ⟨{ state with logging := after }, ?_, ⟨hstate.models_eq, hstate.store_eq, _, hbase'⟩⟩
  rw [onLog, perform_zoom, hadd]

/-- A span begins under some number. -/
theorem Ends.onLog_beginSpan_bind {next : Nat → Action (SetupState Memory) β}
    {operation details : Value} (hnext : ∀ number, Ends models s (next number) b t) :
    Ends models s (onLog (Log.beginSpan operation details) >>= next) b t := by
  intro state hstate
  exact hnext state.logging.log.begun _ ⟨hstate.models_eq, hstate.store_eq, hstate.base⟩

theorem Ends.onLog_endSpan (number : Nat) :
    Ends models s (onLog (Log.endSpan number)) () s :=
  fun _ hstate => ⟨_, rfl, hstate.models_eq, hstate.store_eq, hstate.base⟩

/-- The executor evaluates a query over the store. -/
theorem Ends.query {q : Query} {v : Value} (options : Value)
    (hq : Yields (applyClosure depthBound) [] s (.query q) (.ok v) t) :
    Ends models s (onRemote (Memory.executor.query q options).attempt) (.ok v) t := by
  intro state hstate
  obtain ⟨after, hperform, hstore, -⟩ := Desk.perform_query q options state.remote
  rw [hstate.store_eq, perform_evaluate hq] at hperform hstore
  refine ⟨{ state with remote := after }, ?_, ⟨hstate.models_eq, hstore, hstate.base⟩⟩
  rw [onRemote, perform_zoom, perform_attempt, hperform]

/-- A batch of some queries is one query, which runs them in order. -/
theorem inOrder_queries {queries : List Query} (hne : queries ≠ []) :
    Query.inOrder (queries.map Value.query) = .ok (.sequence (queries.map Value.query)) := by
  cases queries with
  | nil => exact absurd rfl hne
  | cons => rfl

theorem ends_runBatch {queries : List Query} {needs : List Need} (operation : String)
    (names : List String) (hne : queries ≠ []) (h : List.Forall₂ Answers queries needs)
    (hs : ∀ need ∈ needs, need.Possible s) :
    ∃ v, Ends models s (runBatch Memory.executor operation queries names) v (filled needs s) ∧
      ((∀ need ∈ needs, need.met s = true) → v = .null) := by
  obtain ⟨v, hv, hnull⟩ := exists_yieldsLast h hs .null
  refine ⟨v, ?_, hnull rfl⟩
  have hsend : (Query.sequence (queries.map Value.query)).Sendable := by
    refine sendable_sequence.2 fun e he => ?_
    obtain ⟨q, hq, rfl⟩ := List.mem_map.1 he
    obtain ⟨need, -, hanswers⟩ := exists_mem_of_forall₂ h.flip hq
    exact Value.sendable_query.2 hanswers.sendable
  refine Ends.lift_bind (inOrder_queries hne) (Ends.lift_bind hsend.wire_eq ?_)
  refine Ends.bind (Ends.onLog_add _ _ (.inr ⟨_, rfl⟩)) (Ends.onLog_beginSpan_bind fun span => ?_)
  refine Ends.bind (Ends.query _ (Yields.sequence hv)) ?_
  exact Ends.bind (Ends.onLog_endSpan span)
    (Ends.bind (Ends.onLog_add _ _ (.inr ⟨_, rfl⟩)) (Ends.pure v))

/-- What was to be done is done in the end: the log says so, and the summary tells what came of it. -/
theorem ends_summary (names : List String) (collections indexes : Value) :
    Ends models s (do
      note "Setup done" names
      return ({ models := names, collections := collections, indexes := indexes } : SetupSummary))
      ⟨names, collections, indexes⟩ s :=
  Ends.bind (Ends.onLog_add _ _ (.inr ⟨_, rfl⟩)) (Ends.pure _)

/-- **Provisioning fills what models need**, and comes to nulls if nothing was lacking. -/
theorem ends_provision {batches : Batches} {needs : List Need} (names : List String)
    (hne : models ≠ []) (hbatches : prepare models = .ok batches)
    (hcollections : List.Forall₂ Answers batches.collections (collectionNeeds models))
    (hindexes : List.Forall₂ Answers batches.indexes needs)
    (hsources : ∀ need ∈ needs, ∃ m ∈ models, need.source? = some m.name) :
    ∃ collections indexes, Ends models s (provision Memory.executor models names)
        ⟨names, collections, indexes⟩ (filled (collectionNeeds models ++ needs) s) ∧
      ((∀ need ∈ collectionNeeds models ++ needs, need.met s = true) →
        collections = .null ∧ indexes = .null) := by
  have hnonempty : batches.collections ≠ [] := by
    intro hempty
    rw [hempty] at hcollections
    cases models with
    | nil => exact hne rfl
    | cons => cases hcollections
  have hpossible : ∀ need ∈ collectionNeeds models, need.Possible s := by
    intro need hneed source hsource
    obtain ⟨m, -, rfl⟩ := List.mem_map.1 hneed
    cases hsource
  obtain ⟨collections, hfirst, hnull⟩ :=
    ends_runBatch "setup:collections" names hnonempty hcollections hpossible
  have hreached : ∀ need ∈ needs, need.Possible (filled (collectionNeeds models) s) := by
    intro need hneed source hsource
    obtain ⟨m, hm, hname⟩ := hsources need hneed
    cases hname.symm.trans hsource
    exact met_filled_of_mem (List.mem_map_of_mem hm)
  rw [filled_append]
  by_cases hempty : batches.indexes = []
  · have hnone : needs = [] := by
      rw [hempty] at hindexes
      cases hindexes
      rfl
    refine ⟨collections, .null, ?_, fun hmet =>
      ⟨hnull fun need hneed => hmet need (List.mem_append_left _ hneed), rfl⟩⟩
    refine Ends.lift_bind hbatches (Ends.bind (Ends.onLog_add _ _ (.inr ⟨_, rfl⟩)) ?_)
    refine Ends.bind hfirst ?_
    rw [hempty, hnone]
    exact ends_summary names collections .null
  · obtain ⟨indexes, hsecond, hnull'⟩ :=
      ends_runBatch "setup:indexes" names hempty hindexes hreached
    refine ⟨collections, indexes, ?_, fun hmet => ?_⟩
    · refine Ends.lift_bind hbatches (Ends.bind (Ends.onLog_add _ _ (.inr ⟨_, rfl⟩)) ?_)
      refine Ends.bind hfirst ?_
      simp only [List.isEmpty_iff, hempty, if_false]
      exact Ends.bind hsecond (ends_summary names collections indexes)
    · have hbefore : ∀ need ∈ collectionNeeds models, need.met s = true :=
        fun need hneed => hmet need (List.mem_append_left _ hneed)
      rw [filled_of_met hbefore] at hnull'
      exact ⟨hnull hbefore, hnull' fun need hneed => hmet need (List.mem_append_right _ hneed)⟩

/-- **Setting up ends well and fills what the models need.** -/
theorem ends_run {batches : Batches} {needs : List Need} (echo : Bool) (hne : models ≠ [])
    (hbatches : prepare models = .ok batches)
    (hcollections : List.Forall₂ Answers batches.collections (collectionNeeds models))
    (hindexes : List.Forall₂ Answers batches.indexes needs)
    (hsources : ∀ need ∈ needs, ∃ m ∈ models, need.source? = some m.name) :
    ∃ collections indexes, Ends models s (run Memory.executor echo true)
        ⟨models.map Model.name, collections, indexes⟩
        (filled (collectionNeeds models ++ needs) s) ∧
      ((∀ need ∈ collectionNeeds models ++ needs, need.met s = true) →
        collections = .null ∧ indexes = .null) := by
  obtain ⟨collections, indexes, hprovision, hnull⟩ := ends_provision (s := s)
    (models.map Model.name) hne hbatches hcollections hindexes hsources
  refine ⟨collections, indexes, fun state hstate => ?_, hnull⟩
  have hmodels : (state.members.map (attach echo)).map Attached.model = models := by
    rw [List.map_map, ← hstate.models_eq]
    rfl
  obtain ⟨after, hafter, hdone⟩ := hprovision
    { state with members := state.members.map (attach echo) }
    ⟨hmodels, hstate.store_eq, hstate.base⟩
  refine ⟨after, ?_, hdone⟩
  have hnonempty : models.isEmpty = false := by simpa using hne
  rw [run, perform_bind, perform_modify]
  simp only [perform_bind, perform_get, hmodels, hnonempty, Bool.not_false, Bool.and_self, if_true]
  exact hafter

end Ending

/-! ## Completing a store -/

/-- The store after some queries, each performed for itself. -/
def performed (queries : List Query) (s : Store) : Store :=
  queries.foldl (fun s q => ((evaluate (.query q)).perform s).2) s

theorem performed_append (queries more : List Query) (s : Store) :
    performed (queries ++ more) s = performed more (performed queries s) := List.foldl_append

/-- Queries that make sure of needs fill them when each is performed for itself. -/
theorem performed_eq {queries : List Query} {needs : List Need}
    (h : List.Forall₂ Answers queries needs) (hs : ∀ need ∈ needs, need.Possible s) :
    performed queries s = filled needs s := by
  induction h generalizing s with
  | nil => rfl
  | @cons q need queries needs hq _ ih =>
    obtain ⟨hneed, hneeds⟩ := List.forall_mem_cons.1 hs
    have hfirst := perform_evaluate (hq.yields s hneed)
    show performed queries ((evaluate (.query q)).perform s).2 = filled needs (need.fill s)
    rw [hfirst]
    exact ih fun other hother => (hneeds other hother).fill need

section Prefix

variable {models : List Model} {batches : Batches} {needs : List Need}

/-- The first ones of the queries of two batches fill the first ones of the needs. -/
theorem exists_performed_eq
    (hcollections : List.Forall₂ Answers batches.collections (collectionNeeds models))
    (hindexes : List.Forall₂ Answers batches.indexes needs)
    (hsources : ∀ need ∈ needs, ∃ m ∈ models, need.source? = some m.name) {done : List Query}
    (hdone : done <+: batches.collections ++ batches.indexes) :
    ∃ first, first <+: collectionNeeds models ++ needs ∧ performed done s = filled first s := by
  have hpossible : ∀ need ∈ collectionNeeds models, need.Possible s := by
    intro need hneed source hsource
    obtain ⟨m, -, rfl⟩ := List.mem_map.1 hneed
    cases hsource
  obtain ⟨rest, hrest⟩ := hdone
  rcases List.append_eq_append_iff.1 hrest with ⟨more, hsplit, -⟩ | ⟨begun, rfl, hsplit⟩
  · have hfirst := List.forall₂_take done.length hcollections
    rw [hsplit, List.take_left] at hfirst
    refine ⟨_, (List.take_prefix _ _).trans (List.prefix_append _ _), performed_eq hfirst ?_⟩
    exact fun need hneed => hpossible need (List.mem_of_mem_take hneed)
  · have hsecond := List.forall₂_take begun.length hindexes
    rw [hsplit, List.take_left] at hsecond
    refine ⟨_, List.prefix_append_right_inj _ |>.2 (List.take_prefix begun.length needs), ?_⟩
    rw [performed_append, performed_eq hcollections hpossible, filled_append]
    refine performed_eq hsecond fun need hneed source hsource => ?_
    obtain ⟨m, hm, hname⟩ := hsources need (List.mem_of_mem_take hneed)
    cases hname.symm.trans hsource
    exact met_filled_of_mem (List.mem_map_of_mem hm)

end Prefix

/-- What declared models leave of a store that they are set up over: all of it, and behind that the
collections and the indexes that it lacked. -/
theorem filled_collectionNeeds_append {models : List Model} {needs : List Need}
    (hsources : ∀ need ∈ needs, ∃ m ∈ models, need.source? = some m.name) (s : Store) :
    filled (collectionNeeds models ++ needs) s = { s with
      collections := s.collections ++
        s.collections.lacking (models.map fun m => (.text m.name, []))
      indexes := s.indexes ++ s.indexes.lacking (needs.filterMap Need.index?) } := by
  have hcollections : (collectionNeeds models ++ needs).filterMap Need.collection? =
      models.map fun m => (.text m.name, []) := by
    have hnone : needs.filterMap Need.collection? = [] := by
      refine List.filterMap_eq_nil_iff.2 fun need hneed => ?_
      obtain ⟨m, -, hname⟩ := hsources need hneed
      cases need with
      | collection name => cases hname
      | index => rfl
    rw [List.filterMap_append, hnone, List.append_nil, collectionNeeds, List.filterMap_map]
    exact congrFun (List.filterMap_eq_map' (f := fun m : Model => (Key.text m.name, []))) models
  have hindexes : (collectionNeeds models ++ needs).filterMap Need.index? =
      needs.filterMap Need.index? := by
    have hnone : (collectionNeeds models).filterMap Need.index? = [] := by
      refine List.filterMap_eq_nil_iff.2 fun need hneed => ?_
      obtain ⟨m, -, rfl⟩ := List.mem_map.1 hneed
      rfl
    rw [List.filterMap_append, hnone, List.nil_append]
  rw [filled_eq, hcollections, hindexes]

/-- **Setting up completes a store.** Over any store and for any models, of which several may have one
name and one may come twice, it ends well. What was there stays, and behind it comes what was
lacking: of each name an empty collection, and of each full name the index that the first definition
with it says. Setting up once more changes nothing and comes to nulls; and where some of the queries
of the two batches, from the first one on, have been performed already, setting up comes to the same
store. -/
theorem setup_completes_store {models : List Model} (hne : models ≠ [])
    (hdeclared : ∀ m ∈ models, m.Declared) (hplain : ∀ m ∈ models, m.indexes.PlainMetadata)
    (echo : Bool) (s : Store) :
    ∃ batches needs t, prepare models = .ok batches ∧ indexNeeds models = .ok needs ∧
      t = { s with
        collections := s.collections ++
          s.collections.lacking (models.map fun m => (.text m.name, []))
        indexes := s.indexes ++ s.indexes.lacking (needs.filterMap Need.index?) } ∧
      (∃ summary, Ends models s (run Memory.executor echo true) summary t) ∧
      Ends models t (run Memory.executor echo true)
        { models := models.map Model.name, collections := .null, indexes := .null } t ∧
      ∀ done, done <+: batches.collections ++ batches.indexes →
        ∃ summary, Ends models (performed done s) (run Memory.executor echo true) summary t := by
  obtain ⟨batches, needs, hbatches, hneeds, hcollections, hindexes, hsources⟩ :=
    exists_batches hdeclared hplain
  have hends := fun s => ends_run (s := s) echo hne hbatches hcollections hindexes hsources
  refine ⟨batches, needs, filled (collectionNeeds models ++ needs) s, hbatches, hneeds,
    filled_collectionNeeds_append hsources s, ?_, ?_, fun done hdone => ?_⟩
  · obtain ⟨collections, indexes, hrun, -⟩ := hends s
    exact ⟨_, hrun⟩
  · obtain ⟨collections, indexes, hrun, hnull⟩ :=
      hends (filled (collectionNeeds models ++ needs) s)
    have hmet : ∀ need ∈ collectionNeeds models ++ needs,
        need.met (filled (collectionNeeds models ++ needs) s) = true :=
      fun need hneed => met_filled_of_mem hneed
    obtain ⟨rfl, rfl⟩ := hnull hmet
    rwa [filled_of_met hmet] at hrun
  · obtain ⟨first, hfirst, hperformed⟩ :=
      exists_performed_eq (s := s) hcollections hindexes hsources hdone
    obtain ⟨collections, indexes, hrun, -⟩ := hends (filled first s)
    rw [filled_filled_of_initial hfirst] at hrun
    exact ⟨_, hperformed ▸ hrun⟩

/-! ## Notes -/

/-- A model of notes with an index by their texts. -/
def noteModel (name index : String) (metadata : Option (Dict Value)) : Model where
  name := name
  schema := { name := "Note", fields := [({ name := "text" }, .text)] }
  indexes :=
    { definitions := [(.text index, { terms := [.text "data.text"], data := metadata })]
      owner := some name }

/-- Two models whose indexes have one full name, the first of them twice. -/
def twinModels : List Model :=
  [noteModel "a" "b-c" none, noteModel "a-b" "c" none, noteModel "a" "b-c" none]

theorem twinModels_declared : ∀ m ∈ twinModels, m.Declared := by
  simp only [twinModels, List.forall_mem_cons, List.not_mem_nil, false_implies, implies_true,
    and_true]
  exact ⟨⟨(noteModel "a" "b-c" none).indexes, rfl⟩, ⟨(noteModel "a-b" "c" none).indexes, rfl⟩,
    ⟨(noteModel "a" "b-c" none).indexes, rfl⟩⟩

/-- A store that has the first of the collections already, with a document. -/
def heldStore : Store := (({} : Store).addCollection "a").insert "a" (.dict []) .null |>.1

theorem setup_completes_store_sample :
    ∃ summary t, Ends twinModels heldStore (run Memory.executor false true) summary t ∧
      t.documents "a" = heldStore.documents "a" ∧ t.collections.keys = ["a", "a-b"] ∧
      t.indexes.keys = ["a-b-c"] ∧
      Ends twinModels t (run Memory.executor false true) { models := ["a", "a-b", "a"] } t := by
  have hplain : ∀ m ∈ twinModels, m.indexes.PlainMetadata := by
    simp [twinModels, noteModel, IndexCatalog.PlainMetadata]
  obtain ⟨batches, needs, t, -, hneeds, ht, ⟨summary, hrun⟩, hagain, -⟩ :=
    setup_completes_store (by simp [twinModels]) twinModels_declared hplain false heldStore
  have hindexes : t.indexes.keys = ["a-b-c"] := by
    have hkeys : (indexNeeds twinModels).toOption.map (fun needs =>
        (heldStore.indexes ++ heldStore.indexes.lacking (needs.filterMap Need.index?)).keys) =
          some [Key.text "a-b-c"] := rfl
    rw [hneeds] at hkeys
    rw [ht]
    exact Option.some.inj hkeys
  exact ⟨summary, t, hrun, by rw [ht]; rfl, by rw [ht]; rfl, hindexes, hagain⟩

/-- The metadata of an index, with a query in it that is never completed. -/
def abortingMetadata : Dict Value := [(.text "origin", .query (.abort (.text "no")))]

/-- Setting up performs the queries in the metadata of an index, and fails with them. -/
theorem setup_not_completed_sample :
    (noteModel "notes" "by_text" (some abortingMetadata)).Declared ∧
      ¬ ∃ summary t, Ends [noteModel "notes" "by_text" (some abortingMetadata)] {}
        (run Memory.executor false true) summary t := by
  refine ⟨⟨(noteModel "notes" "by_text" (some abortingMetadata)).indexes, rfl⟩, ?_⟩
  rintro ⟨summary, t, hends⟩
  let m := noteModel "notes" "by_text" (some abortingMetadata)
  obtain ⟨after, hrun, -⟩ := hends
    { remote := {}, logging := ⟨newLog false, {}⟩, members := [{ model := m, log := m.newLog }] }
    ⟨rfl, rfl, [], rfl⟩
  have hfails : ((run Memory.executor false true).perform
      { remote := {}, logging := ⟨newLog false, {}⟩,
        members := [{ model := m, log := m.newLog }] }).1.toBool = false := by
    decide +kernel
  rw [hrun] at hfails
  cases hfails

end Setup

end DocMapper
