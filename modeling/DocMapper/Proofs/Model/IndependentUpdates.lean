import DocMapper.Proofs.Model.Updates
import DocMapper.Proofs.Setup.IndexLayouts
import DocMapper.Proofs.Value.Independent
/-!
# Updates that do not meet

Where no unique index is over a collection (`Store.Unguarded`), as none is if none is declared
(`Setup.unguarded_freshStore`), every update of a document of it goes through, and leaves the data
patched. So a run of updates of one document leaves its data with all patches applied one after
another (`Model.Run.patched`). If no two of the patches have a key in common, the order of the run
decides no more than the order of the entries (`Model.independent_updates_commute`).
-/

namespace DocMapper

/-! ## Collections without unique indexes -/

/-- The index keeps no documents of the collection apart: it is not unique, or over another one. -/
def IndexParams.Spares (params : IndexParams) (c : String) : Prop :=
  ∃ v, params.required "unique" = .ok v ∧
    (v.truthy = true → ∃ c', params.source = .ok c' ∧ c' ≠ c)

namespace Store

/-- No unique index is over the collection. -/
def Unguarded (s : Store) (c : String) : Prop :=
  ∀ params ∈ s.indexes.values, IndexParams.Spares params c

variable {s : Store} {c : String}

theorem checkIndex_of_spares {params : IndexParams} (h : params.Spares c) (data : Value)
    (own : Option String) : s.checkIndex c data own params = .ok () := by
  obtain ⟨v, hv, hsource⟩ := h
  refine Except.bind_eq_ok.2 ⟨v, hv, ?_⟩
  by_cases htruthy : v.truthy = true
  · obtain ⟨c', hc', hne⟩ := hsource htruthy
    rw [if_neg (by simp [htruthy])]
    exact Except.bind_eq_ok.2 ⟨c', hc', if_pos hne⟩
  · rw [if_pos (by simp [htruthy])]
    rfl

/-- **Data of a collection without unique indexes** is never refused. -/
theorem Unguarded.checkUnique (h : s.Unguarded c) (data : Value) (own : Option String) :
    s.checkUnique c data own = .ok () := by
  have hall : ∀ all : List IndexParams, (∀ params ∈ all, params.Spares c) →
      all.forM (s.checkIndex c data own) = .ok () := by
    intro all hspares
    induction all with
    | nil => rfl
    | cons params rest ih =>
      obtain ⟨hparams, hrest⟩ := List.forall_mem_cons.1 hspares
      exact Except.bind_eq_ok.2 ⟨(), checkIndex_of_spares hparams data own, ih hrest⟩
  exact hall _ h

end Store

namespace Setup

open Store

variable {c : String}

/-- The parameters of an index that is not unique say so. -/
theorem spares_of_creationParams {m : Model} {name : Value} {params : Dict Value}
    (h : m.indexes.creationParams name (.ref (collectionRef m.name)) = .ok params)
    (hunique : m.name = c → ∀ e ∈ m.indexes.definitions, e.2.unique = false) :
    IndexParams.Spares (params.map fun e => (e.1, e.2.settled)) c := by
  obtain ⟨full, hfull, h'⟩ := Except.bind_eq_ok.1 h
  obtain ⟨d, hd, h'⟩ := Except.bind_eq_ok.1 h'
  obtain ⟨shown, hshown, h'⟩ := Except.bind_eq_ok.1 h'
  obtain ⟨terms, hterms, -⟩ := Except.bind_eq_ok.1 h'
  have hparams := IndexCatalog.creationParams_eq hfull hd hshown hterms
    (.ref (collectionRef m.name))
  rw [h, Except.ok.injEq] at hparams
  refine ⟨.bool d.unique, IndexParams.required_of_get? ?_, fun htruthy => ⟨m.name,
    IndexParams.source_of_get? ?_, fun hname => ?_⟩⟩
  · rw [Dict.get?_map, hparams]
    simp [Dict.get?, IndexCatalog.otherParams, Value.settled]
  · rw [Dict.get?_map, hparams]
    simp [Dict.get?, Value.settled]
  · obtain ⟨found, hfound, hfoundEq⟩ := Except.bind_eq_ok.1 hd
    cases found with
    | none => cases hfoundEq
    | some d' =>
      cases hfoundEq
      obtain ⟨k, hmem⟩ := Value.exists_mem_of_find hfound
      rw [hunique hname _ hmem] at htruthy
      cases htruthy

/-- **Where no model declares a unique index for a collection**, setting the models up over an empty
store puts none over it. -/
theorem unguarded_freshStore {echo create : Bool} {logging : Logging} {members : List Attached}
    (hplain : ∀ a ∈ members, a.model.indexes.PlainMetadata)
    (hunique : ∀ a ∈ members, a.model.name = c →
      ∀ e ∈ a.model.indexes.definitions, e.2.unique = false) :
    (freshStore echo create logging members).Unguarded c := by
  refine keeps_run (P := fun s => s.Unguarded c) (fun _ _ hs => hs) ?_ hplain
    (by simp [Store.Unguarded, Dict.values])
  intro m hm name hname full params hfull hparams s hs hnone stored hstored
  obtain ⟨a, ha, rfl⟩ := List.mem_map.1 hm
  obtain ⟨e, he, rfl⟩ := List.mem_map.1 hstored
  rcases Dict.mem_put he with ⟨hvalue, -⟩ | hmem
  · rw [hvalue]
    exact spares_of_creationParams hparams (hunique a ha)
  · exact hs _ (List.mem_map_of_mem hmem)

end Setup

namespace Model

open Store

variable {m : Model} {id : Value} {c i : String} {start : Store} {steps : List Step}
  {doc : StoredDocument} {old patch : Dict Value} {order : List (Dict Value)}

/-! ## Runs of updates -/

/-- The update of a document by a patch. -/
def patching (id : Value) (patch : Dict Value) : Edit := .write .update id (.dict patch)

/-- **A step that updates a document** patches its data, if no unique index is over its
collection. -/
theorem after_patching {step : Step} (hready : step.desk.Ready) (hdata : step.edit.IsData)
    (hmodel : step.model = m) (hedit : step.edit = patching id patch)
    (hid : m.place? id = some (c, i)) (hunguarded : step.before.Unguarded c)
    (hfind : step.before.find c i = some doc) (hdoc : doc.data = .dict old) :
    ∃ new, step.after.find c i = some new ∧
      new.data = .dict (Value.patchEntries old (Value.settledEntries patch)) ∧
      step.after.Unguarded c := by
  have hplain : (Value.dict patch).IsData := by
    rw [hedit] at hdata
    exact hdata.2
  obtain ⟨out, q, hruns⟩ := runs_update hready hid hfind hplain.plain
    (hunguarded.checkUnique _ _)
  have hafter : step.after = step.before.putRewritten c i doc
      (doc.data.patch (Value.dict patch).settled) := by
    rw [Step.after, Edit.storeAfter, hedit, hmodel]
    exact (hruns.map Option.toList).store_eq
  rw [hafter]
  refine ⟨_, find_putRewritten .., ?_, hunguarded⟩
  rw [rewritten, hdoc, Value.patch, Value.settled, Value.patchAt_dict]

/-- **A run of updates of one document** leaves its data with all patches applied, one after
another. -/
theorem Run.patched (hrun : Run start steps) (hid : m.place? id = some (c, i))
    (hunguarded : start.Unguarded c) (hfind : start.find c i = some doc)
    (hdoc : doc.data = .dict old) (hmodel : ∀ step ∈ steps, step.model = m)
    (horder : steps.map Step.edit = order.map (patching id)) :
    ∃ new, (lastStore start steps).find c i = some new ∧
      new.data = .dict (Value.patchEntries old (Value.settledEntries order.flatten)) ∧
      (lastStore start steps).Unguarded c := by
  induction hrun generalizing order with
  | nil =>
    cases List.map_eq_nil_iff.1 horder.symm
    exact ⟨doc, hfind, by simpa [Value.settledEntries, Value.patchEntries] using hdoc, hunguarded⟩
  | @snoc steps step run ready store data handle ih =>
    rw [List.map_append] at horder
    obtain ⟨before, last, rfl, hbefore, hlast⟩ := List.append_eq_map_iff.1 horder
    obtain ⟨patch, rfl, hedit⟩ := List.map_eq_singleton_iff.1 hlast
    obtain ⟨held, hheld, hheldData, hstill⟩ :=
      ih (fun step hmem => hmodel step (List.mem_append_left _ hmem)) hbefore.symm
    rw [← store] at hheld hstill
    have hstep := after_patching ready data (hmodel step (by simp)) hedit.symm hid hstill hheld
      hheldData
    have hend : lastStore start (steps ++ [step]) = step.after := by simp [lastStore]
    rw [hend, List.flatten_append, Value.settledEntries_append, Value.patchEntries_append]
    simpa using hstep

/-- **Updates that do not meet can be made in any order, and none is lost.** Where no unique index is
over the collection of a document, updates of it by patches that have no key in common leave the same
data in whatever order they are made, apart from the order of its entries: under the keys of each
patch what it leaves if it is applied alone, and under all other keys what was there. -/
theorem independent_updates_commute (m : Model) {id : Value} {c i : String}
    (hid : m.place? id = some (c, i)) {start : Store} (hunguarded : start.Unguarded c)
    {doc : StoredDocument} (hfind : start.find c i = some doc) {old : Dict Value}
    (hdoc : doc.data = .dict old) (hold : old.Distinct) {patches : List (Dict Value)}
    (hpatches : ∀ p ∈ patches, (Value.dict p).IsData) (hdisjoint : patches.Pairwise Dict.Disjoint) :
    ∃ merged : Dict Value, merged.Distinct ∧
      (∀ p ∈ patches, ∀ key, p.has key = true → ∃ alone : Dict Value,
        (Value.dict old).patch (Value.dict p).settled = .dict alone ∧
          merged.get? key = alone.get? key) ∧
      (∀ key, (∀ p ∈ patches, p.has key = false) → merged.get? key = old.get? key) ∧
      ∀ (order : List (Dict Value)) (steps : List Step), order.Perm patches →
        Run start steps → (∀ step ∈ steps, step.model = m) →
        steps.map Step.edit = order.map (patching id) →
          ∃ new data, (lastStore start steps).find c i = some new ∧ new.data = .dict data ∧
            data.Perm merged := by
  have hdistinct : ∀ p ∈ patches, p.Distinct := fun p hp =>
    (Value.isData_dict.1 (hpatches p hp)).1
  have hall : Dict.Distinct patches.flatten := Dict.distinct_flatten hdistinct hdisjoint
  have hleft : ∀ key, Dict.get? (Value.patchEntries old (Value.settledEntries patches.flatten)) key =
      Value.patchedAt (old.get? key) ((Dict.get? patches.flatten key).map Value.settled) := by
    intro key
    rw [Value.get?_patchEntries hold (Value.distinct_settledEntries hall), Value.get?_settledEntries]
  refine ⟨Value.patchEntries old (Value.settledEntries patches.flatten),
    Value.distinct_patchEntries hold _, fun p hp key hkey => ?_, fun key hkey => ?_,
    fun order steps horder hrun hmodel hedits => ?_⟩
  · refine ⟨Value.patchEntries old (Value.settledEntries p), ?_, ?_⟩
    · rw [Value.patch, Value.settled, Value.patchAt_dict]
    · rw [hleft, Dict.get?_flatten hdisjoint hp hkey,
        Value.get?_patchEntries hold (Value.distinct_settledEntries (hdistinct p hp)),
        Value.get?_settledEntries]
  · rw [hleft, Dict.get?_flatten_of_forall hkey]
    rfl
  · obtain ⟨new, hnew, hdata, -⟩ := hrun.patched hid hunguarded hfind hdoc hmodel hedits
    refine ⟨new, _, hnew, hdata, ?_⟩
    have hperm : (Value.settledEntries order.flatten).Perm
        (Value.settledEntries patches.flatten) := by
      rw [Value.settledEntries_eq_map, Value.settledEntries_eq_map]
      exact horder.flatten.map _
    exact (Value.perm_patchEntries hperm.symm (Value.distinct_settledEntries hall) hold).symm

theorem edits_of_following {m : Model} {s : Store} {edits : List Edit} :
    (m.following s edits).map Step.edit = edits := by
  induction edits generalizing s with
  | nil => rfl
  | cons edit rest ih => exact congrArg (edit :: ·) ih

/-- A new name for a person, and the removal of the age. -/
def personPatches : List (Dict Value) := [[(.text "name", .text "Eve")], [(.text "age", .null)]]

theorem independent_updates_commute_sample : ∃ merged : Dict Value,
    merged.get? "name" = some (.text "Eve") ∧ merged.get? "age" = none ∧
    ∀ order : List (Dict Value), order.Perm personPatches → ∃ new data,
      (lastStore sampleStore (sampleModel.following sampleStore
        (order.map (patching (.text "7"))))).find "users" "7" = some new ∧
      new.data = .dict data ∧ data.Perm merged := by
  have hplace : sampleModel.place? (.text "7") = some ("users", "7") := rfl
  have hunguarded : sampleStore.Unguarded "users" := fun params hparams =>
    absurd (show params ∈ ([] : List IndexParams) from hparams) List.not_mem_nil
  have hdata : ∀ p ∈ personPatches, (Value.dict p).IsData := by
    have hnull : Value.IsData .null := ⟨rfl, trivial⟩
    exact List.forall_mem_cons.2 ⟨Value.isData_single (Value.isData_text "Eve") _,
      List.forall_mem_singleton.2 (Value.isData_single hnull _)⟩
  have hdisjoint : personPatches.Pairwise Dict.Disjoint := by
    refine List.pairwise_pair.2 fun key hkey => ?_
    have hname : Key.same "name" key = true := by simpa [Dict.has, Dict.get?] using hkey
    simp [Dict.has, Dict.get?, ← Key.same_comm key, ← Key.same_congr hname]
  obtain ⟨merged, -, halone, -, hruns⟩ := independent_updates_commute sampleModel hplace
    hunguarded rfl rfl (Dict.distinct_ofEntries _) hdata hdisjoint
  obtain ⟨named, hnamed, hname⟩ := halone _ List.mem_cons_self "name" rfl
  obtain ⟨ageless, hageless, hage⟩ := halone _ (List.mem_cons_of_mem _ List.mem_cons_self) "age" rfl
  cases hnamed
  cases hageless
  refine ⟨merged, hname, hage, fun order horder => hruns order _ horder ?_ model_of_following
    edits_of_following⟩
  refine run_following (List.forall_mem_map.2 fun p hp => ?_) (List.forall_mem_map.2 fun _ _ => rfl)
  exact ⟨Value.isData_text "7", hdata p (horder.mem_iff.1 hp)⟩

end Model

end DocMapper
