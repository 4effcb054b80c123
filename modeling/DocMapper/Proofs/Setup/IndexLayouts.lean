import DocMapper.Proofs.Setup.Provisioning
import DocMapper.Proofs.Store.Lookups
/-!
# Indexes as they are set up

The definition of an index lays it out: its paths are resolved, and its values keep their order and
their directions (`IndexCatalog.layout`). A store provides an index of a model if it has it under
its full name, laid out in that way (`Model.Provides`). Every index that setting up creates is
provided for the model that defines it (`Setup.provides_of_run`), and no change of the documents
takes it away (`Model.Provides.of_did`).
-/

namespace DocMapper

open Store
open IndexCatalog (keysValue valueField)

/-! ## Stored parameters -/

namespace Value

/-- A list of values that stay as they are stays as it is. -/
theorem settled_list_of_forall {items : List Value} (h : ∀ v ∈ items, v.settled = v) :
    (list items).settled = list items := by
  rw [settled, settledList_eq_map, List.map_congr_left h, List.map_id']

@[simp] theorem settled_keysValue (keys : List String) :
    (keysValue keys).settled = keysValue keys := by
  refine settled_list_of_forall fun v hv => ?_
  obtain ⟨key, -, rfl⟩ := List.mem_map.1 hv
  rfl

@[simp] theorem settled_field (keys : List String) :
    (object [("field", keysValue keys)]).settled = object [("field", keysValue keys)] := by
  have hobject : object [("field", keysValue keys)] = .dict [(.text "field", keysValue keys)] := rfl
  rw [hobject, settled, settledEntries_eq_map]
  simp

@[simp] theorem settled_valueField (keys : List String) (reverse : Bool) :
    (valueField keys reverse).settled = valueField keys reverse := by
  have hfield : valueField keys reverse =
      .dict [(.text "field", keysValue keys), (.text "reverse", .bool reverse)] := rfl
  rw [hfield, settled, settledEntries_eq_map]
  simp [settled]

end Value

namespace IndexParams

variable {params : IndexParams} {v : Value}

theorem required_of_get? {name : String} (h : params.get? (.text name) = some v) :
    params.required name = .ok v := by
  have hfind : Value.find params (.text name) = .ok (params.get? (.text name)) := rfl
  rw [required, Value.subscript, hfind, h]
  rfl

theorem source_of_get? {source : String}
    (h : params.get? (.text "source") = some (.ref (collectionRef source))) :
    params.source = .ok source := by
  rw [IndexParams.source, required_of_get? h]
  rfl

theorem termPaths_of_get? {terms : List (List String)}
    (h : params.get? (.text "terms") =
      some (.list (terms.map fun keys => .object [("field", keysValue keys)]))) :
    params.termPaths = .ok (terms.map keysValue) := by
  rw [termPaths, required_of_get? h]
  refine (List.mapM_map).trans (Except.mapM_eq_map fun keys _ => rfl)

theorem values_of_get? {shown : List Value}
    (h : params.get? (.text "values") = some (.list shown)) : params.values = .ok shown := by
  have hlookup : Value.lookup params "values" = .list shown :=
    congrArg (fun found => found.getD Value.null) h
  rw [IndexParams.values, hlookup]
  cases shown <;> rfl

end IndexParams

/-! ## Layouts of definitions -/

namespace IndexCatalog

variable {c : IndexCatalog} {name : Value} {l : IndexLayout}

/-- How an index of the catalog is laid out over a collection. -/
def layout (c : IndexCatalog) (name : Value) (source : String) : Except Fault IndexLayout := do
  let d ← c.get name
  let terms ← d.terms.mapM resolvePath
  let values ← d.values.mapM fun v => do return (← resolvePath v.field, v.reverse)
  return ⟨source, terms, values⟩

/-- What a layout says is what the parameters of the index are made from. -/
theorem exists_of_layout {source : String} (h : c.layout name source = .ok l) :
    l.source = source ∧ ∃ d, c.get name = .ok d ∧ c.termPaths name = .ok l.terms ∧
      c.valueFields name = .ok (l.values.map fun f => valueField f.1 f.2) ∧
      d.values.length = l.values.length := by
  obtain ⟨d, hd, h⟩ := Except.bind_eq_ok.1 h
  obtain ⟨terms, hterms, h⟩ := Except.bind_eq_ok.1 h
  obtain ⟨values, hvalues, h⟩ := Except.bind_eq_ok.1 h
  cases h
  have hfields := Except.mapM_eq_ok.1 hvalues
  refine ⟨rfl, d, hd, Except.bind_eq_ok.2 ⟨d, hd, hterms⟩, Except.bind_eq_ok.2 ⟨d, hd, ?_⟩,
    hfields.length_eq⟩
  refine Except.mapM_eq_ok.2 (List.forall₂_map_right_iff.2 (hfields.imp fun v f hv => ?_))
  obtain ⟨keys, hkeys, hf⟩ := Except.bind_eq_ok.1 hv
  cases hf
  exact Except.bind_eq_ok.2 ⟨keys, hkeys, rfl⟩

/-- The reference in an entry follows the values, if the index shows any. -/
theorem refPosition_of_layout {source : String} (h : c.layout name source = .ok l) :
    c.refPosition name = .ok (if l.values = [] then none else some l.values.length) := by
  obtain ⟨-, d, hd, -, -, hlen⟩ := exists_of_layout h
  have hempty : d.values.isEmpty = true ↔ l.values = [] := by
    rw [List.isEmpty_iff, ← List.length_eq_zero_iff, hlen, List.length_eq_zero_iff]
  refine Except.bind_eq_ok.2 ⟨d, hd, ?_⟩
  simp only [hempty, hlen]
  rfl

/-- An index whose parameters can be made has a layout. -/
theorem exists_layout_of_creationParams {v : Value} {params : Dict Value}
    (h : c.creationParams name v = .ok params) (source : String) :
    ∃ l, c.layout name source = .ok l := by
  obtain ⟨full, hfull, h⟩ := Except.bind_eq_ok.1 h
  obtain ⟨d, hd, h⟩ := Except.bind_eq_ok.1 h
  obtain ⟨shown, hshown, h⟩ := Except.bind_eq_ok.1 h
  obtain ⟨terms, hterms, -⟩ := Except.bind_eq_ok.1 h
  obtain ⟨d', hd', hvalues⟩ := Except.bind_eq_ok.1 hshown
  cases hd.symm.trans hd'
  obtain ⟨d', hd', hpaths⟩ := Except.bind_eq_ok.1 hterms
  cases hd.symm.trans hd'
  have hresolved : ∀ value ∈ d.values, ∃ f : List String × Bool,
      (do return (← resolvePath value.field, value.reverse)) = Except.ok (ε := Fault) f := by
    intro value hvalue
    obtain ⟨field, -, hfield⟩ := exists_mem_of_forall₂ (Except.mapM_eq_ok.1 hvalues).flip hvalue
    obtain ⟨keys, hkeys, -⟩ := Except.bind_eq_ok.1 hfield
    exact ⟨_, Except.bind_eq_ok.2 ⟨keys, hkeys, rfl⟩⟩
  obtain ⟨values, hall⟩ := exists_forall₂ hresolved
  exact ⟨_, Except.bind_eq_ok.2 ⟨d, hd, Except.bind_eq_ok.2 ⟨terms, hpaths,
    Except.bind_eq_ok.2 ⟨values, Except.mapM_eq_ok.2 hall, rfl⟩⟩⟩⟩

/-- **Parameters that agree with those of a definition lay the index out as it says.** -/
theorem laysOut_of_layout {source : String} (h : c.layout name source = .ok l)
    {params : Dict Value}
    (hparams : c.creationParams name (.ref (collectionRef source)) = .ok params)
    {stored : IndexParams} (hstored : ∀ key ∈ ["source", "terms", "values"],
      stored.get? (.text key) = (params.get? (.text key)).map Value.settled) :
    stored.LaysOut l := by
  obtain ⟨rfl, d, hd, hterms, hvalues, -⟩ := exists_of_layout h
  obtain ⟨full, hfull, -⟩ := Except.bind_eq_ok.1 hparams
  rw [creationParams_eq hfull hd hvalues hterms] at hparams
  cases hparams
  constructor
  · refine IndexParams.source_of_get? ?_
    rw [hstored _ (by simp)]
    rfl
  · refine IndexParams.termPaths_of_get? ?_
    rw [hstored _ (by simp)]
    refine congrArg some (Value.settled_list_of_forall fun v hv => ?_)
    obtain ⟨keys, -, rfl⟩ := List.mem_map.1 hv
    exact Value.settled_field keys
  · refine IndexParams.values_of_get? ?_
    rw [hstored _ (by simp)]
    have hempty : (l.values.map fun f => valueField f.1 f.2).isEmpty = l.values.isEmpty := by simp
    have hfields : (l.fields.map fun f => valueField f.1 f.2) =
        (l.values.map fun f => valueField f.1 f.2) ++ [valueField ["ref"] false] := by
      simp [IndexLayout.fields, IndexLayout.refField]
    rw [hfields, ← hempty]
    refine congrArg some (Value.settled_list_of_forall fun v hv => ?_)
    split at hv
    · cases hv
    · rw [← hfields] at hv
      obtain ⟨f, -, rfl⟩ := List.mem_map.1 hv
      exact Value.settled_valueField f.1 f.2

end IndexCatalog

/-! ## Indexes of a store -/

/-- The store has an index of the model as its definition says, as far as lookups go by it. -/
def Model.Provides (m : Model) (s : Store) (name : Value) : Prop :=
  ∃ (full : String) (params : Dict Value) (stored : IndexParams),
    m.indexes.fullName name = .ok full ∧
    m.indexes.creationParams name (.ref (collectionRef m.name)) = .ok params ∧
    s.indexes.get? full = some stored ∧ ∀ key ∈ ["source", "terms", "values"],
      stored.get? (.text key) = (params.get? (.text key)).map Value.settled

namespace Model

variable {m : Model} {s t : Store} {name : Value} {l : IndexLayout} {full : String}

/-- **An index that is provided is laid out as its definition says.** -/
theorem Provides.exists_laysOut (h : m.Provides s name)
    (hl : m.indexes.layout name m.name = .ok l) :
    ∃ (full : String) (stored : IndexParams), m.indexes.fullName name = .ok full ∧
      s.indexes.get? full = some stored ∧ stored.LaysOut l := by
  obtain ⟨full, params, stored, hfull, hparams, hget, hstored⟩ := h
  exact ⟨full, stored, hfull, hget, IndexCatalog.laysOut_of_layout hl hparams hstored⟩

/-- **Changes of documents leave indexes as they are.** -/
theorem Provides.of_did {change : Change} (hdid : change.Did s t) (h : m.Provides s name) :
    m.Provides t name := by
  rwa [Provides, hdid.indexes_eq]

/-- An index that has been added as its definition says is provided. -/
theorem provides_addIndex {params : Dict Value} (hfull : m.indexes.fullName name = .ok full)
    (hparams : m.indexes.creationParams name (.ref (collectionRef m.name)) = .ok params) :
    m.Provides (s.addIndex full (params.map fun e => (e.1, e.2.settled))) name :=
  ⟨full, params, _, hfull, hparams, Dict.get?_put_self _ _ _, fun _ _ => Dict.get?_map _ _ _⟩

/-- One more index takes none away. -/
theorem Provides.addIndex (h : m.Provides s name) (hnone : s.indexes.has full = false)
    (added : IndexParams) : m.Provides (s.addIndex full added) name := by
  obtain ⟨own, params, stored, hown, hparams, hget, hstored⟩ := h
  refine ⟨own, params, stored, hown, hparams, ?_, hstored⟩
  have hne : full ≠ own := by
    rintro rfl
    simp [Dict.has, hget] at hnone
  exact (Dict.get?_put_of_not_same _ _ (by simpa using hne)).trans hget

end Model

namespace Setup

/-- Every index of a store was there before, or is provided for a model that defines it. -/
def Defined (models : List Model) (before s : Store) : Prop :=
  ∀ (full : String) (stored : IndexParams), s.indexes.get? full = some stored →
    before.indexes.get? full = some stored ∨
      ∃ m ∈ models, ∃ name ∈ m.indexes.names, m.indexes.fullName name = .ok full ∧
        m.Provides s name

theorem keptByIndexes_defined (models : List Model) (before : Store) :
    KeptByIndexes (Defined models before) models := by
  intro m hm name hname full params hfull hparams s hs hnone other stored hstored
  by_cases hsame : full = other
  · subst hsame
    exact Or.inr ⟨m, hm, name, hname, hfull, Model.provides_addIndex hfull hparams⟩
  · have hget : s.indexes.get? other = some stored := by
      rw [← hstored]
      exact (Dict.get?_put_of_not_same _ _ (by simpa using hsame)).symm
    refine (hs other stored hget).imp_right ?_
    rintro ⟨m', hm', name', hname', hother, hprovides⟩
    exact ⟨m', hm', name', hname', hother, hprovides.addIndex hnone _⟩

/-- **Every index that setting up creates is as the definition of a model says.** -/
theorem defined_run (echo create : Bool) (state : SetupState Memory)
    (hm : ∀ a ∈ state.members, a.model.indexes.PlainMetadata) :
    Defined (state.members.map Attached.model) state.remote.store
      ((run Memory.executor echo create).perform state).2.remote.store :=
  keeps_run (fun _ _ hs => hs) (keptByIndexes_defined _ _) hm fun _ _ => Or.inl

/-- **Setting one model up provides the indexes that it creates**, if their names are told apart by
their texts. -/
theorem provides_storeOf {m : Model} (hm : m.indexes.PlainMetadata) {name : Value} {full : String}
    (hfull : m.indexes.fullName name = .ok full) (hhas : (storeOf m).indexes.has full = true)
    (hname : ∀ other ∈ m.indexes.names, m.indexes.fullName other = .ok full → other = name) :
    m.Provides (storeOf m) name := by
  have hdefined : Defined [m] {} (storeOf m) :=
    defined_run false true ⟨{}, ⟨newLog false, {}⟩, [{ model := m, log := m.newLog }]⟩
      (by simpa using hm)
  obtain ⟨stored, hstored⟩ := Option.isSome_iff_exists.1 hhas
  obtain hbefore | ⟨m', hm', other, hother, hsame, hprovides⟩ := hdefined full stored hstored
  · cases hbefore
  · obtain rfl := List.mem_singleton.1 hm'
    exact hname other hother hsame ▸ hprovides

end Setup

end DocMapper
