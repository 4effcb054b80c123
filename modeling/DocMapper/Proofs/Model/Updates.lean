import DocMapper.Proofs.Model.KeyedStore
import DocMapper.Proofs.Model.Runs
import DocMapper.Proofs.Value.Nulls
/-!
# What updates store

An update patches the data of a document, and stores the result unless a unique index refuses it
(`Model.stores_or_refused`). What it stores can be told beforehand in two ways.

* Where the patch has no nulls, it is what merging the patch into the data gives
  (`Model.update_stores_merge`).
* Where every null of the patch stands where there was a dictionary, it is what is there already if
  the update is made a second time; otherwise the second update takes away the nulls that the first
  one stored (`Model.update_again`).
-/

namespace DocMapper

/-- A write under a key is not seen where the key is left out. -/
theorem Dict.filter_put {α : Type} {p : Key → Bool} {key : Key}
    (h : ∀ k, k.same key = true → p k = false) (d : Dict α) (v : α) :
    (d.put key v).filter (fun e => p e.1) = d.filter fun e => p e.1 := by
  induction d with
  | nil => simp [put, h key]
  | cons e rest ih =>
    obtain ⟨k, w⟩ := e
    by_cases hk : k.same key = true
    · simp [put, hk, h k hk]
    · simp [put, hk, List.filter_cons, ih]

/-- What a document has does not count when its own data is checked. -/
theorem Store.checkUnique_putRewritten (s : Store) (c i : String) (doc : StoredDocument)
    (new data : Value) : (s.putRewritten c i doc new).checkUnique c data (some i) =
      s.checkUnique c data (some i) := by
  have hothers : ((s.putRewritten c i doc new).documents c).filter
      (fun e => !((some i).map Key.text).any e.1.same) =
      (s.documents c).filter fun e => !((some i).map Key.text).any e.1.same := by
    rw [putRewritten, documents_put_self]
    exact Dict.filter_put (p := fun k => !((some i).map Key.text).any k.same) (by simp) _ _
  have hcheck : (s.putRewritten c i doc new).checkIndex c data (some i) =
      s.checkIndex c data (some i) := by
    funext params
    simp only [checkIndex, hothers]
  simp only [checkUnique, hcheck]
  rfl

namespace Model

open Store

variable {m : Model} {desk : Desk Memory} {id : Value} {c i : String} {doc : StoredDocument}
  {patch : Dict Value}

/-- An update of a document stores data at a place and nothing anywhere else. -/
structure Stores (m : Model) (desk : Desk Memory) (id : Value) (patch : Dict Value) (c i : String)
    (data : Value) (t : Store) : Prop where
  runs : ∃ out q, desk.Runs (m.write Memory.executor .update id (.dict patch)) out [.query q] t
  found : ∃ new, t.find c i = some new ∧ new.data = data
  elsewhere : SameElsewhere c i desk.remote.store t

/-- A unique index refuses the data that an update would store, and nothing changes. -/
def Refused (m : Model) (desk : Desk Memory) (id : Value) (patch : Dict Value) (c i : String)
    (data : Value) : Prop :=
  ∃ cause q, desk.remote.store.checkUnique c data (some i) = .error cause ∧
    desk.Runs (m.write Memory.executor .update id (.dict patch))
      (.error (transported "update" id cause)) [.query q] desk.remote.store

theorem stored_dict (entries : Dict Value) : stored (.dict entries) = .ok (.dict entries) := rfl

/-- An update that no unique index refuses stores the patched data. -/
theorem runs_update (h : desk.Ready) (hid : m.place? id = some (c, i))
    (hfind : desk.remote.store.find c i = some doc) (hpatch : (Value.dict patch).isPlain = true)
    (hallowed : desk.remote.store.checkUnique c (doc.data.patch (Value.dict patch).settled)
      (some i) = .ok ()) :
    ∃ out q, desk.Runs (m.write Memory.executor .update id (.dict patch)) out [.query q]
      (desk.remote.store.putRewritten c i doc (doc.data.patch (Value.dict patch).settled)) := by
  obtain ⟨q, -, hruns⟩ := runs_write h hid .update (stored_dict patch) hpatch
  have hwrite : (desk.remote.store.writeAt .update c i (Value.dict patch).settled).2 =
      desk.remote.store.putRewritten c i doc (doc.data.patch (Value.dict patch).settled) := by
    simp only [writeAt, hfind, Writing.result, hallowed]
  rw [hwrite] at hruns
  exact ⟨_, q, hruns⟩

theorem stores_of_runs {out : Except Fault (Option Document)} {q : Query} {data : Value}
    (hruns : desk.Runs (m.write Memory.executor .update id (.dict patch)) out [.query q]
      (desk.remote.store.putRewritten c i doc data)) :
    m.Stores desk id patch c i data (desk.remote.store.putRewritten c i doc data) where
  runs := ⟨out, q, hruns⟩
  found := ⟨_, find_putRewritten .., rfl⟩
  elsewhere := sameElsewhere_putRewritten ..

/-- **An update stores the patched data**, or a unique index refuses it. -/
theorem stores_or_refused (h : desk.Ready) (hid : m.place? id = some (c, i))
    (hfind : desk.remote.store.find c i = some doc) (hpatch : (Value.dict patch).isPlain = true) :
    m.Refused desk id patch c i (doc.data.patch (Value.dict patch).settled) ∨
      ∃ t, m.Stores desk id patch c i (doc.data.patch (Value.dict patch).settled) t := by
  cases hunique : desk.remote.store.checkUnique c (doc.data.patch (Value.dict patch).settled)
      (some i) with
  | ok =>
    obtain ⟨out, q, hruns⟩ := runs_update h hid hfind hpatch hunique
    exact Or.inr ⟨_, stores_of_runs hruns⟩
  | error cause =>
    obtain ⟨q, -, hruns⟩ := runs_write h hid .update (stored_dict patch) hpatch
    obtain ⟨q', hrefused⟩ := (writesAt_of_runs hruns).refused doc cause hfind hunique
    exact Or.inl ⟨cause, q', hunique, hrefused⟩

/-! ## Patches without nulls -/

theorem merge_dict (old patch : Dict Value) :
    Value.merge (.dict old) (.dict patch) = .ok (Value.mergeEntries old patch) := rfl

/-- **The merge of a patch without nulls is what an update stores**, with all entries in their order,
unless a unique index refuses it. The tuples of the patch come to lists; where it has none, it is
merged as it is. -/
theorem update_stores_merge (m : Model) {desk : Desk Memory} (h : desk.Ready) {id : Value}
    {c i : String} (hid : m.place? id = some (c, i)) {doc : StoredDocument}
    (hfind : desk.remote.store.find c i = some doc) {old patch : Dict Value}
    (hold : doc.data = .dict old) (hpatch : (Value.dict patch).IsData)
    (hnulls : (Value.dict patch).NullFree) :
    ∃ merged, Value.merge (.dict old) (Value.dict patch).settled = .ok merged ∧
      ((Value.dict patch).isUntupled = true →
        Value.merge (.dict old) (.dict patch) = .ok merged) ∧
      (m.Refused desk id patch c i (.dict merged) ∨
        ∃ t, m.Stores desk id patch c i (.dict merged) t) := by
  have hdata : doc.data.patch (Value.dict patch).settled =
      .dict (Value.mergeEntries old (Value.settledEntries patch)) := by
    rw [hold, Value.patch, Value.patchAt_eq_mergeAt hpatch.settled.keyed
      (Value.nullFree_settled.2 hnulls), Value.settled, Value.mergeAt_dict]
  refine ⟨_, by rw [Value.settled, merge_dict], fun huntupled => ?_,
    hdata ▸ stores_or_refused h hid hfind hpatch.plain⟩
  have hsettled := Value.settled_of_isUntupled huntupled
  rw [Value.settled, Value.dict.injEq] at hsettled
  rw [merge_dict, hsettled]

/-- A patch that gives the age of the person in years. -/
def agePatch : Dict Value := [(.text "age", .dict [(.text "years", .int 41)])]

theorem isData_agePatch : (Value.dict agePatch).IsData :=
  Value.isData_single (Value.isData_single (Value.isData_int 41) _) _

theorem nullFree_agePatch : (Value.dict agePatch).NullFree := by
  have hyears : (Value.dict [(.text "years", .int 41)]).NullFree :=
    Value.nullFree_of_forall (by simp [Value.nullFree_of_not_dict])
  exact Value.nullFree_of_forall (List.forall_mem_singleton.2 ⟨by simp, hyears⟩)

theorem update_stores_merge_sample : ∃ t, sampleModel.Stores sampleDesk (.text "7") agePatch "users" "7"
    (.object [("name", "Ada"), ("age", .object [("years", .int 41)])]) t := by
  have hplace : sampleModel.place? (.text "7") = some ("users", "7") := rfl
  obtain ⟨merged, hmerged, -, hrefused | ⟨t, hstores⟩⟩ := update_stores_merge sampleModel
    sampleDesk_ready hplace rfl rfl isData_agePatch nullFree_agePatch
  · obtain ⟨cause, q, hunique, -⟩ := hrefused
    cases hunique
  · cases hmerged
    exact ⟨t, hstores⟩

/-! ## Updates that are made again -/

/-- **An update that is made again stores what is there already exactly if its patch lands**: if each
of its nulls stands where there was a dictionary in the data. Then no unique index refuses it the
second time. Otherwise the first update has stored a null that the second one takes away, unless a
unique index refuses that. -/
theorem update_again (m : Model) {desk : Desk Memory} (h : desk.Ready) {id : Value} {c i : String}
    (hid : m.place? id = some (c, i)) {doc : StoredDocument}
    (hfind : desk.remote.store.find c i = some doc) (hkeyed : doc.data.WellKeyed)
    {patch : Dict Value} (hpatch : (Value.dict patch).IsData)
    (hallowed : desk.remote.store.checkUnique c (doc.data.patch (Value.dict patch).settled)
      (some i) = .ok ()) :
    ∃ once t, m.Stores desk id patch c i once t ∧
      ∀ again : Desk Memory, again.Ready → again.remote.store = t →
        (Value.Lands (some doc.data) (.dict patch) →
          ∃ t', m.Stores again id patch c i once t') ∧
        (¬ Value.Lands (some doc.data) (.dict patch) →
          (∃ data, m.Refused again id patch c i data) ∨
            ∃ twice t', m.Stores again id patch c i twice t' ∧ ∃ path key,
              once.under? (path ++ [key]) = some .null ∧ twice.under? (path ++ [key]) = none) := by
  obtain ⟨out, q, hruns⟩ := runs_update h hid hfind hpatch.plain hallowed
  refine ⟨_, _, stores_of_runs hruns, fun again hagain hstore => ?_⟩
  have hcurrent : ∀ old, some doc.data = some old → old.WellKeyed := fun old hold =>
    Option.some.inj hold ▸ hkeyed
  have hstored : again.remote.store.find c i =
      some (desk.remote.store.rewritten doc (doc.data.patch (Value.dict patch).settled)) := by
    rw [hstore, find_putRewritten]
  rw [← Value.lands_settled]
  constructor
  · intro hlands
    -- the second time the patch leaves the data as it is, which has been allowed once
    have hagainData := Value.patchAt_patchAt_of_lands hpatch.settled.keyed hcurrent hlands
    have hallowed' : again.remote.store.checkUnique c ((doc.data.patch
        (Value.dict patch).settled).patch (Value.dict patch).settled) (some i) = .ok () := by
      rw [hstore, checkUnique_putRewritten, Value.patch, Value.patch, hagainData]
      exact hallowed
    obtain ⟨out', q', hruns'⟩ := runs_update hagain hid hstored hpatch.plain hallowed'
    have hstores := stores_of_runs hruns'
    rw [rewritten, Value.patch, Value.patch, hagainData] at hstores
    exact ⟨_, hstores⟩
  · intro hlands
    rcases stores_or_refused hagain hid hstored hpatch.plain with hrefused | ⟨t', hstores⟩
    · exact Or.inl ⟨_, hrefused⟩
    · simp only [Value.Lands, not_forall] at hlands
      obtain ⟨path, key, hremoves, hdict⟩ := hlands
      have honce : ∀ old, some (doc.data.patch (Value.dict patch).settled) = some old →
          old.WellKeyed := fun old hold =>
        Option.some.inj hold ▸ hpatch.settled.keyed.patchAt hcurrent
      exact Or.inr ⟨_, t', hstores, path, key,
        Value.under?_patchAt_of_not_hasDict hpatch.settled.keyed hcurrent hremoves hdict,
        Value.under?_patchAt_of_hasDict hpatch.settled.keyed honce hremoves
          (Value.hasDict_patchAt hpatch.settled.keyed hcurrent hremoves)⟩

/-- A patch that removes the age of the person. -/
def agelessPatch : Dict Value := [(.text "age", .null)]

theorem update_again_sample : ∃ once t t',
    sampleModel.Stores sampleDesk (.text "7") agelessPatch "users" "7" once t ∧
    sampleModel.Stores (sampleModel.deskOver t) (.text "7") agelessPatch "users" "7" once t' := by
  have hkeyed : (Value.object [("name", .text "Ada"), ("age", .int 36)]).WellKeyed := by
    have hdistinct : Dict.Distinct (Dict.ofFields [("name", Value.text "Ada"), ("age", .int 36)]) :=
      Dict.distinct_ofEntries _
    exact Value.wellKeyed_dict.2 ⟨hdistinct, Dict.forall_mem_putAll (by simp)
      (by simp [Value.WellKeyed])⟩
  have hnull : Value.IsData .null := ⟨rfl, trivial⟩
  have hplace : sampleModel.place? (.text "7") = some ("users", "7") := rfl
  obtain ⟨once, t, honce, hagain⟩ := update_again sampleModel sampleDesk_ready hplace rfl hkeyed
    (Value.isData_single hnull (.text "age")) rfl
  obtain ⟨t', htwice⟩ := (hagain _ (sampleModel.deskOver_ready t) rfl).1 fun path key hremoves => by
    -- the only null is one of the patch itself, which is laid over the data of the document
    cases path with
    | nil => exact Value.hasDict_nil.2 ⟨_, rfl⟩
    | cons k rest =>
      obtain ⟨u, hu, hinner⟩ := Value.removes_cons.1 hremoves
      obtain ⟨k', hmem, -⟩ := Dict.exists_mem_of_get? hu
      obtain ⟨update, rfl⟩ := hinner.exists_dict
      simp at hmem
  exact ⟨once, t, t', honce, htwice⟩

/-- A model of notes that hold anything. -/
def looseNotes : Model where
  name := "notes"
  schema := { name := "Note", fields := [({ name := "a", default := .value .null }, .any)] }
  indexes := {}

/-- A note of nothing. -/
def looseNote : StoredDocument where
  ref := documentRef "notes" "101"
  ts := 2
  data := .object [("a", .null)]

/-- A store with a note of nothing. -/
def looseStore : Store :=
  ({ collections := [(.text "notes", [])], lastId := 101, clock := 2 } : Store).put "notes" "101"
    looseNote

/-- A patch with a null in a dictionary of its own. -/
def nestedNull : Dict Value := [(.text "a", .dict [(.text "b", .null)])]

/-- The store after the note has been updated once. -/
def nestedStore : Store := looseStore.putRewritten "notes" "101" looseNote (.dict nestedNull)

/-- A null that was stored with its dictionary is taken away when the update is made again. -/
theorem update_again_differs : ∃ t,
    looseNotes.Stores (looseNotes.deskOver looseStore) (.text "101") nestedNull "notes" "101"
      (.dict nestedNull) nestedStore ∧
    looseNotes.Stores (looseNotes.deskOver nestedStore) (.text "101") nestedNull "notes" "101"
      (.dict [(.text "a", .dict [])]) t ∧
    Value.same (.dict [(.text "a", .dict [])]) (.dict nestedNull) = false := by
  have hplace : looseNotes.place? (.text "101") = some ("notes", "101") := rfl
  have hplain : (Value.dict nestedNull).isPlain = true := rfl
  have hfirst : (looseNotes.deskOver looseStore).remote.store.find "notes" "101" =
      some looseNote := rfl
  have hsecond : (looseNotes.deskOver nestedStore).remote.store.find "notes" "101" =
      some (looseStore.rewritten looseNote (.dict nestedNull)) := find_putRewritten ..
  obtain ⟨out, q, hruns⟩ :=
    runs_update (looseNotes.deskOver_ready looseStore) hplace hfirst hplain rfl
  obtain ⟨out', q', hruns'⟩ :=
    runs_update (looseNotes.deskOver_ready nestedStore) hplace hsecond hplain rfl
  exact ⟨_, stores_of_runs hruns, stores_of_runs hruns', rfl⟩

end Model

end DocMapper
