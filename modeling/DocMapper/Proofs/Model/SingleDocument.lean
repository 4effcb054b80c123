import DocMapper.Proofs.Query.Sendable
import DocMapper.Proofs.Query.Yields
import DocMapper.Proofs.Store.Keyed
import DocMapper.Proofs.Value.StoredForm
/-!
# The queries of single documents

An id of a model names a place in the store (`Model.place?`): a bare id one in the model's own
collection, a reference one in the collection that it carries. The queries that a model compiles for
an id come to what the store does at that place:

* `Model.getQuery_spec`: the document is looked up,
* `Model.writeQuery_steady`: the document is written to (`Store.writeAt`),
* `Model.deleteQuery_spec`: the document is removed (`Store.removeAt`),
* `Model.createQuery_spec`: a new document comes to a fresh place (`Store.createIn`).

All of them can be sent (`Query.Sendable`), as long as the data of a write is steady.
-/

namespace DocMapper.Model

open Query Store

/-- The place that an id names: a collection, and an id in it. -/
def place? (m : Model) : Value → Option (String × String)
  | .text i => some (m.name, i)
  | .ref ⟨i, none, _⟩ => some (m.name, i)
  | .ref ⟨i, some c, _⟩ => some (c.id, i)
  | _ => none

variable {m : Model} {id : Value} {c i : String} {s t : Store}
  {apply : Value → Value → Action Evaluation Value} {b : Bindings}

/-! ## References -/

/-- The reference of a document in a collection, possibly of another database. -/
@[simp] theorem place?_text (m : Model) (i : String) : m.place? (.text i) = some (m.name, i) := rfl

theorem refQuery_of_place (h : m.place? id = some (c, i)) : ∃ scope,
    (∀ v, scope = some v → v.Sendable) ∧
      m.refQuery id = .ok (.ref (.query (.collection (.text c) scope)) (.text i)) := by
  unfold place? at h
  split at h
  · cases h
    exact ⟨none, by simp, rfl⟩
  · cases h
    exact ⟨none, by simp, rfl⟩
  · cases h
    rename_i i c _
    obtain ⟨c, _, _ | d⟩ := c
    · exact ⟨none, by simp, rfl⟩
    · refine ⟨_, ?_, rfl⟩
      rintro v ⟨rfl⟩
      simp
  · cases h

/-- **An id is compiled into the reference of its place.** -/
theorem refQuery_spec (h : m.place? id = some (c, i)) : ∃ q, m.refQuery id = .ok q ∧ q.Sendable ∧
    ∀ apply b s, Yields apply b s (.query q) (.ok (.ref (documentRef c i))) s := by
  obtain ⟨scope, hscope, hq⟩ := refQuery_of_place h
  refine ⟨_, hq, ?_, fun apply b s => Yields.ref i (Yields.collection c scope)⟩
  simpa using hscope

/-! ## Looking whether there is a document -/

/-- What is bound once the reference of a place was looked for. -/
def looked (s : Store) (c i : String) (b : Bindings) : Bindings :=
  (b.put "ref" (.ref (documentRef c i))).put "exists" (.bool (s.find c i).isSome)

@[simp] theorem looked_ref : (looked s c i b).get? "ref" = some (.ref (documentRef c i)) := by
  rw [looked, Dict.get?_put_of_not_same _ _ (by simp), Dict.get?_put_self]

@[simp] theorem looked_exists :
    (looked s c i b).get? "exists" = some (.bool (s.find c i).isSome) :=
  Dict.get?_put_self _ _ _

@[simp] theorem sendable_refExists : refExists.Sendable := by simp [refExists]

@[simp] theorem sendable_ifExists {what otherwise : Value} :
    (ifExists what otherwise).Sendable ↔ what.Sendable ∧ otherwise.Sendable := by
  simp [ifExists]

/-- The queries on a document first bind its reference and whether it is there. -/
theorem binds_looked {target : Value} {rest : List (Key × Value)} {out : Except Fault Bindings}
    (ht : Yields apply b s target (.ok (.ref (documentRef c i))) s)
    (hrest : Binds apply (looked s c i b) s rest out t) :
    Binds apply b s ((.text "ref", target) :: (.text "exists", refExists) :: rest) out t :=
  have hexists := Yields.present (Yields.var (Dict.get?_put_self b _ _)) (exists?_documentRef s c i)
  Binds.cons ht (Binds.cons hexists hrest)

theorem ifExists_none {what otherwise : Value} {out : Except Fault Value}
    (hfind : s.find c i = none) (hb : b.get? "exists" = some (.bool (s.find c i).isSome))
    (ho : Yields apply b s otherwise out t) : Yields apply b s (ifExists what otherwise) out t :=
  Yields.ifElse_false (Yields.var hb) (by simp [Value.truthy, hfind]) ho

theorem ifExists_some {what otherwise : Value} {doc : StoredDocument} {out : Except Fault Value}
    (hfind : s.find c i = some doc) (hb : b.get? "exists" = some (.bool (s.find c i).isSome))
    (hw : Yields apply b s what out t) : Yields apply b s (ifExists what otherwise) out t :=
  Yields.ifElse_true (Yields.var hb) (by simp [Value.truthy, hfind]) hw

/-! ## The queries -/

/-- **A read of an id comes to the document of its place, or to null**, and has no effect. -/
theorem getQuery_spec (h : m.place? id = some (c, i)) : ∃ q, m.getQuery id = .ok q ∧ q.Sendable ∧
    ∀ s, (evaluate (.query q)).perform s = (.ok (Store.shown (s.find c i)), s) := by
  obtain ⟨target, htarget, hsend, href⟩ := refQuery_spec h
  refine ⟨_, by rw [getQuery, htarget]; rfl, ?_, fun s => perform_evaluate ?_⟩
  · simp [binding, Dict.ofFields, Dict.ofEntries, Dict.putAll, Dict.put, hsend]
  · have hdoc : Yields (applyClosure depthBound) (looked s c i []) s
        (ifExists (.query (.get (named "ref"))) .null) (.ok (Store.shown (s.find c i))) s := by
      cases hfind : s.find c i with
      | none => exact ifExists_none hfind looked_exists Yields.null
      | some doc =>
        refine ifExists_some hfind looked_exists ?_
        have hget : Yields (applyClosure depthBound) (looked s c i []) s
            (.query (.get (named "ref"))) _ s := Yields.get (Yields.var looked_ref)
        rwa [fetch_documentRef hfind] at hget
    exact Yields.letIn_last [_, _] (binds_looked (href _ _ _)) hdoc

theorem Writing.sendable_query {w : Writing} {target data : Value} (ht : target.Sendable)
    (hd : data.Sendable) : (w.query target data).Sendable := by
  have hparams : ∀ e ∈ Dict.ofFields [("data", data)], e.2.Sendable := by
    simpa [Dict.ofFields, Dict.ofEntries, Dict.putAll, Dict.put] using hd
  cases w with
  | update => exact .update ht hparams
  | replace => exact .replace ht hparams

/-- The write of a way is the action of that way on the store. -/
theorem Writing.yields_query {w : Writing} {target data r v : Value}
    (ht : Yields apply b s target (.ok r) s) (hd : Yields apply b s data (.ok v) s) :
    Yields apply b s (.query (w.query target data))
      ((w.action r (.dict [(.text "data", v)])).perform s).1
      ((w.action r (.dict [(.text "data", v)])).perform s).2 := by
  have hparams : YieldsEntries apply b s (Dict.ofFields [("data", data)])
      (.ok [(.text "data", v)]) s := YieldsEntries.cons hd YieldsEntries.nil
  cases w with
  | update => exact Yields.update ht hparams
  | replace => exact Yields.replace ht hparams

/-- **A guarded write is a write to the place that its target names.** The data is looked up once the
reference and its existence are bound. -/
theorem yields_guardedWrite (w : Writing) {target data v : Value}
    (ht : Yields apply b s target (.ok (.ref (documentRef c i))) s)
    (hd : Yields apply (looked s c i b) s data (.ok v) s) :
    Yields apply b s (.query (binding (guardedWrite w target data) (named "result")))
      ((s.writeAt w c i (orEmpty v)).1.map Store.shown) (s.writeAt w c i (orEmpty v)).2 := by
  -- the data is bound between the look and the write, and hides neither
  let bound := (looked s c i b).put "data" v
  have href : bound.get? "ref" = some (.ref (documentRef c i)) := by
    rw [Dict.get?_put_of_not_same _ _ (by simp), looked_ref]
  have hexists : bound.get? "exists" = some (.bool (s.find c i).isSome) := by
    rw [Dict.get?_put_of_not_same _ _ (by simp), looked_exists]
  have hresult : Yields apply bound s
      (ifExists (.query (w.query (named "ref") (named "data"))) .null)
      ((s.writeAt w c i (orEmpty v)).1.map Store.shown) (s.writeAt w c i (orEmpty v)).2 := by
    cases hfind : s.find c i with
    | none =>
      rw [writeAt, hfind]
      exact ifExists_none hfind hexists Yields.null
    | some doc =>
      refine ifExists_some hfind hexists ?_
      have hwrite : Yields apply bound s (.query (w.query (named "ref") (named "data"))) _ _ :=
        Writing.yields_query (Yields.var href) (Yields.var (Dict.get?_put_self _ _ _))
      rwa [perform_writing hfind] at hwrite
  exact Yields.letIn_last [_, _, _] (fun hrest => binds_looked ht (Binds.cons hd hrest)) hresult

theorem sendable_guardedWrite {w : Writing} {target data : Value} (ht : target.Sendable)
    (hd : data.Sendable) : (binding (guardedWrite w target data) (named "result")).Sendable := by
  have hwrite : (w.query (named "ref") (named "data")).Sendable :=
    Writing.sendable_query (by simp) (by simp)
  simp [binding, guardedWrite, Dict.ofFields, Dict.ofEntries, Dict.putAll, Dict.put, ht, hd, hwrite]

/-- **A write to an id is a write to its place**, of any data that is steady. -/
theorem writeQuery_steady {w : Writing} {data e v : Value} (h : m.place? id = some (c, i))
    (hstored : stored data = .ok e) (hsteady : Steady e v) :
    ∃ q, m.writeQuery w id data = .ok q ∧ q.Sendable ∧
      ∀ s, (evaluate (.query q)).perform s =
        ((s.writeAt w c i (orEmpty v)).1.map Store.shown, (s.writeAt w c i (orEmpty v)).2) := by
  obtain ⟨target, htarget, hsend, href⟩ := refQuery_spec h
  refine ⟨_, by rw [writeQuery, htarget, hstored]; rfl, ?_, fun s => perform_evaluate ?_⟩
  · exact sendable_guardedWrite (by simpa using hsend) hsteady.sendable
  · exact yields_guardedWrite w (href _ _ _) (hsteady.yields _ _ _)

/-- A write of a dictionary to an id is a write to its place. -/
theorem writeQuery_spec {w : Writing} {data : Value} {entries : Dict Value}
    (h : m.place? id = some (c, i)) (hstored : stored data = .ok (.dict entries))
    (hplain : (Value.dict entries).isPlain = true) :
    ∃ q, m.writeQuery w id data = .ok q ∧ q.Sendable ∧
      ∀ s, (evaluate (.query q)).perform s =
        ((s.writeAt w c i (Value.dict entries).settled).1.map Store.shown,
          (s.writeAt w c i (Value.dict entries).settled).2) := by
  have hquery := writeQuery_steady (w := w) h hstored (Steady.plain hplain)
  rwa [Value.settled, orEmpty_dict] at hquery

/-- **A removal of an id is the removal of the document of its place.** -/
theorem deleteQuery_spec (h : m.place? id = some (c, i)) :
    ∃ q, m.deleteQuery id = .ok q ∧ q.Sendable ∧
      ∀ s, (evaluate (.query q)).perform s =
        ((s.removeAt c i).1.map Store.shown, (s.removeAt c i).2) := by
  obtain ⟨target, htarget, hsend, href⟩ := refQuery_spec h
  refine ⟨_, by rw [deleteQuery, htarget]; rfl, ?_, fun s => perform_evaluate ?_⟩
  · simp [binding, Dict.ofFields, Dict.ofEntries, Dict.putAll, Dict.put, hsend]
  · have hdeleted : Yields (applyClosure depthBound) (looked s c i []) s
        (ifExists (.query (.delete (named "ref")))
          (.query (.abort (.text "No document to delete!"))))
        ((s.removeAt c i).1.map Store.shown) (s.removeAt c i).2 := by
      cases hfind : s.find c i with
      | none =>
        rw [removeAt, hfind]
        exact ifExists_none hfind looked_exists (Yields.abort _)
      | some doc =>
        refine ifExists_some hfind looked_exists ?_
        have hdelete : Yields (applyClosure depthBound) (looked s c i []) s
            (.query (.delete (named "ref"))) _ _ := Yields.delete (Yields.var looked_ref)
        rwa [perform_delete hfind] at hdelete
    exact Yields.letIn_last [_, _] (binds_looked (href _ _ _)) hdeleted

/-- The creation of a document, with its data and its time to live as parameters. -/
theorem createQuery_eq (m : Model) (data ttl : Value) :
    m.createQuery data ttl = .letIn ([(.text "data", data)] ++ [(.text "doc",
      .query (.create (.query m.collection) ((.text "data", named "data") :: lifetime ttl)))])
      (named "doc") := by
  cases ttl <;> rfl

theorem yieldsEntries_lifetime {ttl : Value} (h : ttl.isPlain = true) :
    YieldsEntries apply b s (lifetime ttl) (.ok (lifetime ttl.settled)) s := by
  cases ttl with
  | null => exact YieldsEntries.nil
  | record | accessor | thunk | query | rows | closure | foreign => simp [Value.isPlain] at h
  | _ => exact YieldsEntries.cons (Yields.plain h) YieldsEntries.nil

theorem sendable_of_mem_lifetime {ttl : Value} (h : ttl.isPlain = true) :
    ∀ e ∈ lifetime ttl, e.2.Sendable := by
  intro e he
  cases ttl <;> simp only [lifetime, List.not_mem_nil, List.mem_singleton] at he
  all_goals rw [he]; exact .plain h

/-- **A creation is a creation in the model's own collection.** -/
theorem createQuery_spec {entries : Dict Value} {ttl : Value}
    (hplain : (Value.dict entries).isPlain = true) (httl : ttl.isPlain = true) :
    (m.createQuery (.dict entries) ttl).Sendable ∧
      ∀ s, (evaluate (.query (m.createQuery (.dict entries) ttl))).perform s =
        ((s.createIn m.name (Value.dict entries).settled ttl.settled).1.map fun doc =>
            .dict doc.members,
          (s.createIn m.name (Value.dict entries).settled ttl.settled).2) := by
  rw [createQuery_eq]
  refine ⟨?_, fun s => perform_evaluate ?_⟩
  · have hcreate : (Query.create (.query m.collection)
        ((.text "data", named "data") :: lifetime ttl)).Sendable :=
      Sendable.create (by simp [collection])
        (List.forall_mem_cons.2 ⟨by simp, sendable_of_mem_lifetime httl⟩)
    simp [hcreate, Value.Sendable.plain hplain]
  · let bound : Bindings := Dict.put [] "data" (Value.dict entries).settled
    have hdata : Yields (applyClosure depthBound) bound s (named "data")
        (.ok (Value.dict entries).settled) s := Yields.var (Dict.get?_put_self _ _ _)
    have hdoc := Yields.create (Yields.collection m.name none)
      (YieldsEntries.cons (k := .text "data") hdata (yieldsEntries_lifetime httl))
    rw [Value.settled, perform_create] at hdoc
    exact Yields.letIn_last [_] (fun hrest => Binds.cons (Yields.plain hplain) hrest) hdoc

end DocMapper.Model
