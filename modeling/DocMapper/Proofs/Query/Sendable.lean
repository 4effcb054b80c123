import DocMapper.Proofs.Value.Plain
import DocMapper.Query.Builders
/-!
# Queries that can be sent

A query is sent unless an instance in it lacks a stored form. So an expression can be sent when its
parts can (`Query.Sendable`), and plain data always can (`Value.Sendable.plain`): a query compiled
from plain arguments never fails before it is run.
-/

namespace DocMapper

attribute [local simp] Value.toWire Query.toWire Wire.unstorable? Wire.unstorableMember?
  Wire.unstorableIn? Wire.fields

/-- No instance in an expression lacks a stored form. -/
def Value.Sendable (v : Value) : Prop := v.toWire.unstorable? = none

/-- No instance in a query lacks a stored form. -/
def Query.Sendable (q : Query) : Prop := q.toWire.unstorable? = none

/-- A query that can be sent has a wire form. -/
theorem Query.Sendable.wire_eq {q : Query} (h : q.Sendable) : q.wire = .ok q.toWire := by
  rw [Sendable] at h
  rw [wire, Wire.checked, h]

namespace Value

theorem Sendable.plain {v : Value} (h : v.isPlain = true) : v.Sendable := unstorable?_toWire h

@[simp] theorem sendable_text (s : String) : (Value.text s).Sendable := .plain rfl

@[simp] theorem sendable_null : Value.null.Sendable := .plain rfl

@[simp] theorem sendable_query {q : Query} : (Value.query q).Sendable ↔ q.Sendable := by
  rw [Sendable, Query.Sendable, toWire]

/-- An optional argument can be sent when it can be where it is given. -/
theorem unstorableMember?_toWireOption {name : String} {arg : Option Value} :
    Wire.unstorableMember? (toWireOption name arg) = none ↔ ∀ v, arg = some v → v.Sendable := by
  cases arg <;> simp [toWireOption, Sendable]

theorem unstorableIn?_toWireBindings {names : List (Key × Value)} :
    Wire.unstorableIn? (toWireBindings names) = none ↔ ∀ e ∈ names, e.2.Sendable := by
  induction names with
  | nil => simp [toWireBindings]
  | cons entry rest ih =>
    obtain ⟨k, v⟩ := entry
    simp [toWireBindings, ih, Sendable]

theorem unstorableIn?_toWireList_iff {items : List Value} :
    Wire.unstorableIn? (toWireList items) = none ↔ ∀ v ∈ items, v.Sendable := by
  induction items with
  | nil => simp [toWireList, Wire.unstorableIn?]
  | cons v rest ih => simp [toWireList, Wire.unstorableIn?, ih, Sendable]

@[simp] theorem sendable_list {items : List Value} :
    (Value.list items).Sendable ↔ ∀ v ∈ items, v.Sendable := by
  rw [Sendable, toWire, Wire.unstorable?, unstorableIn?_toWireList_iff]

theorem unstorableMember?_toWireEntries_of_sendable {entries : List (Key × Value)}
    (h : ∀ e ∈ entries, e.2.Sendable) : Wire.unstorableMember? (toWireEntries entries) = none := by
  induction entries with
  | nil => rfl
  | cons entry rest ih =>
    obtain ⟨k, v⟩ := entry
    obtain ⟨hv, hrest⟩ := List.forall_mem_cons.1 h
    rw [Sendable] at hv
    simp [toWireEntries, hv, ih hrest]

/-- A dictionary of expressions that can be sent can be sent. -/
theorem Sendable.dict {entries : List (Key × Value)} (h : ∀ e ∈ entries, e.2.Sendable) :
    (Value.dict entries).Sendable := by
  simp [Sendable, Wire.single,
    Wire.unstorableMember?_ofEntries (unstorableMember?_toWireEntries_of_sendable h)]

end Value

namespace Query

@[simp] theorem sendable_letIn {names : List (Key × Value)} {body : Value} :
    (letIn names body).Sendable ↔ (∀ e ∈ names, e.2.Sendable) ∧ body.Sendable := by
  simp [Sendable, Value.unstorableIn?_toWireBindings, Value.Sendable]

@[simp] theorem sendable_var {name : Value} : (var name).Sendable ↔ name.Sendable := by
  simp [Sendable, Value.Sendable]

@[simp] theorem sendable_named (name : String) : (named name).Sendable := by
  simp [named]

@[simp] theorem sendable_ifElse {c x y : Value} :
    (ifElse c x y).Sendable ↔ c.Sendable ∧ x.Sendable ∧ y.Sendable := by
  simp [Sendable, Value.Sendable]

@[simp] theorem sendable_lambda {parameter body : Value} :
    (lambda parameter body).Sendable ↔ parameter.Sendable ∧ body.Sendable := by
  simp [Sendable, Value.Sendable]

@[simp] theorem sendable_map {function source : Value} :
    (map function source).Sendable ↔ function.Sendable ∧ source.Sendable := by
  simp [Sendable, Value.Sendable]

/-- The keys of a path are sent as they are. -/
theorem Sendable.select {path : List Value} {source : Value}
    (hpath : Wire.unstorableIn? (Value.rawList path) = none) (hs : source.Sendable) :
    (select path source none).Sendable := by
  rw [Value.Sendable] at hs
  simp [Sendable, Value.toWireOption, hpath, hs]

@[simp] theorem sendable_abort {message : Value} : (abort message).Sendable ↔ message.Sendable := by
  simp [Sendable, Value.Sendable]

@[simp] theorem sendable_database {name : Value} : (database name).Sendable ↔ name.Sendable := by
  simp [Sendable, Value.Sendable]

@[simp] theorem sendable_collection {name : Value} {scope : Option Value} :
    (collection name scope).Sendable ↔ name.Sendable ∧ ∀ v, scope = some v → v.Sendable := by
  simp [Sendable, Value.unstorableMember?_toWireOption, Value.Sendable]

@[simp] theorem sendable_index {name : Value} {scope : Option Value} :
    (index name scope).Sendable ↔ name.Sendable ∧ ∀ v, scope = some v → v.Sendable := by
  simp [Sendable, Value.unstorableMember?_toWireOption, Value.Sendable]

@[simp] theorem sendable_ref {c i : Value} : (ref c i).Sendable ↔ c.Sendable ∧ i.Sendable := by
  simp [Sendable, Value.Sendable]

@[simp] theorem sendable_present {target : Value} :
    (present target).Sendable ↔ target.Sendable := by
  simp [Sendable, Value.Sendable]

@[simp] theorem sendable_get {target : Value} : (get target).Sendable ↔ target.Sendable := by
  simp [Sendable, Value.Sendable]

@[simp] theorem sendable_delete {target : Value} :
    (delete target).Sendable ↔ target.Sendable := by
  simp [Sendable, Value.Sendable]

/-- The parameters of a write, as they are sent. -/
theorem unstorable?_params {params : List (Key × Value)} (h : ∀ e ∈ params, e.2.Sendable) :
    (Wire.single "object"
      (.object (Dict.ofEntries (Value.toWireEntries params)))).unstorable? = none := by
  simp [Wire.single,
    Wire.unstorableMember?_ofEntries (Value.unstorableMember?_toWireEntries_of_sendable h)]

theorem Sendable.create {c : Value} {params : List (Key × Value)} (hc : c.Sendable)
    (h : ∀ e ∈ params, e.2.Sendable) : (create c params).Sendable := by
  rw [Value.Sendable] at hc
  simp [Sendable, hc, unstorable?_params h]

theorem Sendable.update {target : Value} {params : List (Key × Value)} (ht : target.Sendable)
    (h : ∀ e ∈ params, e.2.Sendable) : (update target params).Sendable := by
  rw [Value.Sendable] at ht
  simp [Sendable, ht, unstorable?_params h]

theorem Sendable.replace {target : Value} {params : List (Key × Value)} (ht : target.Sendable)
    (h : ∀ e ∈ params, e.2.Sendable) : (replace target params).Sendable := by
  rw [Value.Sendable] at ht
  simp [Sendable, ht, unstorable?_params h]

theorem Sendable.createCollection {params : List (Key × Value)} (h : ∀ e ∈ params, e.2.Sendable) :
    (createCollection params).Sendable := by
  simp [Sendable, unstorable?_params h]

theorem Sendable.createIndex {params : List (Key × Value)} (h : ∀ e ∈ params, e.2.Sendable) :
    (createIndex params).Sendable := by
  simp [Sendable, unstorable?_params h]

@[simp] theorem sendable_sequence {items : List Value} :
    (sequence items).Sendable ↔ ∀ e ∈ items, e.Sendable := by
  simp [Sendable, Value.unstorableIn?_toWireList_iff]

end Query

end DocMapper
