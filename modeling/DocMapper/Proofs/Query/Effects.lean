import DocMapper.Proofs.Data.Outcome
import DocMapper.Proofs.Value.WellKeyed
import DocMapper.Query.Builders
/-!
# The effects of expressions

What an expression can do to a store when it is evaluated stands in it: the operations on the store
that occur in its queries (`Value.effects`). Only what a closure does when it is applied stands
elsewhere, so that the application of closures is an effect of its own.

An expression is passive if nothing in it creates a document or writes to one (`Value.IsPassive`).
Plain data is passive, and so is what a passive value has as members and elements.
-/

namespace DocMapper

/-- What the evaluation of an expression does to a store comes down to this: the operations on the
store, and the application of closures. -/
inductive Effect
  | create
  | update
  | replace
  | delete
  | createCollection
  | createIndex
  | apply
  deriving DecidableEq

mutual

/-- The effects that an expression, or what is taken out of it, may have when it is evaluated, as they
stand in it. -/
def Value.effects : Value → List Effect
  | .query q => q.effects
  | .list items | .tuple items => Value.effectsOfList items
  | .dict entries => Value.effectsOfEntries entries
  | .record _ fields => Value.effectsOfFields fields
  | _ => []
termination_by structural e => e

def Value.effectsOfList : List Value → List Effect
  | [] => []
  | e :: rest => e.effects ++ Value.effectsOfList rest
termination_by structural e => e

def Value.effectsOfEntries : List (Key × Value) → List Effect
  | [] => []
  | (_, e) :: rest => e.effects ++ Value.effectsOfEntries rest
termination_by structural e => e

def Value.effectsOfFields : List (String × Value) → List Effect
  | [] => []
  | (_, e) :: rest => e.effects ++ Value.effectsOfFields rest
termination_by structural e => e

def Value.effectsOfOption : Option Value → List Effect
  | none => []
  | some e => e.effects
termination_by structural e => e

/-- The effects that a query may have. A function that stands where it is mapped has its own effects
there; any other is a closure that is applied. -/
def Query.effects : Query → List Effect
  | .letIn names body => Value.effectsOfEntries names ++ body.effects
  | .ifElse condition consequent alternative =>
    condition.effects ++ (consequent.effects ++ alternative.effects)
  | .sequence items => Value.effectsOfList items
  | .map function source =>
    match function with
    | .query (.lambda _ body) => body.effects ++ source.effects
    | function => .apply :: (function.effects ++ source.effects)
  | .select _ source fallback => source.effects ++ Value.effectsOfOption fallback
  | .collection name _ | .index name _ => name.effects
  | .ref collection id => collection.effects ++ id.effects
  | .documents target | .present target | .get target | .count target => target.effects
  | .matching index terms => index.effects ++ Value.effectsOfOption terms
  | .paginate source size after before =>
    source.effects ++ (Value.effectsOfOption size ++
      (Value.effectsOfOption after ++ Value.effectsOfOption before))
  | .create collection params =>
    .create :: (collection.effects ++ Value.effectsOfEntries params)
  | .update target params => .update :: (target.effects ++ Value.effectsOfEntries params)
  | .replace target params => .replace :: (target.effects ++ Value.effectsOfEntries params)
  | .delete target => .delete :: target.effects
  | .createCollection params => .createCollection :: Value.effectsOfEntries params
  | .createIndex params => .createIndex :: Value.effectsOfEntries params
  | .var _ | .abort _ | .lambda .. | .database _ => []
termination_by structural e => e

end

/-- Whether an effect leaves ids and times alone: it creates no document and writes to none. -/
def Effect.isPassive : Effect → Bool
  | delete | createCollection | createIndex => true
  | create | update | replace | apply => false

/-- No effect of an expression creates a document or writes to one. -/
def Value.IsPassive (e : Value) : Prop := ∀ effect ∈ e.effects, effect.isPassive = true

/-- No effect of a query creates a document or writes to one. -/
def Query.IsPassive (q : Query) : Prop := ∀ effect ∈ q.effects, effect.isPassive = true

namespace Value

theorem effectsOfList_eq (items : List Value) : effectsOfList items = items.flatMap effects := by
  induction items with
  | nil => rfl
  | cons e rest ih => rw [effectsOfList, ih, List.flatMap_cons]

theorem effectsOfEntries_eq (entries : List (Key × Value)) :
    effectsOfEntries entries = entries.flatMap fun entry => entry.2.effects := by
  induction entries with
  | nil => rfl
  | cons entry rest ih => rw [effectsOfEntries, ih, List.flatMap_cons]

theorem effectsOfFields_eq (fields : List (String × Value)) :
    effectsOfFields fields = fields.flatMap fun field => field.2.effects := by
  induction fields with
  | nil => rfl
  | cons field rest ih => rw [effectsOfFields, ih, List.flatMap_cons]

@[simp] theorem isPassive_query {q : Query} : (query q).IsPassive ↔ q.IsPassive := Iff.rfl

@[simp] theorem isPassive_list {items : List Value} :
    (list items).IsPassive ↔ ∀ v ∈ items, v.IsPassive := by
  rw [IsPassive, effects, effectsOfList_eq, List.forall_mem_flatMap]
  rfl

@[simp] theorem isPassive_tuple {items : List Value} :
    (tuple items).IsPassive ↔ ∀ v ∈ items, v.IsPassive := isPassive_list

@[simp] theorem isPassive_dict {entries : List (Key × Value)} :
    (dict entries).IsPassive ↔ ∀ e ∈ entries, e.2.IsPassive := by
  rw [IsPassive, effects, effectsOfEntries_eq, List.forall_mem_flatMap]
  rfl

@[simp] theorem isPassive_record {schema : Signature} {fields : List (String × Value)} :
    (record schema fields).IsPassive ↔ ∀ field ∈ fields, field.2.IsPassive := by
  rw [IsPassive, effects, effectsOfFields_eq, List.forall_mem_flatMap]
  rfl

/-- **Plain data is passive.** -/
theorem isPassive_of_isPlain : {v : Value} → v.isPlain = true → v.IsPassive
  | .list _, h => isPassive_list.2 fun v hv => isPassive_of_isPlain (isPlain_list.1 h v hv)
  | .tuple _, h => isPassive_tuple.2 fun v hv => isPassive_of_isPlain (isPlain_tuple.1 h v hv)
  | .dict _, h => isPassive_dict.2 fun e he => isPassive_of_isPlain (isPlain_dict.1 h e he)
  | .null, _ | .bool _, _ | .int _, _ | .float _, _ | .text _, _ | .bytes _, _ | .timestamp _, _
  | .date _, _ | .ref _, _ => by simp [IsPassive, effects]
termination_by v => sizeOf v
decreasing_by
  all_goals simp_wf
  · exact Nat.lt_add_left 1 (List.sizeOf_lt_of_mem hv)
  · exact Nat.lt_add_left 1 (List.sizeOf_lt_of_mem hv)
  · have hentry := List.sizeOf_lt_of_mem he
    obtain ⟨k, v⟩ := e
    simp at hentry ⊢
    omega

@[simp] theorem isPassive_null : null.IsPassive := isPassive_of_isPlain rfl

@[simp] theorem isPassive_int (n : Int) : (int n).IsPassive := isPassive_of_isPlain rfl

@[simp] theorem isPassive_text (s : String) : (text s).IsPassive := isPassive_of_isPlain rfl

@[simp] theorem isPassive_ref (r : Ref) : (ref r).IsPassive := isPassive_of_isPlain rfl

mutual

/-- The value that spells a key is plain data. -/
theorem isPlain_ofKey : (k : Key) → (ofKey k).isPlain = true
  | .tuple items => isPlain_tuple.2 (isPlain_ofKeys items)
  | .text _ | .int _ | .bool _ | .null | .float _ | .bytes _ | .timestamp _ | .date _ | .ref _ =>
    rfl

theorem isPlain_ofKeys : (keys : List Key) → ∀ v ∈ ofKeys keys, v.isPlain = true
  | [] => by simp [ofKeys]
  | k :: rest => List.forall_mem_cons.2 ⟨isPlain_ofKey k, isPlain_ofKeys rest⟩

end

variable {v w : Value}

theorem isPassive_refFields (r : Ref) : ∀ field ∈ refFields r, field.2.IsPassive := by
  obtain ⟨i, c, d⟩ := r
  cases c
  all_goals cases d
  all_goals simp [refFields]

/-- What a passive value has under a name is passive. -/
theorem IsPassive.member {name : String} (h : v.IsPassive) (hw : v.member name = .ok w) :
    w.IsPassive := by
  have hfound : ∃ fields : List (String × Value), (∀ field ∈ fields, field.2.IsPassive) ∧
      fields.lookup name = some w := by
    unfold Value.member at hw
    simp only at hw
    split at hw
    · rename_i u hu
      cases hw
      refine ⟨_, ?_, hu⟩
      cases v with
      | record schema fields => exact isPassive_record.1 h
      | ref r => exact isPassive_refFields r
      | _ => simp
    · cases hw
  obtain ⟨fields, hfields, hlookup⟩ := hfound
  obtain ⟨before, after, rfl, -⟩ := List.lookup_eq_some_iff.1 hlookup
  exact hfields (name, w) (by simp)

/-- The elements of a passive value are passive. -/
theorem IsPassive.items {items : List Value} (h : v.IsPassive) (hitems : v.items = .ok items) :
    ∀ w ∈ items, w.IsPassive := by
  have hpairs : ∀ {fields : List (String × Value)}, (∀ field ∈ fields, field.2.IsPassive) →
      ∀ w ∈ fields.map fun field => Value.tuple [.text field.1, field.2], w.IsPassive := by
    intro fields hfields w hw
    obtain ⟨field, hfield, rfl⟩ := List.mem_map.1 hw
    simpa using hfields field hfield
  cases v with
  | list elements => exact Except.ok.inj hitems ▸ isPassive_list.1 h
  | tuple elements => exact Except.ok.inj hitems ▸ isPassive_tuple.1 h
  | text s =>
    cases hitems
    simp
  | bytes b =>
    cases hitems
    simp
  | dict entries =>
    cases hitems
    intro w hw
    obtain ⟨e, -, rfl⟩ := List.mem_map.1 hw
    exact isPassive_of_isPlain (isPlain_ofKey e.1)
  | record schema fields => exact Except.ok.inj hitems ▸ hpairs (isPassive_record.1 h)
  | ref r => exact Except.ok.inj hitems ▸ hpairs (isPassive_refFields r)
  | _ => cases hitems

/-- What is looked up in passive entries is passive. -/
theorem isPassive_lookup {entries : Dict Value} (h : ∀ e ∈ entries, e.2.IsPassive) (name : String) :
    (lookup entries name).IsPassive := by
  rw [lookup]
  cases hget : entries.get? name with
  | none => simp
  | some u =>
    obtain ⟨k, hmem, -⟩ := Dict.exists_mem_of_get? hget
    exact h _ hmem

/-- What a passive dictionary has at a key is passive. -/
theorem IsPassive.subscript {entries : Dict Value} {key : Value} (h : (dict entries).IsPassive)
    (hw : (dict entries).subscript key = .ok w) : w.IsPassive := by
  obtain ⟨found, hfound, hw⟩ := Except.bind_eq_ok.1 hw
  cases found with
  | none => cases hw
  | some u =>
    cases hw
    obtain ⟨k, hmem⟩ := exists_mem_of_find hfound
    exact isPassive_dict.1 h _ hmem

end Value

namespace Query

attribute [local simp] Query.IsPassive Value.IsPassive Query.effects Value.effectsOfEntries_eq
  Value.effectsOfOption or_imp forall_and

@[simp] theorem isPassive_letIn {names : List (Key × Value)} {body : Value} :
    (letIn names body).IsPassive ↔ (∀ e ∈ names, e.2.IsPassive) ∧ body.IsPassive := by
  simp only [IsPassive, effects, Value.effectsOfEntries_eq, List.forall_mem_append,
    List.forall_mem_flatMap]
  rfl

@[simp] theorem isPassive_named (name : String) : (named name).IsPassive := by
  simp [named, Value.effects]

@[simp] theorem isPassive_ifElse {c x y : Value} :
    (ifElse c x y).IsPassive ↔ c.IsPassive ∧ x.IsPassive ∧ y.IsPassive := by
  simp

@[simp] theorem isPassive_abort {message : Value} : (abort message).IsPassive := by simp

@[simp] theorem isPassive_map_lambda {parameter body source : Value} :
    (map (.query (lambda parameter body)) source).IsPassive ↔ body.IsPassive ∧ source.IsPassive := by
  simp

@[simp] theorem isPassive_select {path : List Value} {source : Value} :
    (select path source none).IsPassive ↔ source.IsPassive := by simp

@[simp] theorem isPassive_collection {name : Value} {scope : Option Value} :
    (collection name scope).IsPassive ↔ name.IsPassive := by simp

@[simp] theorem isPassive_index {name : Value} {scope : Option Value} :
    (index name scope).IsPassive ↔ name.IsPassive := by simp

@[simp] theorem isPassive_ref {c i : Value} :
    (ref c i).IsPassive ↔ c.IsPassive ∧ i.IsPassive := by simp

@[simp] theorem isPassive_documents {target : Value} :
    (documents target).IsPassive ↔ target.IsPassive := by simp

@[simp] theorem isPassive_present {target : Value} :
    (present target).IsPassive ↔ target.IsPassive := by simp

@[simp] theorem isPassive_get {target : Value} : (get target).IsPassive ↔ target.IsPassive := by
  simp

@[simp] theorem isPassive_count {target : Value} :
    (count target).IsPassive ↔ target.IsPassive := by simp

@[simp] theorem isPassive_delete {target : Value} :
    (delete target).IsPassive ↔ target.IsPassive := by
  simp [Effect.isPassive]

theorem isPassive_lookUp {index : Value} {terms : List Value} (hindex : index.IsPassive)
    (hterms : ∀ term ∈ terms, term.IsPassive) : (lookUp index terms).IsPassive := by
  match terms with
  | [] => simpa [lookUp] using hindex
  | [term] => simpa [lookUp] using ⟨hindex, hterms term (by simp)⟩
  | first :: second :: rest =>
    have hlist := Value.isPassive_list.2 hterms
    simpa [lookUp] using ⟨hindex, hlist⟩

theorem isPassive_page {source size after before : Value} (hsource : source.IsPassive)
    (hsize : size.IsPassive) (hafter : after.IsPassive) (hbefore : before.IsPassive) :
    (page source size after before).IsPassive := by
  have hgiven : ∀ {v : Value}, v.IsPassive →
      ∀ effect ∈ Value.effectsOfOption v.given, effect.isPassive = true := by
    intro v hv
    cases v <;> exact hv
  simp only [page, IsPassive, effects, List.forall_mem_append]
  exact ⟨hsource, hgiven hsize, hgiven hafter, hgiven hbefore⟩

end Query

end DocMapper
