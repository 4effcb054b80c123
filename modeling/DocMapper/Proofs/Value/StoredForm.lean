import DocMapper.Model.Queries
import DocMapper.Proofs.Value.Plain
/-!
# Stored forms

What a value is stored as is plain data without tuples (`Value.isSettled_of_stored`):
a value of which some part would not be such has no stored form. So the
data of a created document stands for itself in the query that creates it.
-/

namespace DocMapper

/-- Whether a value is plain data in which no tuple stands. -/
def Value.IsSettled (v : Value) : Prop := v.isPlain = true ∧ v.isUntupled = true

namespace Value

theorem isSettled_list {items : List Value} :
    IsSettled (.list items) ↔ ∀ v ∈ items, IsSettled v := by
  simp only [IsSettled, isPlain, isUntupled]
  induction items with
  | nil => simp [arePlain, areUntupled]
  | cons v rest ih =>
    simp only [arePlain, areUntupled, Bool.and_eq_true, List.forall_mem_cons, ← ih]
    exact and_and_and_comm

theorem isSettled_dict {entries : List (Key × Value)} :
    IsSettled (.dict entries) ↔ ∀ e ∈ entries, IsSettled e.2 := by
  simp only [IsSettled, isPlain, isUntupled]
  induction entries with
  | nil => simp [arePlainEntries, areUntupledEntries]
  | cons e rest ih =>
    simp only [arePlainEntries, areUntupledEntries, Bool.and_eq_true, List.forall_mem_cons, ← ih]
    exact and_and_and_comm

theorem IsSettled.settled_eq {v : Value} (h : IsSettled v) : v.settled = v :=
  settled_of_isUntupled h.2

end Value

/-- The dictionary of a reference, from those of its parts. -/
theorem Ref.isSettled_dump : (r : Ref) → Value.IsSettled r.dump
  | ⟨id, none, none⟩ => ⟨rfl, rfl⟩
  | ⟨id, some c, none⟩ => by
    have hc := isSettled_dump c
    simpa [dump, Value.IsSettled, Value.isPlain, Value.isUntupled, Value.arePlainEntries,
      Value.areUntupledEntries] using hc
  | ⟨id, none, some d⟩ => by
    have hd := isSettled_dump d
    simpa [dump, Value.IsSettled, Value.isPlain, Value.isUntupled, Value.arePlainEntries,
      Value.areUntupledEntries] using hd
  | ⟨id, some c, some d⟩ => by
    have hc := isSettled_dump c
    have hd := isSettled_dump d
    rw [dump, Value.isSettled_dict]
    intro e he
    simp only [List.mem_cons, List.not_mem_nil, or_false] at he
    rcases he with rfl | rfl | rfl
    · exact ⟨rfl, rfl⟩
    · exact hc
    · exact hd

namespace Value

mutual

/-- **A stored form is plain data without tuples.** -/
theorem isSettled_jsonDump (storing : Storing) :
    {v : Value} → v.unstorable? = none → IsSettled (jsonDump storing v)
  | .null, _ | .int _, _ | .text _, _ | .timestamp _, _ | .date _, _ => by
    simp only [jsonDump]; exact ⟨rfl, rfl⟩
  | .bool b, _ => by
    rw [jsonDump]; split <;> exact ⟨rfl, rfl⟩
  | .float x, _ => by
    rw [jsonDump]; split <;> exact ⟨rfl, rfl⟩
  | .bytes b, _ => by
    rw [jsonDump]; split <;> exact ⟨rfl, rfl⟩
  | .ref r, _ => by
    rw [jsonDump]; exact r.isSettled_dump
  | .list items, h => by
    rw [jsonDump, isSettled_list]
    exact isSettled_jsonDumpList _ (by simpa [unstorable?] using h)
  | .tuple items, h => by
    rw [jsonDump, isSettled_list]
    exact isSettled_jsonDumpList _ (by simpa [unstorable?] using h)
  | .dict entries, h => by
    rw [jsonDump, isSettled_dict]
    exact Dict.forall_mem_putAll (by simp)
      (isSettled_jsonDumpEntries _ (by simpa [unstorable?] using h))
  | .record schema fields, h => by
    rw [jsonDump, isSettled_dict]
    exact isSettled_jsonDumpFields schema (by simpa [unstorable?] using h)
  | .accessor _, h | .thunk _, h | .query _, h | .rows _, h | .closure .., h | .foreign _, h => by
    simp [unstorable?] at h

theorem isSettled_jsonDumpList (storing : Storing) : {items : List Value} →
    unstorableIn? items = none → ∀ v ∈ jsonDumpList storing items, IsSettled v
  | [], _ => by simp [jsonDumpList]
  | v :: rest, h => by
    simp only [unstorableIn?, Option.orElse_eq_orElse, Option.orElse_eq_or,
      Option.or_eq_none_iff] at h
    rw [jsonDumpList, List.forall_mem_cons]
    exact ⟨isSettled_jsonDump storing h.1, isSettled_jsonDumpList storing h.2⟩

theorem isSettled_jsonDumpEntries (storing : Storing) : {entries : List (Key × Value)} →
    unstorableEntry? entries = none → ∀ e ∈ jsonDumpEntries storing entries, IsSettled e.2
  | [], _ => by simp [jsonDumpEntries]
  | (k, v) :: rest, h => by
    simp only [ unstorableEntry?, Option.orElse_eq_orElse, Option.orElse_eq_or,
      Option.or_eq_none_iff] at h
    rw [jsonDumpEntries, List.forall_mem_cons]
    exact ⟨isSettled_jsonDump storing h.2.1, isSettled_jsonDumpEntries storing h.2.2⟩

theorem isSettled_jsonDumpFields (schema : Signature) : {fields : List (String × Value)} →
    unstorableField? fields = none → ∀ e ∈ jsonDumpFields schema fields, IsSettled e.2
  | [], _ => by simp [jsonDumpFields]
  | (name, v) :: rest, h => by
    simp only [unstorableField?, Option.orElse_eq_orElse, Option.orElse_eq_or,
      Option.or_eq_none_iff] at h
    rw [jsonDumpFields, List.forall_mem_cons]
    exact ⟨isSettled_jsonDump _ h.1, isSettled_jsonDumpFields schema h.2⟩

end

/-- **What a value is stored as is plain data without tuples.** -/
theorem isSettled_of_stored {v w : Value} (h : v.stored = .ok w) : IsSettled w := by
  unfold stored at h
  split at h
  · cases h
  · cases h
    exact isSettled_jsonDump .plain ‹_›

end Value

end DocMapper
