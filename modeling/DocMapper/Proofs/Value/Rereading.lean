import DocMapper.Proofs.Calendar.InputText
import DocMapper.Proofs.Data.Distinct
import DocMapper.Value.Order
import Mathlib.Data.List.Forall2
/-!
# Values as they are read back

A stored value is read back with its timestamps as `Timestamp.reread` has them (`Value.reread`). When
all their offsets are whole minutes (`Value.IsMinutely`), the value is the same as before and stands
to every other value as before, so limits make no difference between the two.
-/

namespace DocMapper.Value

mutual

/-- The value with its timestamps as they are read back. -/
def reread : Value → Value
  | .timestamp t => .timestamp t.reread
  | .list items => .list (rereadList items)
  | .tuple items => .tuple (rereadList items)
  | .dict entries => .dict (rereadEntries entries)
  | .record schema fields => .record schema (rereadFields fields)
  | v => v

/-- `reread` on each element. -/
def rereadList : List Value → List Value
  | [] => []
  | v :: rest => v.reread :: rereadList rest

/-- `reread` on each entry. -/
def rereadEntries : List (Key × Value) → List (Key × Value)
  | [] => []
  | (k, v) :: rest => (k, v.reread) :: rereadEntries rest

/-- `reread` on each field. -/
def rereadFields : List (String × Value) → List (String × Value)
  | [] => []
  | (name, v) :: rest => (name, v.reread) :: rereadFields rest

end

mutual

/-- The offsets of all timestamps in the value are whole minutes. -/
def IsMinutely : Value → Prop
  | .timestamp t => t.IsMinutely
  | .list items => AreMinutely items
  | .tuple items => AreMinutely items
  | .dict entries => AreMinutelyEntries entries
  | .record _ fields => AreMinutelyFields fields
  | _ => True

/-- `IsMinutely` of each element. -/
def AreMinutely : List Value → Prop
  | [] => True
  | v :: rest => v.IsMinutely ∧ AreMinutely rest

/-- `IsMinutely` of each entry. -/
def AreMinutelyEntries : List (Key × Value) → Prop
  | [] => True
  | (_, v) :: rest => v.IsMinutely ∧ AreMinutelyEntries rest

/-- `IsMinutely` of each field. -/
def AreMinutelyFields : List (String × Value) → Prop
  | [] => True
  | (_, v) :: rest => v.IsMinutely ∧ AreMinutelyFields rest

end

theorem rereadList_eq_map (items : List Value) : rereadList items = items.map reread := by
  induction items with
  | nil => rfl
  | cons v rest ih => rw [rereadList, ih, List.map_cons]

theorem rereadEntries_eq_map (entries : List (Key × Value)) :
    rereadEntries entries = entries.map fun e => (e.1, e.2.reread) := by
  induction entries with
  | nil => rfl
  | cons e rest ih => rw [rereadEntries, ih, List.map_cons]

theorem rereadFields_eq_map (fields : List (String × Value)) :
    rereadFields fields = fields.map fun e => (e.1, e.2.reread) := by
  induction fields with
  | nil => rfl
  | cons e rest ih => rw [rereadFields, ih, List.map_cons]

theorem areMinutely_iff {items : List Value} : AreMinutely items ↔ ∀ v ∈ items, v.IsMinutely := by
  induction items with
  | nil => simp [AreMinutely]
  | cons v rest ih => simp [AreMinutely, ih]

theorem areMinutelyEntries_iff {entries : List (Key × Value)} :
    AreMinutelyEntries entries ↔ ∀ e ∈ entries, e.2.IsMinutely := by
  induction entries with
  | nil => simp [AreMinutelyEntries]
  | cons e rest ih => simp [AreMinutelyEntries, ih]

theorem areMinutelyFields_iff {fields : List (String × Value)} :
    AreMinutelyFields fields ↔ ∀ e ∈ fields, e.2.IsMinutely := by
  induction fields with
  | nil => simp [AreMinutelyFields]
  | cons e rest ih => simp [AreMinutelyFields, ih]

@[simp] theorem length_rereadEntries (entries : List (Key × Value)) :
    (rereadEntries entries).length = entries.length := by
  rw [rereadEntries_eq_map, List.length_map]

@[simp] theorem length_rereadFields (fields : List (String × Value)) :
    (rereadFields fields).length = fields.length := by
  rw [rereadFields_eq_map, List.length_map]

/-! ## Equality and order -/

theorem same_timestamp_reread {t u : Timestamp} (h : t.IsMinutely) :
    t.reread.same u = t.same u := by
  simp only [Timestamp.same, h.instant?_reread, Timestamp.reading_reread]

theorem compare?_timestamp_reread {t u : Timestamp} (h : t.IsMinutely) :
    t.reread.compare? u = t.compare? u := by
  simp only [Timestamp.compare?, h.instant?_reread, Timestamp.reading_reread]

mutual

/-- **What is read back is the same as the same values.** -/
theorem same_reread : {a : Value} → a.IsMinutely → (b : Value) → a.reread.same b = a.same b
  | .timestamp t, h, b => by
    rw [IsMinutely] at h
    cases b <;> simp [reread, same, same_timestamp_reread h, sameNumber, sameMagnitude, magnitude?]
  | .list items, h, b => by
    have hitems : AreMinutely items := by simpa [IsMinutely] using h
    have ih := sameList_reread hitems
    cases b <;> simp [reread, same, ih, sameNumber, sameMagnitude, magnitude?]
  | .tuple items, h, b => by
    have hitems : AreMinutely items := by simpa [IsMinutely] using h
    have ih := sameList_reread hitems
    cases b <;> simp [reread, same, ih, sameNumber, sameMagnitude, magnitude?]
  | .dict entries, h, b => by
    have hentries : AreMinutelyEntries entries := by simpa [IsMinutely] using h
    have ih := sameEntries_reread hentries
    cases b <;> simp [reread, same, ih, sameNumber, sameMagnitude, magnitude?]
  | .record schema fields, h, b => by
    have hfields : AreMinutelyFields fields := by simpa [IsMinutely] using h
    have ih := sameFields_reread hfields
    cases b <;> simp [reread, same, ih, sameNumber, sameMagnitude, magnitude?]
  | .null, _, _ | .bool _, _, _ | .int _, _, _ | .float _, _, _ | .text _, _, _ | .bytes _, _, _
  | .date _, _, _ | .ref _, _, _ | .accessor _, _, _ | .thunk _, _, _ | .query _, _, _
  | .rows _, _, _ | .closure .., _, _ | .foreign _, _, _ => by simp only [reread]

theorem sameList_reread : {items : List Value} → AreMinutely items → (others : List Value) →
    sameList (rereadList items) others = sameList items others
  | [], _, _ => rfl
  | v :: rest, h, [] => by simp [rereadList, sameList]
  | v :: rest, h, w :: others => by
    simp only [rereadList, sameList, same_reread h.1, sameList_reread h.2]

theorem sameEntries_reread : {entries : List (Key × Value)} → AreMinutelyEntries entries →
    (others : List (Key × Value)) →
    sameEntries (rereadEntries entries) others = sameEntries entries others
  | [], _, _ => rfl
  | (k, v) :: rest, h, others => by
    simp only [rereadEntries, sameEntries, same_reread h.1, sameEntries_reread h.2]

theorem sameFields_reread : {fields : List (String × Value)} → AreMinutelyFields fields →
    (others : List (String × Value)) →
    sameFields (rereadFields fields) others = sameFields fields others
  | [], _, _ => rfl
  | (name, v) :: rest, h, others => by
    simp only [rereadFields, sameFields, same_reread h.1, sameFields_reread h.2]

end

mutual

/-- **What is read back stands to every value as before.** -/
theorem compare?_reread : {a : Value} → a.IsMinutely → (b : Value) →
    a.reread.compare? b = a.compare? b
  | .timestamp t, h, b => by
    rw [IsMinutely] at h
    cases b <;> simp [reread, compare?, compare?_timestamp_reread h, magnitude?]
  | .list items, h, b => by
    have hitems : AreMinutely items := by simpa [IsMinutely] using h
    have ih := compareList?_reread hitems
    cases b <;> simp [reread, compare?, ih, magnitude?]
  | .tuple items, h, b => by
    have hitems : AreMinutely items := by simpa [IsMinutely] using h
    have ih := compareList?_reread hitems
    cases b <;> simp [reread, compare?, ih, magnitude?]
  | .dict _, _, b => by cases b <;> simp [reread, compare?, magnitude?]
  | .record .., _, b => by cases b <;> simp [reread, compare?, magnitude?]
  | .null, _, _ | .bool _, _, _ | .int _, _, _ | .float _, _, _ | .text _, _, _ | .bytes _, _, _
  | .date _, _, _ | .ref _, _, _ | .accessor _, _, _ | .thunk _, _, _ | .query _, _, _
  | .rows _, _, _ | .closure .., _, _ | .foreign _, _, _ => by simp only [reread]

theorem compareList?_reread : {items : List Value} → AreMinutely items → (others : List Value) →
    compareList? (rereadList items) others = compareList? items others
  | [], _, _ => rfl
  | v :: rest, h, [] => by simp [rereadList, compareList?]
  | v :: rest, h, w :: others => by
    simp only [rereadList, compareList?, same_reread h.1, compare?_reread h.1,
      compareList?_reread h.2]

end

/-! ## Equality, part by part -/

theorem sameList_iff {items others : List Value} : sameList items others = true ↔
    List.Forall₂ (fun v w => v.same w = true) items others := by
  induction items generalizing others with
  | nil => cases others <;> simp [sameList]
  | cons v rest ih => cases others <;> simp [sameList, ih]

theorem sameEntries_eq_true {a b : Dict Value} : sameEntries a b = true ↔
    ∀ e ∈ a, ∃ w, b.get? e.1 = some w ∧ e.2.same w = true := by
  induction a with
  | nil => simp [sameEntries]
  | cons e rest ih =>
    rw [sameEntries, Bool.and_eq_true, ih, List.forall_mem_cons]
    cases Dict.get? b e.1 <;> simp

theorem sameFields_eq_true {a b : List (String × Value)} : sameFields a b = true ↔
    ∀ e ∈ a, ∃ w, b.lookup e.1 = some w ∧ e.2.same w = true := by
  induction a with
  | nil => simp [sameFields]
  | cons e rest ih =>
    rw [sameFields, Bool.and_eq_true, ih, List.forall_mem_cons, field?]
    cases b.lookup e.1 <;> simp

theorem same_dict_iff {a b : Dict Value} : same (.dict a) (.dict b) = true ↔
    a.length = b.length ∧ ∀ e ∈ a, ∃ w, b.get? e.1 = some w ∧ e.2.same w = true := by
  rw [same, Bool.and_eq_true, beq_iff_eq, sameEntries_eq_true]

/-- **Dictionaries with distinct keys are the same when they are under every key.** -/
theorem same_dict_iff_get? {a b : Dict Value} (ha : a.Distinct) (hb : b.Distinct) :
    same (.dict a) (.dict b) = true ↔
      ∀ key, Option.Rel (fun v w => v.same w = true) (a.get? key) (b.get? key) := by
  rw [same_dict_iff]
  constructor
  · rintro ⟨hlength, hlike⟩ key
    have hfound : ∀ v, a.get? key = some v → ∃ w, b.get? key = some w ∧ v.same w = true := by
      intro v hv
      obtain ⟨k, hmem, hk⟩ := Dict.exists_mem_of_get? hv
      rw [← Dict.get?_congr b hk]
      exact hlike _ hmem
    have hhas : ∀ key, a.has key = true → b.has key = true := by
      intro key hkey
      obtain ⟨v, hv⟩ := Option.isSome_iff_exists.1 hkey
      obtain ⟨k, hmem, hk⟩ := Dict.exists_mem_of_get? hv
      obtain ⟨w, hw, -⟩ := hlike _ hmem
      rw [Dict.has, ← Dict.get?_congr b hk, hw]
      rfl
    cases hv : a.get? key with
    | some v =>
      obtain ⟨w, hw, hsame⟩ := hfound v hv
      rw [hw]
      exact .some hsame
    | none =>
      cases hw : b.get? key with
      | none => exact .none
      | some w =>
        have hkey := (ha.length_eq_iff hb hhas).1 hlength key (by rw [Dict.has, hw]; rfl)
        rw [Dict.has, hv] at hkey
        cases hkey
  · intro hrel
    have hhas : ∀ key, a.has key = b.has key := by
      intro key
      have hkey := hrel key
      rw [Dict.has, Dict.has]
      generalize a.get? key = v, b.get? key = w at hkey
      cases hkey <;> rfl
    refine ⟨(ha.length_eq_iff hb fun key => by rw [hhas]; exact id).2 fun key => by
      rw [hhas]; exact id, fun e he => ?_⟩
    have he := hrel e.1
    rw [ha.get?_of_mem ‹_›] at he
    cases hw : b.get? e.1 with
    | none => rw [hw] at he; cases he
    | some w =>
      rw [hw] at he
      cases he with
      | some hsame => exact ⟨w, rfl, hsame⟩

theorem same_record_iff {s t : Signature} {a b : List (String × Value)} :
    same (.record s a) (.record t b) = true ↔ s = t ∧ a.length = b.length ∧
      ∀ e ∈ a, ∃ w, b.lookup e.1 = some w ∧ e.2.same w = true := by
  rw [same, Bool.and_eq_true, Bool.and_eq_true, beq_iff_eq, beq_iff_eq, sameFields_eq_true,
    and_assoc]

theorem same_null_iff {v : Value} : v.same .null = true ↔ v = .null := by
  cases v <;> simp [same, sameNumber, sameMagnitude, magnitude?]

theorem sameList_rereadList_self {items : List Value} : sameList (rereadList items) items = true ↔
    ∀ v ∈ items, v.reread.same v = true := by
  induction items with
  | nil => simp [rereadList, sameList]
  | cons v rest ih => simp [rereadList, sameList, ih]

end DocMapper.Value
