import DocMapper.Data.RefReading
import DocMapper.Proofs.Data.Outcome
import DocMapper.Proofs.Value.Patching
import DocMapper.Value.Dump
/-!
# Stored references are read back

A reference is read back from its plain dictionary, and just as well from what is left when that is
patched onto the dictionary of another reference (`Ref.read_patchAt_dump`): the patch removes the
parts that are null, and an absent part is read as one that is null.
-/

namespace DocMapper.Ref

/-- What an optional part of a reference may stand under its name as. -/
def Part (found : Option Value) : Option Ref → Prop
  | none => found = none ∨ found = some .null
  | some r => ∃ v, found = some v ∧ v ≠ .null ∧ read v = .ok r

theorem get?_readMembers (entries : Dict Value) (key : Key) :
    Dict.get? (readMembers entries) key = (entries.get? key).map fun v => ⟨v, read v⟩ := by
  induction entries with
  | nil => rfl
  | cons e rest ih =>
    obtain ⟨k, v⟩ := e
    by_cases h : k.same key = true
    · simp [readMembers, Dict.get?, h]
    · simpa [readMembers, Dict.get?, h] using ih

theorem part_readMembers {name : String} {entries : Dict Value} {p : Option Ref}
    (h : Part (entries.get? name) p) : part name (readMembers entries) = .ok p := by
  rw [part, get?_readMembers]
  cases p with
  | none => rcases h with h | h <;> rw [h] <;> rfl
  | some r =>
    obtain ⟨v, hfound, hne, hread⟩ := h
    rw [hfound]
    cases v with
    | null => exact absurd rfl hne
    | _ => exact Except.map_eq_ok.2 ⟨r, Checked.under_eq_ok.2 hread, rfl⟩

/-- A dictionary with the parts of a reference is read as the reference. -/
theorem read_of_parts {entries : Dict Value} {id : String} {collection database : Option Ref}
    (hid : entries.get? "id" = some (.text id)) (hc : Part (entries.get? "collection") collection)
    (hd : Part (entries.get? "database") database) :
    read (.dict entries) = .ok ⟨id, collection, database⟩ := by
  have hidPart : idPart (.dict entries) (readMembers entries) = .ok id := by
    rw [idPart, get?_readMembers, hid]
    rfl
  rw [read, assemble, hidPart, part_readMembers hc, part_readMembers hd]
  rfl

/-- The dictionary of an optional part. -/
def dumpPart : Option Ref → Value
  | none => .null
  | some r => r.dump

theorem dump_eq (r : Ref) : r.dump = .dict [(.text "id", .text r.id),
    (.text "collection", dumpPart r.collection), (.text "database", dumpPart r.database)] := by
  obtain ⟨id, c, d⟩ := r
  cases c <;> cases d <;> rw [dump] <;> rfl

theorem dump_ne_null (r : Ref) : r.dump ≠ .null := by
  simp [dump_eq]

/-- A dictionary that is stored in some place is that of a reference. -/
def IsDumped (current : Option Value) : Prop :=
  ∀ base, current = some (.dict base) → ∃ r : Ref, r.dump = .dict base

theorem isDumped_dumpPart (p : Option Ref) : IsDumped (some (dumpPart p)) := by
  cases p with
  | none => intro base h; simp [dumpPart] at h
  | some r => intro base h; exact ⟨r, by simpa [dumpPart] using h⟩

/-- The part is read back from whatever its dictionary is patched onto. -/
def Rereads (p : Option Ref) : Prop :=
  ∀ r, p = some r → ∀ current, IsDumped current → read (Value.patchAt current r.dump) = .ok r

/-- A part that is stored as it is. -/
theorem part_dumpPart {p : Option Ref} (h : Rereads p) : Part (some (dumpPart p)) p := by
  cases p with
  | none => exact Or.inr rfl
  | some r =>
    refine ⟨r.dump, rfl, r.dump_ne_null, ?_⟩
    have hread := h r rfl none (by simp [IsDumped])
    rwa [Value.patchAt_of_not_base (by simp)] at hread

/-- A part that is patched onto what is stored. -/
theorem part_patchedAt {p : Option Ref} (h : Rereads p) {current : Option Value}
    (hcurrent : IsDumped current) : Part (Value.patchedAt current (some (dumpPart p))) p := by
  cases p with
  | none => exact Or.inl rfl
  | some r =>
    rw [dumpPart, Value.patchedAt_of_ne_null r.dump_ne_null]
    exact ⟨_, rfl, Value.patchAt_ne_null r.dump_ne_null, h r rfl current hcurrent⟩

/-- **A reference is read back from what a patch leaves of it.** -/
theorem read_patchAt_dump : (r : Ref) → (current : Option Value) → IsDumped current →
    read (Value.patchAt current r.dump) = .ok r
  | ⟨id, c, d⟩, current, h => by
    have hc : Rereads c := fun r _ current h => read_patchAt_dump r current h
    have hd : Rereads d := fun r _ current h => read_patchAt_dump r current h
    by_cases hbase : ∃ base, current = some (.dict base)
    · obtain ⟨base, rfl⟩ := hbase
      obtain ⟨r, hr⟩ := h base rfl
      rw [dump_eq] at hr
      cases hr
      rw [dump_eq, Value.patchAt_dict]
      have hdistinct : ∀ r : Ref, Dict.Distinct [(Key.text "id", Value.text r.id),
          (.text "collection", dumpPart r.collection), (.text "database", dumpPart r.database)] := by
        simp [Dict.Distinct]
      refine read_of_parts ?_ ?_ ?_
      · rw [Value.get?_patchEntries (hdistinct r) (hdistinct ⟨id, c, d⟩)]
        simp [Dict.get?, Value.patchedAt, Value.patchAt]
      · rw [Value.get?_patchEntries (hdistinct r) (hdistinct ⟨id, c, d⟩)]
        simpa [Dict.get?] using part_patchedAt hc (isDumped_dumpPart r.collection)
      · rw [Value.get?_patchEntries (hdistinct r) (hdistinct ⟨id, c, d⟩)]
        simpa [Dict.get?] using part_patchedAt hd (isDumped_dumpPart r.database)
    · rw [Value.patchAt_of_not_base fun base hbase' => hbase ⟨base, hbase'⟩, dump_eq]
      refine read_of_parts ?_ ?_ ?_
      · simp [Dict.get?]
      · simpa [Dict.get?] using part_dumpPart hc
      · simpa [Dict.get?] using part_dumpPart hd
termination_by r => sizeOf r
decreasing_by all_goals subst_vars; simp only [mk.sizeOf_spec, Option.some.sizeOf_spec]; omega

/-- **A reference is read back from its dictionary.** -/
theorem read_dump (r : Ref) : read r.dump = .ok r := by
  have h := read_patchAt_dump r none (by simp [IsDumped])
  rwa [Value.patchAt_of_not_base (by simp)] at h

end DocMapper.Ref
