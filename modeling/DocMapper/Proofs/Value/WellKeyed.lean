import DocMapper.Proofs.Schema.Storing
import DocMapper.Proofs.Value.Patching
import DocMapper.Proofs.Value.Sameness
/-!
# Keys stay distinct

Whatever is made of data whose dictionaries have distinct keys has them too: what it comes to in a
query (`Value.WellKeyed.settled`), its dumps, patches and merges. So stored data never has a key
twice.
-/

namespace DocMapper.Value

/-! ## Parts of data -/

/-- What is found in a dictionary is a value of it. -/
theorem exists_mem_of_find {α : Type} {d : Dict α} {key : Value} {v : α}
    (h : find d key = .ok (some v)) : ∃ k, (k, v) ∈ d := by
  obtain ⟨key, -, hget⟩ := Except.bind_eq_ok.1 h
  obtain ⟨k, -, hk⟩ := Option.bind_eq_some_iff.1 (Except.ok.inj hget)
  obtain ⟨k', hmem, -⟩ := Dict.exists_mem_of_get? hk
  exact ⟨k', hmem⟩

/-- A field of data is data. -/
theorem IsData.fieldAt {v w : Value} {path : List Value} (hv : v.IsData)
    (h : v.fieldAt path = .ok w) : w.IsData := by
  induction path generalizing v with
  | nil =>
    cases v <;> cases h <;> exact hv
  | cons key rest ih =>
    cases v with
    | dict entries =>
      obtain ⟨found, hfound, h⟩ := Except.bind_eq_ok.1 h
      cases found with
      | none =>
        cases h
        exact ⟨rfl, trivial⟩
      | some u =>
        obtain ⟨k, hmem⟩ := exists_mem_of_find hfound
        exact ih ((isData_dict.1 hv).2 _ hmem) h
    | _ =>
      cases h
      exact ⟨rfl, trivial⟩

/-- What a dictionary of data has at a key is data. -/
theorem IsData.subscript {entries : Dict Value} {key w : Value} (hv : (dict entries).IsData)
    (h : (dict entries).subscript key = .ok w) : w.IsData := by
  obtain ⟨found, hfound, h⟩ := Except.bind_eq_ok.1 h
  cases found with
  | none => cases h
  | some u =>
    cases h
    obtain ⟨k, hmem⟩ := exists_mem_of_find hfound
    exact (isData_dict.1 hv).2 _ hmem

theorem isData_text (s : String) : (text s).IsData := ⟨rfl, trivial⟩

theorem isData_int (n : Int) : (int n).IsData := ⟨rfl, trivial⟩

/-! ## Settling -/

theorem settledList_eq_map (items : List Value) : settledList items = items.map settled := by
  induction items with
  | nil => rfl
  | cons v rest ih => rw [settledList, ih, List.map_cons]

theorem settledEntries_eq_map (entries : List (Key × Value)) :
    settledEntries entries = entries.map fun e => (e.1, e.2.settled) := by
  induction entries with
  | nil => rfl
  | cons e rest ih => rw [settledEntries, ih, List.map_cons]

mutual

/-- What data comes to in a query is data. -/
theorem IsData.settled : {v : Value} → v.IsData → v.settled.IsData
  | .list items, h => by
    rw [Value.settled, isData_list]
    exact isData_settledList (isData_list.1 h)
  | .tuple items, h => by
    rw [Value.settled, isData_list]
    exact isData_settledList (isData_tuple.1 h)
  | .dict entries, h => by
    obtain ⟨hd, hentries⟩ := isData_dict.1 h
    rw [Value.settled, isData_dict]
    refine ⟨?_, isData_settledEntries hentries⟩
    rw [settledEntries_eq_map]
    exact hd.map fun e => e.2.settled
  | .null, h | .bool _, h | .int _, h | .float _, h | .text _, h | .bytes _, h | .timestamp _, h
  | .date _, h | .ref _, h | .record .., h | .accessor _, h | .thunk _, h | .query _, h
  | .rows _, h | .closure .., h | .foreign _, h => by simpa only [Value.settled] using h

theorem isData_settledList : {items : List Value} → (∀ v ∈ items, v.IsData) →
    ∀ v ∈ settledList items, v.IsData
  | [], _ => by simp [settledList]
  | v :: rest, h => by
    obtain ⟨hv, hrest⟩ := List.forall_mem_cons.1 h
    rw [settledList, List.forall_mem_cons]
    exact ⟨hv.settled, isData_settledList hrest⟩

theorem isData_settledEntries : {entries : List (Key × Value)} → (∀ e ∈ entries, e.2.IsData) →
    ∀ e ∈ settledEntries entries, e.2.IsData
  | [], _ => by simp [settledEntries]
  | (k, v) :: rest, h => by
    obtain ⟨hv, hrest⟩ := List.forall_mem_cons.1 h
    rw [settledEntries, List.forall_mem_cons]
    exact ⟨hv.settled, isData_settledEntries hrest⟩

end

/-! ## Patches and merges -/

theorem WellKeyed.patchAt {v : Value} (h : v.WellKeyed) {current : Option Value}
    (hcurrent : ∀ old, current = some old → old.WellKeyed) :
    (Value.patchAt current v).WellKeyed :=
  forall_patchAt (fun h => (wellKeyed_dict.1 h).2)
    (fun hbase hall => wellKeyed_dict.2 ⟨distinct_patchEntries (wellKeyed_dict.1 hbase).1 _, hall⟩)
    h hcurrent

/-- A patch of data onto data leaves data. -/
theorem IsData.patch {old new : Value} (ho : old.IsData) (hn : new.IsData) :
    (old.patch new).IsData where
  plain := isPlain_patchAt hn.plain fun _ hv => Option.some.inj hv ▸ ho.plain
  keyed := hn.keyed.patchAt fun _ hv => Option.some.inj hv ▸ ho.keyed

theorem WellKeyed.mergeEntries {base update : Dict Value} (hb : WellKeyed (.dict base))
    (hu : WellKeyed (.dict update)) : WellKeyed (.dict (mergeEntries base update)) := by
  obtain ⟨hd, hbase⟩ := wellKeyed_dict.1 hb
  refine wellKeyed_dict.2 ⟨distinct_mergeEntries hd update, ?_⟩
  exact forall_mergeEntries (fun h => (wellKeyed_dict.1 h).2)
    (fun hbase hall => wellKeyed_dict.2 ⟨distinct_mergeEntries (wellKeyed_dict.1 hbase).1 _, hall⟩)
    (wellKeyed_dict.1 hu).2 hbase

/-! ## Dumps -/

theorem wellKeyed_dump_ref : (r : Ref) → r.dump.WellKeyed
  | ⟨id, none, none⟩ => by
    simp [Ref.dump, wellKeyed_dict, Dict.Distinct, WellKeyed]
  | ⟨id, some c, none⟩ => by
    have hc := wellKeyed_dump_ref c
    simp [Ref.dump, wellKeyed_dict, Dict.Distinct, WellKeyed, hc]
  | ⟨id, none, some d⟩ => by
    have hd := wellKeyed_dump_ref d
    simp [Ref.dump, wellKeyed_dict, Dict.Distinct, WellKeyed, hd]
  | ⟨id, some c, some d⟩ => by
    have hc := wellKeyed_dump_ref c
    have hd := wellKeyed_dump_ref d
    simp [Ref.dump, wellKeyed_dict, Dict.Distinct, WellKeyed, hc, hd]

mutual

theorem WellKeyed.dump : {v : Value} → v.WellKeyed → v.dump.WellKeyed
  | .ref r, _ => by
    rw [Value.dump]
    exact wellKeyed_dump_ref r
  | .list items, h => by
    rw [Value.dump, wellKeyed_list]
    exact wellKeyed_dumpList (wellKeyed_list.1 h)
  | .tuple items, h => by
    rw [Value.dump, wellKeyed_tuple]
    exact wellKeyed_dumpList (wellKeyed_tuple.1 h)
  | .dict entries, h => by
    obtain ⟨hd, hentries⟩ := wellKeyed_dict.1 h
    rw [Value.dump, wellKeyed_dict]
    refine ⟨?_, wellKeyed_dumpEntries hentries⟩
    rw [dumpEntries_eq_map]
    exact hd.map fun e => e.2.dump
  | .record schema fields, h => by
    obtain ⟨hn, hfields⟩ := wellKeyed_record.1 h
    rw [Value.dump, wellKeyed_dict]
    refine ⟨?_, wellKeyed_dumpFields hfields⟩
    rw [dumpFields_eq_map]
    exact distinct_named hn fun e => e.2.dump
  | .null, h | .bool _, h | .int _, h | .float _, h | .text _, h | .bytes _, h | .timestamp _, h
  | .date _, h | .accessor _, h | .thunk _, h | .query _, h | .rows _, h | .closure .., h
  | .foreign _, h => by simpa only [Value.dump] using h

theorem wellKeyed_dumpList : {items : List Value} → (∀ v ∈ items, v.WellKeyed) →
    ∀ v ∈ dumpList items, v.WellKeyed
  | [], _ => by simp [dumpList]
  | v :: rest, h => by
    obtain ⟨hv, hrest⟩ := List.forall_mem_cons.1 h
    rw [dumpList, List.forall_mem_cons]
    exact ⟨hv.dump, wellKeyed_dumpList hrest⟩

theorem wellKeyed_dumpEntries : {entries : List (Key × Value)} → (∀ e ∈ entries, e.2.WellKeyed) →
    ∀ e ∈ dumpEntries entries, e.2.WellKeyed
  | [], _ => by simp [dumpEntries]
  | (k, v) :: rest, h => by
    obtain ⟨hv, hrest⟩ := List.forall_mem_cons.1 h
    rw [dumpEntries, List.forall_mem_cons]
    exact ⟨hv.dump, wellKeyed_dumpEntries hrest⟩

theorem wellKeyed_dumpFields : {fields : List (String × Value)} → (∀ e ∈ fields, e.2.WellKeyed) →
    ∀ e ∈ dumpFields fields, e.2.WellKeyed
  | [], _ => by simp [dumpFields]
  | (name, v) :: rest, h => by
    obtain ⟨hv, hrest⟩ := List.forall_mem_cons.1 h
    rw [dumpFields, List.forall_mem_cons]
    exact ⟨hv.dump, wellKeyed_dumpFields hrest⟩

end

mutual

theorem WellKeyed.jsonDump (storing : Storing) :
    {v : Value} → v.WellKeyed → (Value.jsonDump storing v).WellKeyed
  | .ref r, _ => by
    rw [Value.jsonDump]
    exact wellKeyed_dump_ref r
  | .list items, h => by
    rw [Value.jsonDump, wellKeyed_list]
    exact wellKeyed_jsonDumpList _ (wellKeyed_list.1 h)
  | .tuple items, h => by
    rw [Value.jsonDump, wellKeyed_list]
    exact wellKeyed_jsonDumpList _ (wellKeyed_tuple.1 h)
  | .dict entries, h => by
    rw [Value.jsonDump, wellKeyed_dict]
    exact ⟨Dict.distinct_ofEntries _, Dict.forall_mem_putAll (by simp)
      (wellKeyed_jsonDumpEntries _ (wellKeyed_dict.1 h).2)⟩
  | .record schema fields, h => by
    obtain ⟨hn, hfields⟩ := wellKeyed_record.1 h
    rw [Value.jsonDump, wellKeyed_dict]
    refine ⟨?_, wellKeyed_jsonDumpFields schema hfields⟩
    rw [jsonDumpFields_eq_map]
    exact distinct_named hn fun e => Value.jsonDump (schema.storingOf e.1) e.2
  | .null, _ | .bool _, _ | .int _, _ | .float _, _ | .text _, _ | .bytes _, _ | .timestamp _, _
  | .date _, _ => by
    unfold Value.jsonDump
    (try split) <;> trivial
  | .accessor _, h | .thunk _, h | .query _, h | .rows _, h | .closure .., h
  | .foreign _, h => by simpa only [Value.jsonDump] using h

theorem wellKeyed_jsonDumpList (storing : Storing) : {items : List Value} →
    (∀ v ∈ items, v.WellKeyed) → ∀ v ∈ jsonDumpList storing items, v.WellKeyed
  | [], _ => by simp [jsonDumpList]
  | v :: rest, h => by
    obtain ⟨hv, hrest⟩ := List.forall_mem_cons.1 h
    rw [jsonDumpList, List.forall_mem_cons]
    exact ⟨hv.jsonDump storing, wellKeyed_jsonDumpList storing hrest⟩

theorem wellKeyed_jsonDumpEntries (storing : Storing) : {entries : List (Key × Value)} →
    (∀ e ∈ entries, e.2.WellKeyed) → ∀ e ∈ jsonDumpEntries storing entries, e.2.WellKeyed
  | [], _ => by simp [jsonDumpEntries]
  | (k, v) :: rest, h => by
    obtain ⟨hv, hrest⟩ := List.forall_mem_cons.1 h
    rw [jsonDumpEntries, List.forall_mem_cons]
    exact ⟨hv.jsonDump storing, wellKeyed_jsonDumpEntries storing hrest⟩

theorem wellKeyed_jsonDumpFields (schema : Signature) : {fields : List (String × Value)} →
    (∀ e ∈ fields, e.2.WellKeyed) → ∀ e ∈ jsonDumpFields schema fields, e.2.WellKeyed
  | [], _ => by simp [jsonDumpFields]
  | (name, v) :: rest, h => by
    obtain ⟨hv, hrest⟩ := List.forall_mem_cons.1 h
    rw [jsonDumpFields, List.forall_mem_cons]
    exact ⟨hv.jsonDump _, wellKeyed_jsonDumpFields schema hrest⟩

end

/-- **What data is stored as is data.** -/
theorem isData_of_stored {v w : Value} (hv : v.WellKeyed) (h : v.stored = .ok w) : w.IsData := by
  refine ⟨(isSettled_of_stored h).1, ?_⟩
  unfold stored at h
  split at h
  · cases h
  · cases h
    exact hv.jsonDump .plain

end DocMapper.Value
