import DocMapper.Proofs.Schema.Storing
import DocMapper.Proofs.Value.Ordering
/-!
# Plain data beside the value

Taking the references and instances in a value apart gives another value unless there are none:
plain data that is the same as the value is the value itself (`Value.dump_eq_self`).

`Value.Alike` values stand to plain data in the same way, so that bounds which are plain data do not
tell them apart. An instance is like any other instance of its schema.
-/

namespace DocMapper.Value

/-! ## Parts of plain data -/

/-- Only null has null for its plain data. -/
theorem dump_eq_null_iff {v : Value} : v.dump = .null ↔ v = .null := by
  cases v with
  | ref r => simp [dump, r.dump_ne_null]
  | _ => simp [dump]

theorem dump_ne_record (v : Value) (schema : Signature) (fields : List (String × Value)) :
    v.dump ≠ .record schema fields := by
  cases v with
  | ref r => simp [dump, r.dump_eq]
  | _ => simp [dump]

theorem exists_dump_of_list {v : Value} {items : List Value} (h : v.dump = .list items) :
    ∀ x ∈ items, ∃ y : Value, x = y.dump := by
  cases v with
  | list own =>
    rw [dump, list.injEq, dumpList_eq_map] at h
    rw [← h, List.forall_mem_map]
    exact fun y _ => ⟨y, rfl⟩
  | ref r => simp [dump, r.dump_eq] at h
  | _ => simp [dump] at h

theorem exists_dump_of_tuple {v : Value} {items : List Value} (h : v.dump = .tuple items) :
    ∀ x ∈ items, ∃ y : Value, x = y.dump := by
  cases v with
  | tuple own =>
    rw [dump, tuple.injEq, dumpList_eq_map] at h
    rw [← h, List.forall_mem_map]
    exact fun y _ => ⟨y, rfl⟩
  | ref r => simp [dump, r.dump_eq] at h
  | _ => simp [dump] at h

theorem exists_dump_of_part (p : Option Ref) : ∃ y : Value, Ref.dumpPart p = y.dump := by
  cases p with
  | none => exact ⟨.null, by simp [dump, Ref.dumpPart]⟩
  | some r => exact ⟨.ref r, by rw [dump, Ref.dumpPart]⟩

theorem exists_dump_of_dict {v : Value} {members : Dict Value} (h : v.dump = .dict members) :
    ∀ e ∈ members, ∃ y : Value, e.2 = y.dump := by
  cases v with
  | dict own =>
    rw [dump, dict.injEq, dumpEntries_eq_map] at h
    rw [← h, List.forall_mem_map]
    exact fun e _ => ⟨e.2, rfl⟩
  | record schema fields =>
    rw [dump, dict.injEq, dumpFields_eq_map] at h
    rw [← h, List.forall_mem_map]
    exact fun e _ => ⟨e.2, rfl⟩
  | ref r =>
    rw [dump, r.dump_eq, dict.injEq] at h
    rw [← h]
    simp only [List.forall_mem_cons, List.not_mem_nil, false_implies, implies_true, and_true]
    exact ⟨⟨.text r.id, by rw [dump]; all_goals simp⟩, exists_dump_of_part r.collection,
      exists_dump_of_part r.database⟩
  | _ => simp [dump] at h

/-- The plain data of an instance has each field under its name. -/
theorem get?_dumpFields (held : List (String × Value)) (name : String) :
    Dict.get? (dumpFields held) (.text name) = (held.lookup name).map dump := by
  rw [dumpFields_eq_map]
  exact get?_texts held (fun _ => dump) name

/-! ## Values that are their own plain data -/

/-- Dictionaries with the same keys in the same order have distinct keys if one has. -/
theorem distinct_of_forall₂ {entries others : Dict Value} (hd : others.Distinct)
    (hkeys : List.Forall₂ (fun e e' => e.1 = e'.1) entries others) : entries.Distinct := by
  refine hd.of_keys_eq ?_
  rwa [Dict.keys, Dict.keys, ← List.forall₂_eq_eq_eq, List.forall₂_map_left_iff,
    List.forall₂_map_right_iff]

/-- Dictionaries with the same keys in the same order are the same entry by entry. -/
theorem same_dict_iff_forall₂ {entries others : Dict Value} (hd : others.Distinct)
    (hkeys : List.Forall₂ (fun e e' => e.1 = e'.1) entries others) :
    same (.dict entries) (.dict others) = true ↔
      List.Forall₂ (fun e e' => e.2.same e'.2 = true) entries others := by
  rw [same_dict_iff]
  constructor
  · rintro ⟨-, hlike⟩
    have hparts := ((List.forall₂_and_left _ _).2 ⟨hlike, hkeys⟩).flip
    refine (((List.forall₂_and_left _ _).2 ⟨fun e he => hd.get?_of_mem he, hparts⟩).imp ?_).flip
    rintro e' e ⟨hown, ⟨w, hw, hsame⟩, hkey⟩
    rw [hkey] at hw
    cases hown.symm.trans hw
    exact hsame
  · intro hsame
    refine ⟨hkeys.length_eq, fun e he => ?_⟩
    have hparts := List.Forall₂.mp (fun _ _ hkey hsame => And.intro hkey hsame) hkeys hsame
    obtain ⟨e', he', hkey, hlike⟩ := exists_mem_of_forall₂ hparts.flip he
    exact ⟨e'.2, hkey ▸ hd.get?_of_mem he', hlike⟩

mutual

/-- **Plain data that is the same as the value is the value.** -/
theorem dump_eq_self : {v : Value} → v.WellKeyed → v.dump.same v = true → v.dump = v
  | .list items, hv, h => by
    rw [dump, same] at h
    rw [dump, dumpList_eq_self (wellKeyed_list.1 hv) h]
  | .tuple items, hv, h => by
    rw [dump, same] at h
    rw [dump, dumpList_eq_self (wellKeyed_tuple.1 hv) h]
  | .dict entries, hv, h => by
    obtain ⟨hd, hvalues⟩ := wellKeyed_dict.1 hv
    rw [dump, same_dict_iff, dumpEntries_eq_map, List.forall_mem_map] at h
    rw [dump, dumpEntries_eq_self hvalues fun e he => ?_]
    obtain ⟨w, hw, hsame⟩ := h.2 e he
    cases (hd.get?_of_mem he).symm.trans hw
    exact hsame
  | .ref r, _, h => by
    simp [dump, r.dump_eq, same, sameNumber, sameMagnitude, magnitude?] at h
  | .record .., _, h => by
    simp [dump, same, sameNumber, sameMagnitude, magnitude?] at h
  | .null, _, _ | .bool _, _, _ | .int _, _, _ | .float _, _, _ | .text _, _, _ | .bytes _, _, _
  | .timestamp _, _, _ | .date _, _, _ | .accessor _, _, _ | .thunk _, _, _ | .query _, _, _
  | .rows _, _, _ | .closure .., _, _ | .foreign _, _, _ => by simp [dump]

theorem dumpList_eq_self : {items : List Value} → (∀ v ∈ items, v.WellKeyed) →
    sameList (dumpList items) items = true → dumpList items = items
  | [], _, _ => rfl
  | v :: rest, hv, h => by
    obtain ⟨hhead, hrest⟩ := List.forall_mem_cons.1 hv
    rw [dumpList, sameList, Bool.and_eq_true] at h
    rw [dumpList, dump_eq_self hhead h.1, dumpList_eq_self hrest h.2]

theorem dumpEntries_eq_self : {entries : List (Key × Value)} →
    (∀ e ∈ entries, e.2.WellKeyed) → (∀ e ∈ entries, e.2.dump.same e.2 = true) →
    dumpEntries entries = entries
  | [], _, _ => rfl
  | (k, v) :: rest, hv, h => by
    obtain ⟨hhead, hrest⟩ := List.forall_mem_cons.1 hv
    obtain ⟨hsame, hothers⟩ := List.forall_mem_cons.1 h
    rw [dumpEntries, dump_eq_self hhead hsame, dumpEntries_eq_self hrest hothers]

end

/-! ## Values that plain data does not tell apart -/

/-- Two values stand to all plain data in the same way. -/
def Alike (a b : Value) : Prop :=
  ∀ c : Value, c.isPlain = true → a.same c = b.same c ∧ a.compare? c = b.compare? c

theorem Alike.refl (a : Value) : a.Alike a := fun _ _ => ⟨rfl, rfl⟩

theorem Alike.list {items others : List Value} (h : List.Forall₂ Alike items others) :
    (list items).Alike (list others) := by
  have key : ∀ {items others : List Value}, List.Forall₂ Alike items others →
      ∀ cs : List Value, (∀ c ∈ cs, c.isPlain = true) →
        sameList items cs = sameList others cs ∧ compareList? items cs = compareList? others cs := by
    intro items others h
    induction h with
    | nil => exact fun cs _ => ⟨rfl, rfl⟩
    | cons hhead _ ih =>
      intro cs hcs
      cases cs with
      | nil => exact ⟨rfl, rfl⟩
      | cons c rest =>
        obtain ⟨hc, hrest⟩ := List.forall_mem_cons.1 hcs
        obtain ⟨hsame, hcompare⟩ := hhead c hc
        obtain ⟨hsames, hcompares⟩ := ih rest hrest
        simp only [sameList, compareList?, hsame, hcompare, hsames, hcompares, and_self]
  intro c hc
  cases c with
  | list cs => exact key h cs (isPlain_list.1 hc)
  | _ => simp [same, compare?, sameNumber, sameMagnitude, magnitude?]

theorem Alike.dict {entries others : Dict Value}
    (h : List.Forall₂ (fun e e' => e.1 = e'.1 ∧ e.2.Alike e'.2) entries others) :
    (dict entries).Alike (dict others) := by
  intro c hc
  rw [compare?_dict, compare?_dict]
  refine ⟨?_, rfl⟩
  cases c with
  | dict cs =>
    have key : sameEntries entries cs = sameEntries others cs := by
      induction h with
      | nil => rfl
      | @cons e e' rest rest' hhead hrest ih =>
        obtain ⟨k, a⟩ := e
        obtain ⟨k', b⟩ := e'
        obtain ⟨rfl, halike⟩ := hhead
        rw [sameEntries, sameEntries, ih]
        cases hget : Dict.get? cs k with
        | none => rfl
        | some w =>
          obtain ⟨_, hw, -⟩ := Dict.exists_mem_of_get? hget
          have hsame : a.same w = b.same w := (halike w (isPlain_dict.1 hc _ hw)).1
          simp only [hsame]
    rw [same, same, key, h.length_eq]
  | _ => simp [same, sameNumber, sameMagnitude, magnitude?]

/-- An instance is told apart from plain data as any other of its schema is. -/
theorem Alike.record (schema : Signature) (fields others : List (String × Value)) :
    (record schema fields).Alike (record schema others) := by
  intro c hc
  rw [compare?_record, compare?_record]
  cases c with
  | record => simp [isPlain] at hc
  | _ => simp [same, sameNumber, sameMagnitude, magnitude?]

end DocMapper.Value
