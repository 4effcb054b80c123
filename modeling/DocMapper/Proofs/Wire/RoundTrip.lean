import DocMapper.Proofs.Wire.Decoding
import DocMapper.Proofs.Wire.Unambiguous
/-!
# What is sent as it is received

Queries and responses have one notation for null, truth values, numbers and texts, references,
timestamps and dates, and for lists of such (`Value.Shared`). What is written in it is decoded to the
same value again, but for timestamps whose offsets are shorter than a second: their text is read as
universal time (`Value.decode_toWire_iff`).
-/

namespace DocMapper

open Wire

/-! ## References -/

/-- A part of a reference comes back if the reference in it does. -/
theorem Ref.decodedPart_toWire {members : Dict Wire} {name : String} {part : Option Ref}
    (hname : members.get? name = part.map fun r => .single "@ref" r.toWire)
    (ih : ∀ r, part = some r → decode (.single "@ref" r.toWire) = .ok (.ref r)) :
    decodedPart (decodeMembers members) name = .ok (partValue part) := by
  refine decodedPart_eq (fun w hw => ?_) fun hnone => ?_
  · obtain ⟨r, rfl, rfl⟩ := Option.map_eq_some_iff.1 (hname.symm.trans hw)
    exact ih r rfl
  · exact Option.map_eq_none_iff.1 (hname.symm.trans hnone)

/-- **A reference comes back**, however deep it is. -/
theorem Ref.decode_toWire : (r : Ref) → decode (.single "@ref" r.toWire) = .ok (.ref r)
  | ⟨id, c, d⟩ => by
    have hid : Dict.get? (decodeMembers (("id", .text id) ::
        (partMember "collection" c ++ partMember "database" d))) "id" =
          some (.text id, decode (.text id)) := rfl
    have hc := decodedPart_toWire (get?_collection id c d) fun r _ => decode_toWire r
    have hd := decodedPart_toWire (get?_database id c d) fun r _ => decode_toWire r
    have htag : ∀ members, decode (.single "@ref" (.object members)) =
        decodeRef (decodeMembers members) := fun _ => rfl
    rw [toWire_eq, htag, decodeRef_eq hid, hc, hd]
    show (do return Value.ref (← Checked.orReject "Ref" (Ref.read _))) = _
    rw [Wire.toValue, read_partValues ⟨id, c, d⟩]
    rfl
termination_by r => sizeOf r
decreasing_by all_goals subst_vars; simp only [mk.sizeOf_spec, Option.some.sizeOf_spec]; omega

/-- The text of a timestamp is decoded to what it is read as. -/
theorem Timestamp.decode_iso (t : Timestamp) :
    decode (.single "@ts" (.text t.iso)) = .ok (.timestamp t.asRead) := by
  show decodeTimestamp (.text t.iso) = _
  rw [decodeTimestamp, expandZulu_iso, ofIso?_iso_eq]

namespace Value

/-! ## Values -/

/-- The values that queries and responses have one notation for, with timestamps that are allowed. -/
inductive Shared (allowed : Timestamp → Prop) : Value → Prop
  | null : Shared allowed .null
  | bool (b : Bool) : Shared allowed (.bool b)
  | int (n : Int) : Shared allowed (.int n)
  | float {x : Binary64} (h : x.isFinite = true) : Shared allowed (.float x)
  | text (s : String) : Shared allowed (.text s)
  | ref (r : Ref) : Shared allowed (.ref r)
  | timestamp {t : Timestamp} (h : allowed t) : Shared allowed (.timestamp t)
  | date (d : Date) : Shared allowed (.date d)
  | list {items : List Value} (h : ∀ v ∈ items, Shared allowed v) : Shared allowed (.list items)

mutual

/-- The value with each timestamp as its text is read. -/
def asRead : Value → Value
  | .timestamp t => .timestamp t.asRead
  | .list items => .list (asReadList items)
  | v => v

/-- The values with each timestamp as its text is read. -/
def asReadList : List Value → List Value
  | [] => []
  | v :: rest => v.asRead :: asReadList rest

end

theorem asReadList_eq (items : List Value) : asReadList items = items.map asRead := by
  induction items with
  | nil => rfl
  | cons v rest ih => rw [asReadList, ih, List.map_cons]

variable {allowed : Timestamp → Prop} {v : Value}

/-- **What a value is decoded to from its own form.** -/
theorem decode_toWire (h : v.Shared allowed) : decode v.toWire = .ok v.asRead := by
  induction h with
  | ref r => exact r.decode_toWire
  | @timestamp t h => exact t.decode_iso
  | date d => exact decode_date d
  | @list items h ih =>
    have hitems : (items.map toWire).mapM decode = .ok (items.map asRead) := by
      rw [List.mapM_map]
      exact Except.mapM_eq_map ih
    rw [toWire, toWireList_eq, decode, collect_decodeItems, hitems, asRead, asReadList_eq]
    rfl
  | _ => rfl

theorem like_timestamp {s t : Timestamp} :
    (timestamp s).Like (timestamp t) ↔ s.iso = t.iso := by
  refine ⟨fun h => ?_, .timestamp⟩
  cases h with
  | refl => rfl
  | timestamp h => exact h

/-- What is read is the value itself exactly if all its offsets can be told from universal time. -/
theorem asRead_like_iff (h : v.Shared allowed) :
    v.asRead.Like v ↔ v.Shared Timestamp.IsLegible := by
  induction h with
  | @timestamp t h =>
    rw [asRead, like_timestamp, Timestamp.iso_asRead_iff]
    refine ⟨.timestamp, fun hshared => ?_⟩
    cases hshared with
    | timestamp hlegible => exact hlegible
  | @list items h ih =>
    have hlist : (list (items.map asRead)).Like (list items) ↔ ∀ v ∈ items, v.asRead.Like v := by
      rw [like_list, ← List.forall₂_same, ← List.forall₂_map_left_iff, List.forall₂_iff_zip]
    rw [asRead, asReadList_eq, hlist, forall₂_congr ih]
    refine ⟨.list, fun hshared => ?_⟩
    cases hshared with
    | list hitems => exact hitems
  | null => exact iff_of_true (.refl _) .null
  | bool b => exact iff_of_true (.refl _) (.bool b)
  | int n => exact iff_of_true (.refl _) (.int n)
  | float h => exact iff_of_true (.refl _) (.float h)
  | text s => exact iff_of_true (.refl _) (.text s)
  | ref r => exact iff_of_true (.refl _) (.ref r)
  | date d => exact iff_of_true (.refl _) (.date d)

/-- **What is sent comes back the same**, as long as the offsets of timestamps can be told from universal
time, and only then: any other offset is read as universal time. -/
theorem decode_toWire_iff (h : v.Shared allowed) : decode v.toWire = .ok v.asRead ∧
    ((∃ u, decode v.toWire = .ok u ∧ u.Like v) ↔ v.Shared Timestamp.IsLegible) := by
  refine ⟨decode_toWire h, ?_⟩
  rw [← asRead_like_iff h]
  constructor
  · rintro ⟨u, hu, hlike⟩
    rw [decode_toWire h] at hu
    cases hu
    exact hlike
  · exact fun hlike => ⟨_, decode_toWire h, hlike⟩

/-- Values of several kinds, in lists. -/
def sharedSample : Value := .list [.null, .list [.timestamp instantSample, .date instantSample.date],
  .ref ⟨"1", some ⟨"user", none, some ⟨"main", none, none⟩⟩, none⟩]

theorem decode_toWire_iff_sample : sharedSample.Shared Timestamp.IsLegible ∧
    ∃ u, decode sharedSample.toWire = .ok u ∧ u.Like sharedSample := by
  have hlegible : instantSample.IsLegible := by
    rintro _ ⟨⟩
    exact Or.inl rfl
  have hshared : sharedSample.Shared Timestamp.IsLegible := by
    refine .list (List.forall_mem_cons.2 ⟨.null, List.forall_mem_cons.2 ⟨.list ?_,
      List.forall_mem_singleton.2 (.ref _)⟩⟩)
    exact List.forall_mem_cons.2 ⟨.timestamp hlegible, List.forall_mem_singleton.2 (.date _)⟩
  exact ⟨hshared, (decode_toWire_iff hshared).2.2 hshared⟩

/-- **An offset shorter than a second does not come back.** -/
theorem sliver_not_returned : ¬ ∀ v : Value, v.Shared (fun _ => True) →
    ∃ u, decode v.toWire = .ok u ∧ u.Like v := by
  intro h
  have hshared : (timestamp sliver).Shared fun _ => True := .timestamp trivial
  obtain ⟨u, hu, hlike⟩ := h _ hshared
  rw [decode_toWire hshared] at hu
  cases hu
  have hlegible := (asRead_like_iff hshared).1 hlike
  cases hlegible with
  | timestamp hlegible => exact absurd (hlegible _ rfl) (by unfold Offset.IsLegible; decide)

end Value

end DocMapper
