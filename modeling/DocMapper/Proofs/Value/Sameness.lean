import DocMapper.Proofs.Number.Magnitude
import DocMapper.Proofs.Value.Plain
import DocMapper.Proofs.Value.Rereading
/-!
# Equality of plain data

Dictionaries are the same when every entry of one has its like in the other and they are equally
long, which is even-handed only as long as no key stands twice. So equality is that of an equivalence
on data whose dictionaries have distinct keys all the way down (`Value.WellKeyed`):
`Value.same_comm` and `Value.same_trans`.
-/

namespace DocMapper.Value

mutual

/-- No dictionary in the value has a key twice, and no instance a name. -/
def WellKeyed : Value → Prop
  | .list items => AreWellKeyed items
  | .tuple items => AreWellKeyed items
  | .dict entries => Dict.Distinct entries ∧ AreWellKeyedEntries entries
  | .record _ fields => fields.Pairwise (fun a b => a.1 ≠ b.1) ∧ AreWellKeyedFields fields
  | _ => True

/-- `WellKeyed` of each element. -/
def AreWellKeyed : List Value → Prop
  | [] => True
  | v :: rest => v.WellKeyed ∧ AreWellKeyed rest

/-- `WellKeyed` of each entry. -/
def AreWellKeyedEntries : List (Key × Value) → Prop
  | [] => True
  | (_, v) :: rest => v.WellKeyed ∧ AreWellKeyedEntries rest

/-- `WellKeyed` of each field. -/
def AreWellKeyedFields : List (String × Value) → Prop
  | [] => True
  | (_, v) :: rest => v.WellKeyed ∧ AreWellKeyedFields rest

end

attribute [local simp] AreWellKeyed AreWellKeyedEntries AreWellKeyedFields

theorem areWellKeyed_iff {items : List Value} :
    AreWellKeyed items ↔ ∀ v ∈ items, v.WellKeyed := by
  induction items with
  | nil => simp [AreWellKeyed]
  | cons v rest ih => simp [AreWellKeyed, ih]

theorem areWellKeyedEntries_iff {entries : List (Key × Value)} :
    AreWellKeyedEntries entries ↔ ∀ e ∈ entries, e.2.WellKeyed := by
  induction entries with
  | nil => simp [AreWellKeyedEntries]
  | cons e rest ih => simp [AreWellKeyedEntries, ih]

theorem areWellKeyedFields_iff {fields : List (String × Value)} :
    AreWellKeyedFields fields ↔ ∀ e ∈ fields, e.2.WellKeyed := by
  induction fields with
  | nil => simp [AreWellKeyedFields]
  | cons e rest ih => simp [AreWellKeyedFields, ih]

theorem wellKeyed_list {items : List Value} :
    WellKeyed (.list items) ↔ ∀ v ∈ items, v.WellKeyed := by
  rw [WellKeyed, areWellKeyed_iff]

theorem wellKeyed_tuple {items : List Value} :
    WellKeyed (.tuple items) ↔ ∀ v ∈ items, v.WellKeyed := by
  rw [WellKeyed, areWellKeyed_iff]

theorem wellKeyed_dict {entries : List (Key × Value)} :
    WellKeyed (.dict entries) ↔ Dict.Distinct entries ∧ ∀ e ∈ entries, e.2.WellKeyed := by
  rw [WellKeyed, areWellKeyedEntries_iff]

theorem wellKeyed_record {schema : Signature} {fields : List (String × Value)} :
    WellKeyed (.record schema fields) ↔ fields.Pairwise (fun a b => a.1 ≠ b.1) ∧
      ∀ e ∈ fields, e.2.WellKeyed := by
  rw [WellKeyed, areWellKeyedFields_iff]

/-- Plain data whose dictionaries have distinct keys. -/
structure IsData (v : Value) : Prop where
  plain : v.isPlain = true
  keyed : v.WellKeyed

theorem isData_list {items : List Value} : IsData (.list items) ↔ ∀ v ∈ items, v.IsData := by
  constructor
  · intro h v hv
    exact ⟨isPlain_list.1 h.plain v hv, wellKeyed_list.1 h.keyed v hv⟩
  · intro h
    exact ⟨isPlain_list.2 fun v hv => (h v hv).plain, wellKeyed_list.2 fun v hv => (h v hv).keyed⟩

theorem isData_tuple {items : List Value} : IsData (.tuple items) ↔ ∀ v ∈ items, v.IsData := by
  constructor
  · intro h v hv
    exact ⟨isPlain_tuple.1 h.plain v hv, wellKeyed_tuple.1 h.keyed v hv⟩
  · intro h
    exact ⟨isPlain_tuple.2 fun v hv => (h v hv).plain, wellKeyed_tuple.2 fun v hv => (h v hv).keyed⟩

theorem isData_dict {entries : List (Key × Value)} :
    IsData (.dict entries) ↔ Dict.Distinct entries ∧ ∀ e ∈ entries, e.2.IsData := by
  constructor
  · intro h
    obtain ⟨hd, hk⟩ := wellKeyed_dict.1 h.keyed
    exact ⟨hd, fun e he => ⟨isPlain_dict.1 h.plain e he, hk e he⟩⟩
  · rintro ⟨hd, h⟩
    exact ⟨isPlain_dict.2 fun e he => (h e he).plain,
      wellKeyed_dict.2 ⟨hd, fun e he => (h e he).keyed⟩⟩

/-! ## Numbers and times -/

theorem sameMagnitude_comm (a b : Value) : sameMagnitude a b = sameMagnitude b a := by
  unfold sameMagnitude
  cases a.magnitude? with
  | none => cases b.magnitude? <;> rfl
  | some x =>
    cases b.magnitude? with
    | none => rfl
    | some y => exact x.same_comm y

theorem sameNumber_comm (a b : Value) : sameNumber a b = sameNumber b a := by
  unfold sameNumber
  split
  · rename_i x y
    simp only [sameMagnitude_comm (.float x), eq_comm (a := x)]
  · rename_i h
    split
    · exact absurd rfl (h _ _ rfl)
    · exact sameMagnitude_comm a b

theorem sameMagnitude_trans {a b c : Value} (hab : sameMagnitude a b = true)
    (hbc : sameMagnitude b c = true) : sameMagnitude a c = true := by
  unfold sameMagnitude at *
  cases ha : a.magnitude? <;> cases hb : b.magnitude? <;> cases hc : c.magnitude? <;>
    simp only [ha, hb, hc, Bool.false_eq_true] at hab hbc
  exact Magnitude.same_trans hab hbc

/-- Numbers are the same as the same word, or by their value. -/
theorem sameNumber_iff {a b : Value} : sameNumber a b = true ↔
    (∃ w, a = .float w ∧ b = .float w) ∨ sameMagnitude a b = true := by
  unfold sameNumber
  split
  · rename_i v w
    rw [Bool.or_eq_true, decide_eq_true_eq]
    refine or_congr_left ⟨fun h => ⟨v, rfl, by rw [h]⟩, ?_⟩
    rintro ⟨u, hv, hw⟩
    cases hv
    cases hw
    rfl
  · rename_i h
    refine ⟨Or.inr, ?_⟩
    rintro (⟨w, rfl, rfl⟩ | h')
    · exact absurd rfl (h w w rfl)
    · exact h'

theorem sameNumber_trans {a b c : Value} (hab : sameNumber a b = true)
    (hbc : sameNumber b c = true) : sameNumber a c = true := by
  -- words that are equal may be exchanged, all else goes by the value
  rw [sameNumber_iff] at *
  rcases hab with ⟨w, rfl, rfl⟩ | hab
  · exact hbc
  · rcases hbc with ⟨w, rfl, rfl⟩ | hbc
    · exact Or.inr hab
    · exact Or.inr (sameMagnitude_trans hab hbc)

theorem same_timestamp_comm (s t : Timestamp) : s.same t = t.same s := by
  unfold Timestamp.same
  cases s.instant? <;> cases t.instant? <;> simp [Bool.beq_comm]

theorem same_timestamp_trans {s t u : Timestamp} (hst : s.same t = true) (htu : t.same u = true) :
    s.same u = true := by
  unfold Timestamp.same at *
  cases hs : s.instant? <;> cases ht : t.instant? <;> cases hu : u.instant? <;> simp_all

/-! ## Equality -/

/-- Whether a value holds no others. -/
def isLeaf : Value → Bool
  | .list _ => false
  | .tuple _ => false
  | .dict _ => false
  | .record .. => false
  | .query _ => false
  | _ => true

/-- A plain value that holds no others is data. -/
theorem isData_of_isLeaf {v : Value} (hplain : v.isPlain = true) (hleaf : v.isLeaf = true) :
    v.IsData := by
  refine ⟨hplain, ?_⟩
  cases v with
  | list | tuple | dict | record => cases hleaf
  | _ => trivial

/-- What is the same as a number is a number. -/
theorem isNumber_of_sameNumber {a b : Value} (h : sameNumber a b = true) :
    a.magnitude?.isSome ∧ b.magnitude?.isSome := by
  unfold sameNumber sameMagnitude at h
  split at h
  · simp [magnitude?]
  · split at h
    · simp_all
    · cases h

theorem same_of_isNumber {a : Value} (h : a.magnitude?.isSome) (b : Value) :
    a.same b = a.sameNumber b := by
  cases a <;> simp [magnitude?] at h <;> cases b <;> rfl

theorem same_symm_leaf {a b : Value} (ha : a.isLeaf = true) (h : a.same b = true) :
    b.same a = true := by
  by_cases hn : a.magnitude?.isSome
  · rw [same_of_isNumber hn] at h
    rw [same_of_isNumber (isNumber_of_sameNumber h).2, sameNumber_comm, h]
  · cases a <;> simp [isLeaf] at ha <;> simp [magnitude?] at hn <;> cases b <;>
      simp_all [same, sameNumber, sameMagnitude, magnitude?, same_timestamp_comm]

mutual

/-- Equality of plain data goes both ways. -/
theorem same_symm : {a b : Value} → a.IsData → b.IsData → a.same b = true → b.same a = true
  | .list items, b, ha, hb, h => by
    cases b with
    | list others =>
      rw [same] at h ⊢
      exact sameList_symm (isData_list.1 ha) (isData_list.1 hb) h
    | _ => simp [same, sameNumber, sameMagnitude, magnitude?] at h
  | .tuple items, b, ha, hb, h => by
    cases b with
    | tuple others =>
      rw [same] at h ⊢
      exact sameList_symm (isData_tuple.1 ha) (isData_tuple.1 hb) h
    | _ => simp [same, sameNumber, sameMagnitude, magnitude?] at h
  | .dict entries, b, ha, hb, h => by
    cases b with
    | dict others =>
      obtain ⟨hda, hea⟩ := isData_dict.1 ha
      obtain ⟨hdb, heb⟩ := isData_dict.1 hb
      rw [same_dict_iff_get? hda hdb] at h
      refine (same_dict_iff_get? hdb hda).2 fun key => ?_
      have hkey := h key
      generalize hv : Dict.get? entries key = v, hw : Dict.get? others key = w at hkey
      cases hkey with
      | none => exact .none
      | some hsame =>
        obtain ⟨k, hmem, -⟩ := Dict.exists_mem_of_get? hv
        obtain ⟨k', hmem', -⟩ := Dict.exists_mem_of_get? hw
        exact .some (sameEntries_symm hea _ hmem (heb _ hmem') hsame)
    | _ => simp [same, sameNumber, sameMagnitude, magnitude?] at h
  | .null, b, _, _, h | .bool _, b, _, _, h | .int _, b, _, _, h | .float _, b, _, _, h
  | .text _, b, _, _, h | .bytes _, b, _, _, h | .timestamp _, b, _, _, h | .date _, b, _, _, h
  | .ref _, b, _, _, h => same_symm_leaf rfl h
  | .record .., _, h, _, _ | .accessor _, _, h, _, _ | .thunk _, _, h, _, _ | .query _, _, h, _, _
  | .rows _, _, h, _, _ | .closure .., _, h, _, _ | .foreign _, _, h, _, _ =>
    absurd h.plain (by simp [isPlain])

theorem sameList_symm : {items others : List Value} → (∀ v ∈ items, v.IsData) →
    (∀ v ∈ others, v.IsData) → sameList items others = true → sameList others items = true
  | [], [], _, _, _ => rfl
  | [], _ :: _, _, _, h => by simp [sameList] at h
  | _ :: _, [], _, _, h => by simp [sameList] at h
  | v :: rest, w :: others, ha, hb, h => by
    obtain ⟨hv, hrest⟩ := List.forall_mem_cons.1 ha
    obtain ⟨hw, hothers⟩ := List.forall_mem_cons.1 hb
    simp only [sameList, Bool.and_eq_true] at h ⊢
    exact ⟨same_symm hv hw h.1, sameList_symm hrest hothers h.2⟩

theorem sameEntries_symm : {entries : List (Key × Value)} → (∀ e ∈ entries, e.2.IsData) →
    ∀ e ∈ entries, {w : Value} → w.IsData → e.2.same w = true → w.same e.2 = true
  | [], _, _, he, _, _, _ => by cases he
  | (k, v) :: rest, h, e, he, w, hw, hsame => by
    obtain ⟨hv, hrest⟩ := List.forall_mem_cons.1 h
    rcases List.mem_cons.1 he with rfl | hmem
    · exact same_symm hv hw hsame
    · exact sameEntries_symm hrest e hmem hw hsame

end

theorem same_trans_leaf {a b c : Value} (ha : a.isLeaf = true) (hab : a.same b = true)
    (hbc : b.same c = true) : a.same c = true := by
  by_cases hn : a.magnitude?.isSome
  · rw [same_of_isNumber hn] at hab ⊢
    rw [same_of_isNumber (isNumber_of_sameNumber hab).2] at hbc
    exact sameNumber_trans hab hbc
  · cases a <;> simp [isLeaf] at ha <;> simp [magnitude?] at hn <;> cases b <;>
      simp [same, sameNumber, sameMagnitude, magnitude?] at hab
    case timestamp t u =>
      cases c <;> simp [same, sameNumber, sameMagnitude, magnitude?] at hbc ⊢
      exact same_timestamp_trans hab hbc
    all_goals subst_vars
    all_goals exact hbc

mutual

/-- What is the same as something is the same as whatever that is the same as. -/
theorem same_trans : {a b c : Value} → a.IsData → b.IsData → c.IsData → a.same b = true →
    b.same c = true → a.same c = true
  | .list items, b, c, ha, hb, hc, hab, hbc => by
    cases b with
    | list middle =>
      cases c with
      | list others =>
        rw [same] at hab hbc ⊢
        exact sameList_trans (isData_list.1 ha) (isData_list.1 hb) (isData_list.1 hc) hab hbc
      | _ => simp [same, sameNumber, sameMagnitude, magnitude?] at hbc
    | _ => simp [same, sameNumber, sameMagnitude, magnitude?] at hab
  | .tuple items, b, c, ha, hb, hc, hab, hbc => by
    cases b with
    | tuple middle =>
      cases c with
      | tuple others =>
        rw [same] at hab hbc ⊢
        exact sameList_trans (isData_tuple.1 ha) (isData_tuple.1 hb) (isData_tuple.1 hc) hab hbc
      | _ => simp [same, sameNumber, sameMagnitude, magnitude?] at hbc
    | _ => simp [same, sameNumber, sameMagnitude, magnitude?] at hab
  | .dict entries, b, c, ha, hb, hc, hab, hbc => by
    cases b with
    | dict middle =>
      cases c with
      | dict others =>
        obtain ⟨hda, hea⟩ := isData_dict.1 ha
        obtain ⟨hdb, heb⟩ := isData_dict.1 hb
        obtain ⟨hdc, hec⟩ := isData_dict.1 hc
        rw [same_dict_iff_get? hda hdb] at hab
        rw [same_dict_iff_get? hdb hdc] at hbc
        refine (same_dict_iff_get? hda hdc).2 fun key => ?_
        have hfirst := hab key
        have hsecond := hbc key
        generalize hu : Dict.get? entries key = u, hv : Dict.get? middle key = v,
          hw : Dict.get? others key = w at hfirst hsecond
        cases hfirst with
        | none => exact hsecond
        | some huv =>
          cases hsecond with
          | some hvw =>
            obtain ⟨k, hmem, -⟩ := Dict.exists_mem_of_get? hu
            obtain ⟨k', hmem', -⟩ := Dict.exists_mem_of_get? hv
            obtain ⟨k'', hmem'', -⟩ := Dict.exists_mem_of_get? hw
            exact .some (sameEntries_trans hea _ hmem (heb _ hmem') (hec _ hmem'') huv hvw)
      | _ => simp [same, sameNumber, sameMagnitude, magnitude?] at hbc
    | _ => simp [same, sameNumber, sameMagnitude, magnitude?] at hab
  | .null, _, _, _, _, _, hab, hbc | .bool _, _, _, _, _, _, hab, hbc
  | .int _, _, _, _, _, _, hab, hbc | .float _, _, _, _, _, _, hab, hbc
  | .text _, _, _, _, _, _, hab, hbc | .bytes _, _, _, _, _, _, hab, hbc
  | .timestamp _, _, _, _, _, _, hab, hbc | .date _, _, _, _, _, _, hab, hbc
  | .ref _, _, _, _, _, _, hab, hbc => same_trans_leaf rfl hab hbc
  | .record .., _, _, h, _, _, _, _ | .accessor _, _, _, h, _, _, _, _
  | .thunk _, _, _, h, _, _, _, _ | .query _, _, _, h, _, _, _, _ | .rows _, _, _, h, _, _, _, _
  | .closure .., _, _, h, _, _, _, _ | .foreign _, _, _, h, _, _, _, _ =>
    absurd h.plain (by simp [isPlain])

theorem sameList_trans : {items middle others : List Value} → (∀ v ∈ items, v.IsData) →
    (∀ v ∈ middle, v.IsData) → (∀ v ∈ others, v.IsData) → sameList items middle = true →
    sameList middle others = true → sameList items others = true
  | [], [], _, _, _, _, _, h => h
  | [], _ :: _, _, _, _, _, h, _ => by simp [sameList] at h
  | _ :: _, [], _, _, _, _, h, _ => by simp [sameList] at h
  | _ :: _, _ :: _, [], _, _, _, _, h => by simp [sameList] at h
  | u :: rest, v :: middle, w :: others, ha, hb, hc, hab, hbc => by
    obtain ⟨hu, hrest⟩ := List.forall_mem_cons.1 ha
    obtain ⟨hv, hmiddle⟩ := List.forall_mem_cons.1 hb
    obtain ⟨hw, hothers⟩ := List.forall_mem_cons.1 hc
    simp only [sameList, Bool.and_eq_true] at hab hbc ⊢
    exact ⟨same_trans hu hv hw hab.1 hbc.1, sameList_trans hrest hmiddle hothers hab.2 hbc.2⟩

theorem sameEntries_trans : {entries : List (Key × Value)} → (∀ e ∈ entries, e.2.IsData) →
    ∀ e ∈ entries, {v w : Value} → v.IsData → w.IsData → e.2.same v = true →
    v.same w = true → e.2.same w = true
  | [], _, _, he, _, _, _, _, _, _ => by cases he
  | (k, u) :: rest, h, e, he, v, w, hv, hw, huv, hvw => by
    obtain ⟨hu, hrest⟩ := List.forall_mem_cons.1 h
    rcases List.mem_cons.1 he with rfl | hmem
    · exact same_trans hu hv hw huv hvw
    · exact sameEntries_trans hrest e hmem hv hw huv hvw

end

/-- **Equality of plain data goes both ways.** -/
theorem same_comm {a b : Value} (ha : a.IsData) (hb : b.IsData) : a.same b = b.same a := by
  rw [Bool.eq_iff_iff]
  exact ⟨same_symm ha hb, same_symm hb ha⟩

end DocMapper.Value
