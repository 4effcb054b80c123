import DocMapper.Proofs.Schema.Checking
import DocMapper.Proofs.Value.WellKeyed
/-!
# Schemas of distinct names

A schema declares every field once, and so do the schemas of its instances
(`FieldType.WellNamed`). Whatever such a schema makes of data with distinct keys has distinct keys and
names (`FieldType.wellKeyed_of_check`), and so has its stored form.
-/

namespace DocMapper

namespace FieldType

mutual

/-- Every schema in the type declares each field once, with a default of distinct keys if it has
one. -/
def WellNamed : FieldType → Prop
  | .optional inner => WellNamed inner
  | .list item => WellNamed item
  | .entries value => WellNamed value
  | .record _ _ _ fields =>
    fields.Pairwise (fun a b => a.1.name ≠ b.1.name) ∧ AreWellNamed fields
  | _ => True

/-- `WellNamed` of the type of each field. -/
def AreWellNamed : List (Field × FieldType) → Prop
  | [] => True
  | (f, type) :: rest =>
    (∀ v, f.default = .value v → v.WellKeyed) ∧ WellNamed type ∧ AreWellNamed rest

end

variable {now : Int} {limits : Limits}

/-- What is laid over declared fields has distinct names if the two have. -/
theorem pairwise_overlay {declared others : List (String × Value)}
    (hd : declared.Pairwise fun a b => a.1 ≠ b.1) (ho : others.Pairwise fun a b => a.1 ≠ b.1) :
    (overlay declared others).Pairwise fun a b => a.1 ≠ b.1 := by
  unfold overlay
  refine List.pairwise_append.2 ⟨List.pairwise_map.2 hd, ho.filter _, ?_⟩
  intro a ha b hb
  obtain ⟨d, hmem, rfl⟩ := List.mem_map.1 ha
  have hall := (List.mem_filter.1 hb).2
  simpa using List.all_eq_true.1 hall d hmem

theorem forall_overlay {P : Value → Prop} {declared others : List (String × Value)}
    (hd : ∀ e ∈ declared, P e.2) (ho : ∀ e ∈ others, P e.2) :
    ∀ e ∈ overlay declared others, P e.2 := by
  intro e he
  rcases List.mem_append.1 he with he | he
  · obtain ⟨d, hmem, rfl⟩ := List.mem_map.1 he
    cases hv : others.lookup d.1 with
    | none => simpa [hv] using hd d hmem
    | some v =>
      obtain ⟨before, after, hothers, -⟩ := List.lookup_eq_some_iff.1 hv
      have hmem' : (d.1, v) ∈ others := by
        rw [hothers]
        exact List.mem_append_right _ List.mem_cons_self
      simpa [hv] using ho _ hmem'
  · exact ho e (List.mem_filter.1 he).1

theorem areWellNamed_iff {fields : List (Field × FieldType)} : AreWellNamed fields ↔
    ∀ d ∈ fields, (∀ v, d.1.default = .value v → v.WellKeyed) ∧ d.2.WellNamed := by
  induction fields with
  | nil => simp [AreWellNamed]
  | cons d rest ih => simp only [AreWellNamed, List.forall_mem_cons, ih, and_assoc]

/-- What a field comes to has distinct keys, if what a check of its type gives does. -/
theorem wellKeyed_of_checkField {f : Field} {type : FieldType} {members : Dict Value}
    (hdefault : ∀ v, f.default = .value v → v.WellKeyed)
    (hmembers : ∀ e ∈ members, e.2.WellKeyed)
    (hcheck : ∀ v w, v.WellKeyed → check now f.limits type v = .ok w → w.WellKeyed)
    {v : Value} (h : checkField now f type members = .ok v) : v.WellKeyed := by
  unfold checkField at h
  split at h
  · rename_i given hgiven
    obtain ⟨k, hmem, -⟩ := Dict.exists_mem_of_get? hgiven
    exact hcheck _ _ (hmembers _ hmem) (Checked.under_eq_ok.1 h)
  · split at h
    · cases h
    · rename_i hvalue
      cases h
      exact hdefault _ hvalue
    · cases h
      trivial
    · have hempty : Value.WellKeyed (.dict []) := Value.wellKeyed_dict.2 ⟨Dict.distinct_nil, by simp⟩
      exact hcheck _ _ hempty (Checked.under_eq_ok.1 h)

/-- The fields that a dictionary adds have distinct names and values of distinct keys. -/
theorem wellKeyed_of_checkExtra {extra : Extra} {fields : List (Field × FieldType)}
    {members : Dict Value} (hm : Value.WellKeyed (.dict members)) {added : List (String × Value)}
    (h : checkExtra extra (otherMembers fields members) = .ok added) :
    added.Pairwise (fun a b => a.1 ≠ b.1) ∧ ∀ e ∈ added, e.2.WellKeyed := by
  obtain ⟨hd, hvalues⟩ := Value.wellKeyed_dict.1 hm
  have hsublist := (sublist_of_checkExtra h).trans List.filter_sublist
  constructor
  · have hkeys : Dict.Distinct (added.map fun e => (Key.text e.1, e.2)) := hd.sublist hsublist
    exact (List.pairwise_map.1 hkeys).imp fun hne => by simpa using hne
  · intro e he
    exact hvalues _ (hsublist.subset (List.mem_map_of_mem (f := fun e => (Key.text e.1, e.2)) he))

mutual

/-- **What a check makes of data with distinct keys has distinct keys.** -/
theorem wellKeyed_of_check : (type : FieldType) → type.WellNamed → {limits : Limits} →
    {v w : Value} → v.WellKeyed → check now limits type v = .ok w → w.WellKeyed
  | .text, _, _, _, _, _, h => by
    obtain ⟨s, -, rfl, -⟩ := check_text.1 h
    trivial
  | .int, _, _, _, _, _, h => by
    obtain ⟨n, -, rfl, -⟩ := check_int.1 h
    trivial
  | .float, _, _, _, _, _, h => by
    obtain ⟨x, -, rfl, -⟩ := check_float.1 h
    trivial
  | .bool, _, _, _, _, _, h => by
    obtain ⟨b, -, rfl, -⟩ := check_bool.1 h
    trivial
  | .timestamp, _, _, _, _, _, h => by
    obtain ⟨t, -, rfl, -⟩ := check_timestamp.1 h
    trivial
  | .date, _, _, _, _, _, h => by
    obtain ⟨d, -, rfl, -⟩ := check_date.1 h
    trivial
  | .ref, _, _, _, _, _, h => by
    obtain ⟨r, -, rfl, -⟩ := check_ref.1 h
    trivial
  | .any, _, _, _, _, hv, h => by
    rw [Limits.hold_eq_ok h]
    exact hv
  | .dict, _, _, v, _, hv, h => by
    cases v with
    | dict members =>
      obtain ⟨u, hu, hw⟩ := Except.bind_eq_ok.1 h
      rw [Limits.holdBounds_eq_ok hw, Limits.checkDict_eq_ok hu]
      exact hv
    | _ => cases h
  | .optional inner, hs, _, v, _, hv, h => by
    cases v with
    | null =>
      cases h
      trivial
    | _ => exact wellKeyed_of_check inner hs hv h
  | .list item, hs, _, v, _, hv, h => by
    obtain ⟨items, values, hitems, hvalues, rfl, -⟩ := check_list.1 h
    have hparts : ∀ x ∈ items, x.WellKeyed := by
      rcases hitems with rfl | rfl
      · exact Value.wellKeyed_list.1 hv
      · exact Value.wellKeyed_tuple.1 hv
    refine Value.wellKeyed_list.2 fun y hy => ?_
    obtain ⟨x, hx, hcheck⟩ := forall_mem_of_map_eq hvalues hy
    exact wellKeyed_of_check item hs (hparts x hx) hcheck
  | .entries value, hs, _, v, _, hv, h => by
    obtain ⟨members, entries, rfl, hentries, rfl, -⟩ := check_entries.1 h
    refine Value.wellKeyed_dict.2 ⟨Dict.distinct_ofEntries _, ?_⟩
    refine Dict.forall_mem_putAll (by simp) fun e he => ?_
    obtain ⟨m, hm, hcheck⟩ := forall_mem_of_map_eq hentries he
    obtain ⟨s, -, -, hvalue⟩ := checkEntry_eq_ok.1 hcheck
    exact wellKeyed_of_check value hs ((Value.wellKeyed_dict.1 hv).2 m hm) hvalue
  | .set _, _, _, _, _, hv, h | .tuple _, _, _, _, _, hv, h | .union _, _, _, _, _, hv, h => by
    cases h
    exact hv
  | .record name declaration extra fields, hs, _, v, _, hv, h => by
    cases v with
    | record own held =>
      unfold check at h
      simp only at h
      split at h
      · rw [Limits.hold_eq_ok h]
        exact hv
      · cases h
    | dict members =>
      simp only [check, Except.bind_eq_ok, Checked.both_eq_ok, Checked.all_eq_ok, Prod.exists] at h
      obtain ⟨declared, added, ⟨hdeclared, hadded⟩, hw⟩ := h
      have hfields := checkFields_eq.1 hdeclared
      obtain ⟨hnames, hvalues⟩ := wellKeyed_of_checkExtra hv hadded
      rw [Limits.hold_eq_ok hw]
      refine Value.wellKeyed_record.2 ⟨pairwise_overlay (hfields.distinct hs.1) hnames,
        forall_overlay (fun e he => ?_) hvalues⟩
      obtain ⟨d, hd, -, hcheck⟩ := hfields.exists_declaration he
      exact wellKeyed_of_checkField (areWellNamed_iff.1 hs.2 d hd).1 (Value.wellKeyed_dict.1 hv).2
        (fun _ _ => wellKeyed_of_checks fields hs.2 d hd) hcheck
    | _ => cases h

theorem wellKeyed_of_checks : (fields : List (Field × FieldType)) → AreWellNamed fields →
    ∀ d ∈ fields, {v w : Value} → v.WellKeyed → check now d.1.limits d.2 v = .ok w → w.WellKeyed
  | [], _, _, hd, _, _, _, _ => by cases hd
  | (f, type) :: rest, hs, d, hd, v, w, hv, h => by
    rcases List.mem_cons.1 hd with rfl | hmem
    · exact wellKeyed_of_check type hs.2.1 hv h
    · exact wellKeyed_of_checks rest hs.2.2 d hmem hv h

end

end FieldType

end DocMapper
