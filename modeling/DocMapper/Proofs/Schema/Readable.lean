import DocMapper.Proofs.Schema.Checking
/-!
# What checks leave

`FieldType.IsChecked limits type v` says that `v` is what a check leaves as a value of the type,
within limits. It covers all types that values are read as (`FieldType.IsReadable`): free-form data is
left as it is, an instance may keep undeclared members, and a field that was left out may have a
default that is no value of its type, as defaults are not checked.

Main statement: `FieldType.isChecked_of_check`.
-/

namespace DocMapper

namespace FieldType

mutual

/-- Values are read as the type: its fields have distinct names, those of a schema that keeps
undeclared members are given by their names, and bounds are plain data. -/
def IsReadable : FieldType → Prop
  | .optional inner => IsReadable inner
  | .list item => IsReadable item
  | .entries value => IsReadable value
  | .record _ _ extra fields => fields.Pairwise (fun a b => a.1.name ≠ b.1.name) ∧
      (extra = .kept → ∀ d ∈ fields, d.1.member = d.1.name) ∧ AreReadable fields
  | .set _ => False
  | .tuple _ => False
  | .union _ => False
  | _ => True

/-- `IsReadable` of each field. -/
def AreReadable : List (Field × FieldType) → Prop
  | [] => True
  | (f, type) :: rest => (∀ b ∈ f.limits.bounds, b.isPlain = true) ∧ IsReadable type ∧
      AreReadable rest

end

theorem areReadable_iff {fields : List (Field × FieldType)} : AreReadable fields ↔
    ∀ d ∈ fields, (∀ b ∈ d.1.limits.bounds, b.isPlain = true) ∧ d.2.IsReadable := by
  induction fields with
  | nil => simp [AreReadable]
  | cons d rest ih => simp only [AreReadable, List.forall_mem_cons, ih, and_assoc]

section Induct

variable {motive : (type : FieldType) → type.IsReadable → Prop}
  (text : motive .text trivial) (int : motive .int trivial) (float : motive .float trivial)
  (bool : motive .bool trivial) (any : motive .any trivial) (timestamp : motive .timestamp trivial)
  (date : motive .date trivial) (ref : motive .ref trivial) (dict : motive .dict trivial)
  (optional : ∀ (inner : FieldType) (h : inner.IsReadable), motive inner h →
    motive (.optional inner) h)
  (list : ∀ (item : FieldType) (h : item.IsReadable), motive item h → motive (.list item) h)
  (entries : ∀ (value : FieldType) (h : value.IsReadable), motive value h →
    motive (.entries value) h)
  (record : ∀ (name : String) (declaration : Nat) (extra : Extra)
    (fields : List (Field × FieldType)) (h : (record name declaration extra fields).IsReadable),
    (∀ d (hd : d ∈ fields), motive d.2 (areReadable_iff.1 h.2.2 d hd).2) →
    motive (.record name declaration extra fields) h)
  (byName : ∀ (name : String) (declaration : Nat), motive (.byName name declaration) trivial)

include text int float bool any timestamp date ref dict optional list entries record byName

set_option linter.unusedSectionVars false in
mutual

/-- **Induction over the types that values are read as.** -/
theorem IsReadable.induction : (type : FieldType) → (h : type.IsReadable) → motive type h
  | .text, _ => text
  | .int, _ => int
  | .float, _ => float
  | .bool, _ => bool
  | .any, _ => any
  | .timestamp, _ => timestamp
  | .date, _ => date
  | .ref, _ => ref
  | .dict, _ => dict
  | .optional inner, h => optional inner h (IsReadable.induction inner h)
  | .list item, h => list item h (IsReadable.induction item h)
  | .entries value, h => entries value h (IsReadable.induction value h)
  | .record name declaration extra fields, h =>
    record name declaration extra fields h (AreReadable.induction fields h.2.2)
  | .byName name declaration, _ => byName name declaration
  | .set _, h => h.elim
  | .tuple _, h => h.elim
  | .union _, h => h.elim

theorem AreReadable.induction : (fields : List (Field × FieldType)) → (h : AreReadable fields) →
    ∀ d (hd : d ∈ fields), motive d.2 (areReadable_iff.1 h d hd).2
  | [], _, _, hd => by cases hd
  | (f, type) :: rest, h, d, hd => by
    rcases List.mem_cons.1 hd with rfl | hmem
    · exact IsReadable.induction type h.2.1
    · exact AreReadable.induction rest h.2.2 d hmem

end

end Induct

/-! ## Values that were checked -/

/-- A default that is taken as it is gives a value. -/
def Gives : Default → Value → Prop
  | .value given, v => v = given
  | .now, v => ∃ now, v = .int now
  | _, _ => False

mutual

/-- The value is what a check leaves as one of the type, within limits. -/
def IsChecked (limits : Limits) : FieldType → Value → Prop
  | .any, v => limits.hold v = .ok v
  | .dict, v => ∃ members, v = .dict members ∧ limits.checkDict members = .ok v ∧
      limits.holdBounds v = .ok v
  | .optional inner, v => v = .null ∨ IsChecked limits inner v
  | .list item, v => ∃ items, v = .list items ∧ (∀ x ∈ items, IsChecked {} item x) ∧
      limits.checkList v (items.map .ok) = .ok v ∧ limits.holdBounds v = .ok v
  | .entries value, v => ∃ entries : Dict Value, v = .dict entries ∧
      (∀ e ∈ entries, (∃ s, e.1 = .text s) ∧ IsChecked {} value e.2) ∧
      limits.checkDict entries = .ok v ∧ limits.holdBounds v = .ok v
  | .record name declaration extra fields, v => ∃ declared added,
      v = .record (signatureOf name declaration fields) (declared ++ added) ∧
      AreChecked fields declared ∧ (extra ≠ .kept → added = []) ∧
      (∀ e ∈ added, ∀ d ∈ fields, d.1.name ≠ e.1) ∧ limits.hold v = .ok v
  | type, v => Fits limits type v

/-- Each field has a value that was checked, or that its default gives, in the order of the
declaration. -/
def AreChecked : List (Field × FieldType) → List (String × Value) → Prop
  | [], held => held = []
  | (f, type) :: rest, held => ∃ v others, held = (f.name, v) :: others ∧
      (IsChecked f.limits type v ∨ Gives f.default v) ∧ AreChecked rest others

end

theorem areChecked_iff {fields : List (Field × FieldType)} {held : List (String × Value)} :
    AreChecked fields held ↔
      Pointwise (fun f type v => IsChecked f.limits type v ∨ Gives f.default v) fields held := by
  induction fields generalizing held with
  | nil => rfl
  | cons d rest ih => simp only [AreChecked, Pointwise, ih]

variable {now : Int} {limits : Limits} {type : FieldType} {v w : Value}

theorem check_any : check now limits .any v = .ok w ↔ w = v ∧ limits.hold v = .ok v := by
  rw [check]
  constructor
  · intro h
    obtain rfl := Limits.hold_eq_ok h
    exact ⟨rfl, h⟩
  · rintro ⟨rfl, h⟩
    exact h

theorem check_dict : check now limits .dict v = .ok w ↔ w = v ∧ IsChecked limits .dict v := by
  cases v with
  | dict members =>
    simp only [check, Except.bind_eq_ok, IsChecked, Value.dict.injEq, exists_eq_left']
    constructor
    · rintro ⟨u, hu, hw⟩
      obtain rfl := Limits.checkDict_eq_ok hu
      obtain rfl := Limits.holdBounds_eq_ok hw
      exact ⟨rfl, hu, hw⟩
    · rintro ⟨rfl, hu, hw⟩
      exact ⟨_, hu, hw⟩
  | _ => simp [check, Checked.reject, IsChecked]

/-- A dictionary is checked field by field, and what else it has becomes of what the schema says. -/
theorem check_members {name : String} {declaration : Nat} {extra : Extra}
    {fields : List (Field × FieldType)} {members : Dict Value} :
    check now limits (.record name declaration extra fields) (.dict members) = .ok w ↔
      ∃ declared added, checkFields now fields members = declared.map .ok ∧
        checkExtra extra (otherMembers fields members) = .ok added ∧
        w = .record (signatureOf name declaration fields) (overlay declared added) ∧
        limits.hold w = .ok w := by
  simp only [check, Except.bind_eq_ok, Checked.both_eq_ok, Checked.all_eq_ok, Prod.exists]
  constructor
  · rintro ⟨declared, added, ⟨hdeclared, hadded⟩, hw⟩
    obtain rfl := Limits.hold_eq_ok hw
    exact ⟨declared, added, hdeclared, hadded, rfl, hw⟩
  · rintro ⟨declared, added, hdeclared, hadded, rfl, hw⟩
    exact ⟨declared, added, ⟨hdeclared, hadded⟩, hw⟩

/-- Undeclared members that are added have names of their own, where fields are given by theirs. -/
theorem name_ne_of_checkExtra {extra : Extra} {fields : List (Field × FieldType)}
    {members : Dict Value} (hmember : ∀ d ∈ fields, d.1.member = d.1.name)
    {added : List (String × Value)}
    (h : checkExtra extra (otherMembers fields members) = .ok added) :
    ∀ e ∈ added, ∀ d ∈ fields, d.1.name ≠ e.1 := by
  intro e he d hd
  have hnot := member_ne_of_checkExtra h e he d hd
  rwa [hmember d hd] at hnot

/-- What a field comes to is what a check gives, or its default gives it. -/
theorem of_checkField {P : Value → Prop} {Q : FieldType → Value → Prop} {f : Field}
    {members : Dict Value}
    (hmembers : ∀ v, members.get? (.text f.member) = some v → Sound Q type v)
    (hcheck : ∀ v w, Sound Q type v → check now f.limits type v = .ok w → P w)
    (h : checkField now f type members = .ok v) : P v ∨ Gives f.default v := by
  unfold checkField at h
  split at h
  · rename_i given hgiven
    exact Or.inl (hcheck _ _ (hmembers _ hgiven) (Checked.under_eq_ok.1 h))
  · split at h
    · cases h
    · rename_i hvalue
      cases h
      exact Or.inr (by rw [hvalue]; rfl)
    · rename_i hnow
      cases h
      exact Or.inr (by rw [hnow]; exact ⟨now, rfl⟩)
    · exact Or.inl (hcheck _ _ (sound_empty type) (Checked.under_eq_ok.1 h))

/-- An instance that is read from a dictionary was checked, if each of its fields was. -/
theorem isChecked_of_check_members {name : String} {declaration : Nat} {extra : Extra}
    {fields : List (Field × FieldType)} (hr : (record name declaration extra fields).IsReadable)
    {members : Dict Value} (hfield : ∀ d ∈ fields, ∀ v, checkField now d.1 d.2 members = .ok v →
      IsChecked d.1.limits d.2 v ∨ Gives d.1.default v)
    (h : check now limits (.record name declaration extra fields) (.dict members) = .ok w) :
    IsChecked limits (.record name declaration extra fields) w := by
  obtain ⟨declared, added, hdeclared, hadded, rfl, hlimits⟩ := check_members.1 h
  have hfields : Pointwise (fun f type v => IsChecked f.limits type v ∨ Gives f.default v)
      fields declared := (checkFields_eq.1 hdeclared).imp hfield
  by_cases hkept : extra = .kept
  · have hnames := name_ne_of_checkExtra (hr.2.1 hkept) hadded
    have hother : ∀ e ∈ added, ∀ d ∈ declared, d.1 ≠ e.1 := by
      intro e he d hd
      obtain ⟨f, hf, hname, -⟩ := hfields.exists_declaration hd
      exact hname ▸ hnames e he f hf
    rw [overlay_eq_append hother] at hlimits ⊢
    exact ⟨declared, added, rfl, areChecked_iff.2 hfields, fun hne => absurd hkept hne, hnames,
      hlimits⟩
  · obtain ⟨rfl, -⟩ := (checkExtra_eq_ok hkept).1 hadded
    rw [overlay_nil] at hlimits ⊢
    exact ⟨declared, [], by rw [List.append_nil], areChecked_iff.2 hfields, fun _ => rfl,
      by simp, hlimits⟩

/-- **What a check leaves**, whatever it is given, as long as the instances among that are such as
checks have left. -/
theorem isChecked_of_check (hr : type.IsReadable) (hv : Sound (IsChecked {}) type v)
    (h : check now limits type v = .ok w) : IsChecked limits type w := by
  induction type, hr using IsReadable.induction generalizing limits v w with
  | text => exact (check_text.1 h).choose_spec.2.2
  | int => exact (check_int.1 h).choose_spec.2.2
  | float => exact (check_float.1 h).choose_spec.2.2
  | bool => exact (check_bool.1 h).choose_spec.2.2
  | timestamp => exact (check_timestamp.1 h).choose_spec.2.2
  | date => exact (check_date.1 h).choose_spec.2.2
  | ref => exact (check_ref.1 h).choose_spec.2.2
  | any =>
    obtain ⟨rfl, hhold⟩ := check_any.1 h
    exact hhold
  | dict =>
    obtain ⟨rfl, hchecked⟩ := check_dict.1 h
    exact hchecked
  | optional inner hr ih =>
    rw [Sound] at hv
    cases v with
    | null =>
      rw [check] at h
      cases h
      exact Or.inl rfl
    | _ =>
      simp only [check] at h
      exact Or.inr (ih hv h)
  | list item hr ih =>
    obtain ⟨items, values, hitems, hvalues, rfl, hlengths, hbounds⟩ := check_list.1 h
    refine ⟨values, rfl, fun x hx => ?_, hlengths, hbounds⟩
    obtain ⟨y, hy, hcheck⟩ := forall_mem_of_map_eq hvalues hx
    have hsound : Sound (IsChecked {}) item y := by
      rcases hitems with rfl | rfl
      · exact hv y hy
      · exact hv y hy
    exact ih hsound hcheck
  | entries value hr ih =>
    obtain ⟨members, entries, rfl, hentries, rfl, hlengths, hbounds⟩ := check_entries.1 h
    exact ⟨_, rfl, forall_mem_of_checkEntry hentries fun e he w hw => ih (hv e he) hw, hlengths,
      hbounds⟩
  | record name declaration extra fields hr ih =>
    cases v with
    | dict members =>
      exact isChecked_of_check_members hr (fun d hd v hfield =>
        of_checkField (soundFields_iff.1 hv d hd)
          (fun _ _ hsound hcheck => ih d hd hsound hcheck) hfield) h
    | record own held =>
      by_cases hown : own = signatureOf name declaration fields
      · simp only [check, hown, if_true] at h
        obtain rfl := Limits.hold_eq_ok h
        obtain ⟨declared, added, hheld, hfields, hadded, hnames, -⟩ := hv hown
        cases hheld
        exact ⟨declared, added, rfl, hfields, hadded, hnames, h⟩
      · simp [check, Checked.reject, hown] at h
    | _ => simp [check, Checked.reject] at h
  | byName => exact absurd h check_byName_ne_ok

end FieldType

end DocMapper
