import DocMapper.Proofs.Schema.Rebuilding
import DocMapper.Proofs.Schema.WellNamed
/-!
# Types that are read directly

A type is read directly if every field in it is given by its own name and has, if any, a default that
is a value of its type (`FieldType.IsDirect`). The plain data of a value of such a type is then read
back as the same value, unless a part of free form or an undeclared member holds an instance or a
reference, which is taken apart for good (`FieldType.returns_iff_holdsPlain`).
-/

namespace DocMapper

namespace FieldType

/-- The field is given by its own name and held against plain bounds; its default, if it has one, is a
value of its type: one that a check leaves, or one that it reads as the same. -/
structure IsDirectField (f : Field) (type : FieldType) : Prop where
  member : f.member = f.name
  bounds : ∀ b ∈ f.limits.bounds, b.isPlain = true
  wellKeyed : ∀ v, Gives f.default v → v.WellKeyed
  default : ∀ v, Gives f.default v →
    IsChecked f.limits type v ∨ ∀ now, ∃ w, Returns now f.limits type v w

mutual

/-- Every schema in the type declares its fields under distinct names and directly. -/
def IsDirect : FieldType → Prop
  | .optional inner => IsDirect inner
  | .list item => IsDirect item
  | .entries value => IsDirect value
  | .record _ _ _ fields => fields.Pairwise (fun a b => a.1.name ≠ b.1.name) ∧ AreDirect fields
  | .set _ => False
  | .tuple _ => False
  | .union _ => False
  | _ => True

/-- `IsDirect` of each field. -/
def AreDirect : List (Field × FieldType) → Prop
  | [] => True
  | (f, type) :: rest => IsDirectField f type ∧ IsDirect type ∧ AreDirect rest

end

theorem areDirect_iff {fields : List (Field × FieldType)} : AreDirect fields ↔
    ∀ d ∈ fields, IsDirectField d.1 d.2 ∧ d.2.IsDirect := by
  induction fields with
  | nil => simp [AreDirect]
  | cons d rest ih => simp only [AreDirect, List.forall_mem_cons, ih, and_assoc]

mutual

theorem IsDirect.isReadable : (type : FieldType) → type.IsDirect → type.IsReadable
  | .optional inner, h => IsDirect.isReadable inner h
  | .list item, h => IsDirect.isReadable item h
  | .entries value, h => IsDirect.isReadable value h
  | .record _ _ _ fields, h => ⟨h.1, fun _ d hd => (areDirect_iff.1 h.2 d hd).1.member,
      AreDirect.areReadable fields h.2⟩
  | .set _, h | .tuple _, h | .union _, h => h
  | .text, _ | .int, _ | .float, _ | .bool, _ | .any, _ | .timestamp, _ | .date, _ | .ref, _
  | .dict, _ | .byName _ _, _ => trivial

theorem AreDirect.areReadable : (fields : List (Field × FieldType)) → AreDirect fields →
    AreReadable fields
  | [], _ => trivial
  | (_, type) :: rest, h =>
    ⟨h.1.bounds, IsDirect.isReadable type h.2.1, AreDirect.areReadable rest h.2.2⟩

end

mutual

theorem IsDirect.wellNamed : (type : FieldType) → type.IsDirect → type.WellNamed
  | .optional inner, h => IsDirect.wellNamed inner h
  | .list item, h => IsDirect.wellNamed item h
  | .entries value, h => IsDirect.wellNamed value h
  | .record _ _ _ fields, h => ⟨h.1, AreDirect.areWellNamed fields h.2⟩
  | .set _, h | .tuple _, h | .union _, h => h.elim
  | .text, _ | .int, _ | .float, _ | .bool, _ | .any, _ | .timestamp, _ | .date, _ | .ref, _
  | .dict, _ | .byName _ _, _ => trivial

theorem AreDirect.areWellNamed : (fields : List (Field × FieldType)) → AreDirect fields →
    AreWellNamed fields
  | [], _ => trivial
  | (f, type) :: rest, h => ⟨fun v hv => h.1.wellKeyed v (by rw [hv]; rfl),
      IsDirect.wellNamed type h.2.1, AreDirect.areWellNamed rest h.2.2⟩

end

/-! ## Values that hold plain data -/

mutual

/-- What is of free form in the value, and what its instances hold besides their declared fields, is
its own plain data: there are no instances and no references in it. -/
def HoldsPlain : FieldType → Value → Prop
  | .any, v => v.dump = v
  | .dict, v => v.dump = v
  | .optional inner, v => v = .null ∨ HoldsPlain inner v
  | .list item, .list items => ∀ x ∈ items, HoldsPlain item x
  | .entries value, .dict members => ∀ e ∈ members, HoldsPlain value e.2
  | .record _ _ _ fields, .record _ held => FieldsHoldPlain held fields ∧
      ∀ e ∈ held, (∀ d ∈ fields, d.1.name ≠ e.1) → e.2.dump = e.2
  | _, _ => True

/-- `HoldsPlain` of the value of each field, where a check has left it. -/
def FieldsHoldPlain (held : List (String × Value)) : List (Field × FieldType) → Prop
  | [] => True
  | (f, type) :: rest => (∀ v, (f.name, v) ∈ held → IsChecked f.limits type v → HoldsPlain type v) ∧
    FieldsHoldPlain held rest

end

theorem fieldsHoldPlain_iff {held : List (String × Value)} {fields : List (Field × FieldType)} :
    FieldsHoldPlain held fields ↔ ∀ d ∈ fields, ∀ v, (d.1.name, v) ∈ held →
      IsChecked d.1.limits d.2 v → HoldsPlain d.2 v := by
  induction fields with
  | nil => simp [FieldsHoldPlain]
  | cons d rest ih => simp only [FieldsHoldPlain, List.forall_mem_cons, ih]

variable {now : Int} {limits : Limits} {type : FieldType} {v w : Value}

/-- A field that is direct comes back if its value was checked and recovers; a default that was not
checked comes back in any case. -/
theorem recovers_field_iff {d : Field × FieldType} (hd : IsDirectField d.1 d.2)
    {held : List (String × Value)} (hlookup : held.lookup d.1.name = some v)
    (hv : IsChecked d.1.limits d.2 v ∨ Gives d.1.default v) :
    ((d.1.member = d.1.name ∧ IsChecked d.1.limits d.2 v → Recovers now d.2 v) ∧
      (¬ (d.1.member = d.1.name ∧ IsChecked d.1.limits d.2 v) → Regained now d.1 d.2 held v)) ↔
    (IsChecked d.1.limits d.2 v → Recovers now d.2 v) := by
  rw [hd.member]
  simp only [true_and, and_iff_left_iff_imp]
  intro _ hnot
  obtain ⟨w, hw⟩ := (hd.default v (hv.resolve_left hnot)).resolve_left hnot now
  rw [Regained, hd.member, hlookup]
  exact ⟨w, hw⟩

/-- A checked value of a type that is read directly recovers if it holds plain data. -/
theorem recovers_iff_holdsPlain (hd : type.IsDirect) (hv : v.WellKeyed)
    (hchecked : IsChecked limits type v) : Recovers now type v ↔ HoldsPlain type v := by
  have hr := IsDirect.isReadable type hd
  induction type, hr using IsReadable.induction generalizing limits v with
  | text | int | float | bool | timestamp | date | ref | any | dict => exact Iff.rfl
  | optional inner hr ih =>
    rw [Recovers, HoldsPlain]
    by_cases hnull : v = .null
    · exact iff_of_true (.inl hnull) (.inl hnull)
    · rw [or_iff_right hnull, or_iff_right hnull]
      exact ih hd hv (hchecked.resolve_left hnull)
  | list item hr ih =>
    obtain ⟨items, rfl, hitems, -⟩ := hchecked
    have hkeyed := Value.wellKeyed_list.1 hv
    exact forall₂_congr fun x hx => ih hd (hkeyed x hx) (hitems x hx)
  | entries value hr ih =>
    obtain ⟨entries, rfl, hentries, -⟩ := hchecked
    obtain ⟨-, hkeyed⟩ := Value.wellKeyed_dict.1 hv
    exact forall₂_congr fun e he => ih hd (hkeyed e he) (hentries e he).2
  | record name declaration extra fields hr ih =>
    obtain ⟨declared, added, rfl, hdeclared, -, hnames, -⟩ := hchecked
    obtain ⟨hn, hkeyed⟩ := Value.wellKeyed_record.1 hv
    have hdirect := areDirect_iff.1 hd.2
    rw [Recovers, HoldsPlain, recoverFields_iff, fieldsHoldPlain_iff]
    refine and_congr (forall₂_congr fun d hmem => forall₂_congr fun u hu => ?_) ?_
    · have hdeclaredu : (d.1.name, u) ∈ declared := by
        refine (List.mem_append.1 hu).resolve_right fun hadded => ?_
        exact hnames _ hadded d hmem rfl
      have hfield := (areChecked_iff.1 hdeclared).of_mem hd.1 hmem hdeclaredu
      rw [recovers_field_iff (hdirect d hmem).1 (lookup_of_mem hn hu) hfield]
      exact forall_congr' fun hu' => ih d hmem (hdirect d hmem).2 (hkeyed _ hu) hu'
    · refine and_iff_right fun _ d hmem => ?_
      exact ⟨d, hmem, (hdirect d hmem).1.member⟩
  | byName => exact hchecked.elim

/-- **The plain data of a value is read back as the same** exactly if the value holds plain data. -/
theorem returns_iff_holdsPlain (hd : type.IsDirect) (hbounds : ∀ b ∈ limits.bounds, b.isPlain = true)
    (hv : v.WellKeyed) (hself : v.same v = true) (hchecked : IsChecked limits type v) :
    (∃ w, Returns now limits type v w) ↔ HoldsPlain type v :=
  (recovers_iff (IsDirect.isReadable type hd) hbounds hv hself hchecked).trans
    (recovers_iff_holdsPlain hd hv hchecked)

end FieldType

end DocMapper
