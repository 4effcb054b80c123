import DocMapper.Proofs.Schema.Building
import DocMapper.Proofs.Schema.Surviving
import DocMapper.Proofs.Value.Dumping
/-!
# Building what is built

An instance of a schema is taken apart into plain data when it is given to the schema again, and the
data is checked like any other. There every field stands under its own name, while the check looks for
it under the member that it is given by. `FieldType.Recovers` says which values come back the same: a
field whose member is its name comes back with its value, if that was checked; any other has to be
regained from what is under its member, or from its default (`FieldType.Regained`); and what is of
free form may hold no instances or references.

Main statement: this is exact (`Schema.parse_again_iff`). So instances of schemas of stored data are
built again as they are, and those of a schema with a required field that is given by a name that no
field has never are.
-/

namespace DocMapper

namespace FieldType

/-! ## Values that come back -/

/-- The value is what a field comes to that is read from the plain data of an instance with these
fields: from the field that is named like its member, or from its default if there is none. -/
def Regained (now : Int) (f : Field) (type : FieldType) (held : List (String × Value)) (v : Value) :
    Prop :=
  match held.lookup f.member with
  | some u => ∃ w, check now f.limits type u.dump = .ok w ∧ w.same v = true
  | none =>
    match f.default with
    | .required => False
    | .value given => given.same v = true
    | .now => (Value.int now).same v = true
    | .fresh => ∃ w, check now f.limits type (.dict []) = .ok w ∧ w.same v = true

mutual

/-- The value, as a check leaves those of the type, is the same as what a check makes of its plain
data. -/
def Recovers (now : Int) : FieldType → Value → Prop
  | .any, v => v.dump = v
  | .dict, v => v.dump = v
  | .optional inner, v => v = .null ∨ Recovers now inner v
  | .list item, .list items => ∀ x ∈ items, Recovers now item x
  | .entries value, .dict members => ∀ e ∈ members, Recovers now value e.2
  | .record _ _ extra fields, .record _ held => RecoverFields now held fields ∧
      (extra = .refused → ∀ d ∈ fields, ∃ d' ∈ fields, d'.1.member = d.1.name) ∧
      ∀ e ∈ held, (∀ d ∈ fields, d.1.name ≠ e.1) → e.2.dump = e.2
  | _, _ => True

/-- Each field with a value that was checked and stands under its member comes back with the value,
and each other one is regained nevertheless. -/
def RecoverFields (now : Int) (held : List (String × Value)) : List (Field × FieldType) → Prop
  | [] => True
  | (f, type) :: rest => (∀ v, (f.name, v) ∈ held →
      (f.member = f.name ∧ IsChecked f.limits type v → Recovers now type v) ∧
      (¬ (f.member = f.name ∧ IsChecked f.limits type v) → Regained now f type held v)) ∧
    RecoverFields now held rest

end

theorem recoverFields_iff {now : Int} {held : List (String × Value)}
    {fields : List (Field × FieldType)} : RecoverFields now held fields ↔
      ∀ d ∈ fields, ∀ v, (d.1.name, v) ∈ held →
        (d.1.member = d.1.name ∧ IsChecked d.1.limits d.2 v → Recovers now d.2 v) ∧
        (¬ (d.1.member = d.1.name ∧ IsChecked d.1.limits d.2 v) →
          Regained now d.1 d.2 held v) := by
  induction fields with
  | nil => simp [RecoverFields]
  | cons d rest ih => simp only [RecoverFields, List.forall_mem_cons, ih]

variable {now : Int} {limits : Limits} {type : FieldType} {v w : Value}

/-- A checked value of a type of stored data fits it. -/
theorem fits_of_isChecked (hs : type.IsStorable) (hv : v.WellKeyed) (h : IsChecked limits type v) :
    Fits limits type v := by
  induction type, hs using IsStorable.induction generalizing limits v with
  | text | int | float | bool | timestamp | date | ref => exact h
  | optional inner hs ih => exact h.imp id (ih hv)
  | list item hs ih =>
    obtain ⟨items, rfl, hitems, hlimits⟩ := h
    exact ⟨items, rfl, fun x hx => ih (Value.wellKeyed_list.1 hv x hx) (hitems x hx), hlimits⟩
  | entries value hs ih =>
    obtain ⟨entries, rfl, hentries, hlimits⟩ := h
    obtain ⟨hd, hvalues⟩ := Value.wellKeyed_dict.1 hv
    exact ⟨entries, rfl, hd, fun e he => (hentries e he).1,
      fun e he => ih (hvalues e he) (hentries e he).2, hlimits⟩
  | record name declaration extra fields hs ih =>
    obtain ⟨declared, added, rfl, hdeclared, hadded, -, hlimits⟩ := h
    obtain rfl := hadded hs.1
    rw [List.append_nil] at hv hlimits ⊢
    refine ⟨declared, rfl, fitsFields_iff.2 ((areChecked_iff.1 hdeclared).and_mem.imp
      fun d hd v hheld => ?_), hlimits⟩
    rcases hheld.1 with hchecked | hgiven
    · exact ih d hd ((Value.wellKeyed_record.1 hv).2 _ hheld.2) hchecked
    · have hdefault := (areStorable_iff.1 hs.2.2 d hd).2.1
      cases hd : d.1.default with
      | value given =>
        rw [hd] at hgiven hdefault
        exact hgiven ▸ hdefault
      | now =>
        rw [hd] at hgiven hdefault
        obtain ⟨now, rfl⟩ := hgiven
        exact hdefault now
      | _ => simp [Gives, hd] at hgiven
  | byName => exact h.elim

/-- A field is checked as what its member of plain data says. -/
theorem checkField_dumpFields_iff {f : Field} {held : List (String × Value)} :
    (∃ w, checkField now f type (Value.dumpFields held) = .ok w ∧ w.same v = true) ↔
      Regained now f type held v := by
  rw [checkField, Value.get?_dumpFields, Regained]
  cases held.lookup f.member with
  | some u => simp only [Option.map_some, Checked.under_eq_ok]
  | none =>
    cases f.default with
    | required => simp [Checked.under_eq_ok, Checked.reject]
    | value given => simp
    | now => simp
    | fresh => simp only [Option.map_none, Checked.under_eq_ok]

/-- Undeclared members that are texts are all kept. -/
theorem checkExtra_kept {added : List (String × Value)} (f : String × Value → Value) :
    checkExtra .kept (added.map fun e => (.text e.1, f e)) =
      .ok (added.map fun e => (e.1, f e)) := by
  rw [checkExtra, Checked.all_eq_ok, List.map_map, List.map_map]
  rfl

/-- What no field takes of the plain data of an instance comes to the plain data of its undeclared
fields, unless the schema refuses it and the name of some field is no member. -/
theorem checkExtra_dumpFields_iff {extra : Extra} {fields : List (Field × FieldType)}
    (hkept : extra = .kept → ∀ d ∈ fields, d.1.member = d.1.name)
    {P : Field → FieldType → Value → Prop} {declared added others : List (String × Value)}
    (hdeclared : Pointwise P fields declared) (hadded : extra ≠ .kept → added = [])
    (hnames : ∀ e ∈ added, ∀ d ∈ fields, d.1.name ≠ e.1) :
    checkExtra extra (otherMembers fields (Value.dumpFields (declared ++ added))) = .ok others ↔
      others = (added.map fun e => (e.1, e.2.dump)) ∧
        (extra = .refused → ∀ d ∈ fields, ∃ d' ∈ fields, d'.1.member = d.1.name) := by
  by_cases hextra : extra = .kept
  · subst hextra
    have hothers : otherMembers fields (Value.dumpFields (declared ++ added)) =
        added.map fun e => (.text e.1, e.2.dump) := by
      rw [Value.dumpFields_eq_map, List.map_append, otherMembers, List.filter_append,
        ← otherMembers, otherMembers_eq_nil.2, List.nil_append, List.filter_eq_self]
      · refine List.forall_mem_map.2 fun e he => List.all_eq_true.2 fun d hd => ?_
        simpa [hkept rfl d hd] using hnames e he d hd
      · refine List.forall_mem_map.2 fun e he => ?_
        obtain ⟨d, hd, hname, -⟩ := hdeclared.exists_declaration he
        exact ⟨d, hd, by rw [hkept rfl d hd, hname]⟩
    rw [hothers, checkExtra_kept fun e => e.2.dump, Except.ok.injEq, eq_comm]
    simp
  · obtain rfl := hadded hextra
    rw [checkExtra_eq_ok hextra, List.append_nil, Value.dumpFields_eq_map, otherMembers_eq_nil,
      List.forall_mem_map, List.map_nil]
    refine and_congr_right fun _ => forall_congr' fun _ => ?_
    constructor
    · intro h d hd
      obtain ⟨v, hv, -⟩ := hdeclared.exists_field hd
      obtain ⟨d', hd', hmember⟩ := h _ hv
      exact ⟨d', hd', by simpa using hmember.symm⟩
    · intro h e he
      obtain ⟨d, hd, hname, -⟩ := hdeclared.exists_declaration he
      obtain ⟨d', hd', hmember⟩ := h d hd
      exact ⟨d', hd', by rw [hmember, hname]⟩

/-! ## Parts that come back -/

/-- What a check makes of the plain data of the value is the same as the value. -/
def Returns (now : Int) (limits : Limits) (type : FieldType) (v w : Value) : Prop :=
  check now limits type v.dump = .ok w ∧ w.same v = true

/-- A list comes back element by element. -/
theorem returns_list_iff {item : FieldType} {items : List Value} :
    Returns now limits (.list item) (.list items) w ↔
      ∃ values, List.Forall₂ (Returns now {} item) items values ∧ w = .list values ∧
        limits.checkList w (values.map .ok) = .ok w ∧ limits.holdBounds w = .ok w := by
  have hparts : ∀ values : List Value, List.Forall₂ (Returns now {} item) items values ↔
      (items.map Value.dump).map (check now {} item) = values.map .ok ∧
        Value.sameList values items = true := by
    intro values
    rw [List.map_map, ← List.forall₂_eq_eq_eq, List.forall₂_map_left_iff,
      List.forall₂_map_right_iff, Value.sameList_iff]
    constructor
    · exact fun h => ⟨h.imp fun _ _ h => h.1, (h.imp fun _ _ h => h.2).flip⟩
    · exact fun h => List.Forall₂.mp (fun _ _ hcheck hsame => ⟨hcheck, hsame⟩) h.1 h.2.flip
  rw [Returns, Value.dump, Value.dumpList_eq_map, check_list]
  constructor
  · rintro ⟨⟨items', values, hitems, hvalues, rfl, hlimits⟩, hsame⟩
    obtain rfl : items.map Value.dump = items' := by simpa using hitems
    rw [Value.same] at hsame
    exact ⟨values, (hparts values).2 ⟨hvalues, hsame⟩, rfl, hlimits⟩
  · rintro ⟨values, hreturns, rfl, hlimits⟩
    obtain ⟨hvalues, hsame⟩ := (hparts values).1 hreturns
    exact ⟨⟨_, values, .inl rfl, hvalues, rfl, hlimits⟩, by rwa [Value.same]⟩

/-- The plain data of entries with texts for keys is checked entry by entry, under the same keys. -/
theorem map_checkEntry_dump_iff {value : FieldType} {entries values : Dict Value}
    (htexts : ∀ e ∈ entries, ∃ s, e.1 = .text s) :
    ((entries.map fun e => (e.1, e.2.dump)).map fun e => checkEntry e.1 (check now {} value e.2)) =
        values.map .ok ↔
      List.Forall₂ (fun e e' => e.1 = e'.1 ∧ check now {} value e.2.dump = .ok e'.2)
        entries values := by
  rw [List.map_map, ← List.forall₂_eq_eq_eq, List.forall₂_map_left_iff,
    List.forall₂_map_right_iff]
  constructor
  · intro h
    refine ((List.forall₂_and_left _ _).2 ⟨htexts, h⟩).imp ?_
    rintro ⟨k, x⟩ ⟨k', y⟩ ⟨⟨s, rfl⟩, h⟩
    obtain ⟨s', hs', rfl, hcheck⟩ := checkEntry_eq_ok.1 h
    cases hs'
    exact ⟨rfl, hcheck⟩
  · intro h
    refine ((List.forall₂_and_left _ _).2 ⟨htexts, h⟩).imp ?_
    rintro ⟨k, x⟩ ⟨k', y⟩ ⟨⟨s, rfl⟩, rfl, hcheck⟩
    exact checkEntry_eq_ok.2 ⟨s, rfl, rfl, hcheck⟩

/-- A dictionary comes back entry by entry. -/
theorem returns_entries_iff {value : FieldType} {entries : Dict Value} (hd : entries.Distinct)
    (htexts : ∀ e ∈ entries, ∃ s, e.1 = .text s) :
    Returns now limits (.entries value) (.dict entries) w ↔
      ∃ values : Dict Value,
        List.Forall₂ (fun e e' => e.1 = e'.1 ∧ Returns now {} value e.2 e'.2) entries values ∧
        w = .dict values ∧ limits.checkDict values = .ok w ∧ limits.holdBounds w = .ok w := by
  -- the entries keep their keys, so they stay apart and are compared one by one
  have hkept : ∀ {values : Dict Value},
      List.Forall₂ (fun e e' => e.1 = e'.1 ∧ check now {} value e.2.dump = .ok e'.2)
        entries values → Dict.ofEntries values = values ∧
      (Value.same (.dict values) (.dict entries) = true ↔
        List.Forall₂ (fun e e' => e.2.same e'.2 = true) values entries) := by
    intro values h
    have hkeys : List.Forall₂ (fun e e' : Key × Value => e.1 = e'.1) values entries :=
      (h.imp fun _ _ h => h.1.symm).flip
    exact ⟨Dict.ofEntries_of_distinct (Value.distinct_of_forall₂ hd hkeys),
      Value.same_dict_iff_forall₂ hd hkeys⟩
  rw [Returns, Value.dump, Value.dumpEntries_eq_map, check_entries]
  constructor
  · rintro ⟨⟨members, values, hmembers, hvalues, rfl, hlimits⟩, hsame⟩
    cases hmembers
    have hpass := (map_checkEntry_dump_iff htexts).1 hvalues
    obtain ⟨hentries, hlike⟩ := hkept hpass
    rw [hentries] at hsame hlimits ⊢
    have hvalues := List.Forall₂.mp (fun _ _ h hsame => And.intro h.1 (And.intro h.2 hsame)) hpass
      (hlike.1 hsame).flip
    exact ⟨values, hvalues, rfl, hlimits⟩
  · rintro ⟨values, hreturns, rfl, hlimits⟩
    have hpass := hreturns.imp fun _ _ h => And.intro h.1 h.2.1
    obtain ⟨hentries, hlike⟩ := hkept hpass
    refine ⟨⟨_, values, rfl, (map_checkEntry_dump_iff htexts).2 hpass, by rw [hentries],
      by rwa [hentries]⟩, ?_⟩
    exact hlike.2 (hreturns.imp fun _ _ h => h.2.2).flip

/-- What comes back of a checked value is not told apart from it by plain data. -/
theorem alike_of_returns (hr : type.IsReadable) (hv : v.WellKeyed)
    (hchecked : IsChecked limits type v) (h : Returns now limits type v w) : w.Alike v := by
  induction type, hr using IsReadable.induction generalizing limits v w with
  | text | int | float | bool | timestamp | date | ref =>
    cases h.1.symm.trans (check_dump trivial hchecked)
    exact Value.Alike.refl v
  | any =>
    obtain ⟨hcheck, hsame⟩ := h
    obtain ⟨rfl, -⟩ := check_any.1 hcheck
    rw [Value.dump_eq_self hv hsame]
    exact Value.Alike.refl v
  | dict =>
    obtain ⟨hcheck, hsame⟩ := h
    obtain ⟨rfl, -⟩ := check_dict.1 hcheck
    rw [Value.dump_eq_self hv hsame]
    exact Value.Alike.refl v
  | optional inner hr ih =>
    obtain ⟨hcheck, hsame⟩ := h
    by_cases hnull : v = .null
    · subst hnull
      obtain rfl := Value.same_null_iff.1 hsame
      exact Value.Alike.refl _
    · rw [check_optional (mt Value.dump_eq_null_iff.1 hnull)] at hcheck
      exact ih hv (hchecked.resolve_left hnull) ⟨hcheck, hsame⟩
  | list item hr ih =>
    obtain ⟨items, rfl, hitems, -⟩ := hchecked
    obtain ⟨values, hvalues, rfl, -⟩ := returns_list_iff.1 h
    have hparts := (List.forall₂_and_left _ _).2 ⟨hitems, hvalues⟩
    have hkeyed := Value.wellKeyed_list.1 hv
    have hparts := (List.forall₂_and_left _ _).2 ⟨hkeyed, hparts⟩
    exact Value.Alike.list (hparts.imp fun _ _ h => ih h.1 h.2.1 h.2.2).flip
  | entries value hr ih =>
    obtain ⟨entries, rfl, hentries, -⟩ := hchecked
    obtain ⟨hd, hkeyed⟩ := Value.wellKeyed_dict.1 hv
    obtain ⟨values, hvalues, rfl, -⟩ :=
      (returns_entries_iff hd fun e he => (hentries e he).1).1 h
    have hparts := (List.forall₂_and_left _ _).2 ⟨hentries, hvalues⟩
    have hparts := (List.forall₂_and_left _ _).2 ⟨hkeyed, hparts⟩
    exact Value.Alike.dict (hparts.imp fun _ _ h => ⟨h.2.2.1.symm, ih h.1 h.2.1.2 h.2.2.2⟩).flip
  | record name declaration extra fields hr ih =>
    obtain ⟨declared, added, rfl, -⟩ := hchecked
    obtain ⟨hcheck, -⟩ := h
    rw [Value.dump] at hcheck
    obtain ⟨_, _, -, -, rfl, -⟩ := check_members.1 hcheck
    exact Value.Alike.record _ _ _
  | byName => exact hchecked.elim

/-- An instance comes back field by field. -/
theorem returns_record_iff {name : String} {declaration : Nat} {extra : Extra}
    {fields : List (Field × FieldType)}
    (hr : (record name declaration extra fields).IsReadable)
    {P : Field → FieldType → Value → Prop} {declared added : List (String × Value)}
    (hdeclared : Pointwise P fields declared) (hadded : extra ≠ .kept → added = [])
    (hnames : ∀ e ∈ added, ∀ d ∈ fields, d.1.name ≠ e.1)
    (hn : (declared ++ added).Pairwise fun a b => a.1 ≠ b.1)
    (hlimits : limits.hold (.record (signatureOf name declaration fields) (declared ++ added)) =
      .ok (.record (signatureOf name declaration fields) (declared ++ added))) :
    (∃ w, Returns now limits (.record name declaration extra fields)
      (.record (signatureOf name declaration fields) (declared ++ added)) w) ↔
    (∀ d ∈ fields, ∀ v, (d.1.name, v) ∈ declared ++ added →
      Regained now d.1 d.2 (declared ++ added) v) ∧
      (extra = .refused → ∀ d ∈ fields, ∃ d' ∈ fields, d'.1.member = d.1.name) ∧
      ∀ e ∈ added, e.2.dump.same e.2 = true := by
  have hextra : ∀ others,
      checkExtra extra (otherMembers fields (Value.dumpFields (declared ++ added))) = .ok others ↔ _ :=
    fun _ => checkExtra_dumpFields_iff hr.2.1 hdeclared hadded hnames
  have hheld : ∀ d ∈ fields, ∀ v, (d.1.name, v) ∈ declared ↔ (d.1.name, v) ∈ declared ++ added := by
    intro d hd v
    rw [List.mem_append, or_iff_left fun hv => hnames _ hv d hd rfl]
  simp only [Returns, Value.dump]
  by_cases hfill : extra = .refused → ∀ d ∈ fields, ∃ d' ∈ fields, d'.1.member = d.1.name
  · rw [check_members_same_iff ((hextra _).2 ⟨rfl, hfill⟩) hdeclared hn hlimits]
    refine and_congr (forall₂_congr fun d hd => forall_congr' fun v => ?_)
      (and_iff_right hfill).symm
    rw [hheld d hd, checkField_dumpFields_iff]
  · refine iff_of_false ?_ fun h => hfill h.2.1
    rintro ⟨w, hcheck, -⟩
    obtain ⟨_, others, -, hothers, -⟩ := check_members.1 hcheck
    exact hfill ((hextra others).1 hothers).2

/-- A value that a check leaves as it is comes back if it is its own plain data. -/
theorem exists_returns_iff_of_left
    (hleft : ∀ {v w}, check now limits type v = .ok w ↔ w = v ∧ IsChecked limits type v)
    (hv : v.WellKeyed) (hself : v.same v = true) (hchecked : IsChecked limits type v) :
    (∃ w, Returns now limits type v w) ↔ v.dump = v := by
  constructor
  · rintro ⟨w, hcheck, hsame⟩
    obtain ⟨rfl, -⟩ := hleft.1 hcheck
    exact Value.dump_eq_self hv hsame
  · intro hdump
    exact ⟨v, by rw [hdump]; exact hleft.2 ⟨rfl, hchecked⟩, hself⟩

/-- A list that was checked recovers if each of its elements does. -/
theorem recovers_list_iff {item : FieldType} (hr : item.IsReadable)
    (hbounds : ∀ b ∈ limits.bounds, b.isPlain = true) {items : List Value}
    (hkeyed : ∀ x ∈ items, x.WellKeyed) (hchecked : IsChecked limits (.list item) (.list items))
    (hparts : ∀ x ∈ items, IsChecked {} item x →
      ((∃ y, Returns now {} item x y) ↔ Recovers now item x)) :
    (∃ w, Returns now limits (.list item) (.list items) w) ↔
      Recovers now (.list item) (.list items) := by
  obtain ⟨_, hown, hitems, hlengths, hholds⟩ := hchecked
  cases hown
  simp only [returns_list_iff, Recovers]
  constructor
  · rintro ⟨w, values, hvalues, -⟩ x hx
    obtain ⟨y, -, hy⟩ := exists_mem_of_forall₂ hvalues.flip hx
    exact (hparts x hx (hitems x hx)).1 ⟨y, hy⟩
  · intro hrecovers
    obtain ⟨values, hvalues⟩ := exists_forall₂ fun x hx =>
      (hparts x hx (hitems x hx)).2 (hrecovers x hx)
    have halike : (Value.list values).Alike (.list items) := by
      have hall := (List.forall₂_and_left _ _).2 ⟨hitems, hvalues⟩
      have hall := (List.forall₂_and_left _ _).2 ⟨hkeyed, hall⟩
      exact Value.Alike.list (hall.imp fun _ _ h => alike_of_returns hr h.1 h.2.1 h.2.2).flip
    exact ⟨_, values, hvalues, rfl, Limits.checkList_congr hvalues.length_eq.symm hlengths,
      Limits.holdBounds_congr_of_mem (fun b hb => (halike b (hbounds b hb)).2) hholds⟩

/-- A dictionary that was checked recovers if each of its values does. -/
theorem recovers_entries_iff {value : FieldType} {entries : Dict Value} (hd : entries.Distinct)
    (hchecked : IsChecked limits (.entries value) (.dict entries))
    (hparts : ∀ e ∈ entries, IsChecked {} value e.2 →
      ((∃ y, Returns now {} value e.2 y) ↔ Recovers now value e.2)) :
    (∃ w, Returns now limits (.entries value) (.dict entries) w) ↔
      Recovers now (.entries value) (.dict entries) := by
  obtain ⟨_, hown, hentries, hlengths, hholds⟩ := hchecked
  cases hown
  simp only [returns_entries_iff hd fun e he => (hentries e he).1, Recovers]
  constructor
  · rintro ⟨w, values, hvalues, -⟩ e he
    obtain ⟨e', -, -, hy⟩ := exists_mem_of_forall₂ hvalues.flip he
    exact (hparts e he (hentries e he).2).1 ⟨_, hy⟩
  · intro hrecovers
    have hvalue : ∀ e ∈ entries, ∃ e' : Key × Value, e.1 = e'.1 ∧ Returns now {} value e.2 e'.2 := by
      intro e he
      obtain ⟨y, hy⟩ := (hparts e he (hentries e he).2).2 (hrecovers e he)
      exact ⟨(e.1, y), rfl, hy⟩
    obtain ⟨values, hvalues⟩ := exists_forall₂ hvalue
    exact ⟨_, values, hvalues, rfl, Limits.checkDict_congr hvalues.length_eq.symm hlengths,
      Limits.holdBounds_congr (fun b => by cases b <;> rfl) hholds⟩

/-- An instance whose fields were checked recovers if each of its fields does. -/
theorem recovers_record_iff {name : String} {declaration : Nat} {extra : Extra}
    {fields : List (Field × FieldType)} (hr : (record name declaration extra fields).IsReadable)
    {signature : Signature} {held : List (String × Value)}
    (hv : (Value.record signature held).WellKeyed) (hself : ∀ e ∈ held, e.2.same e.2 = true)
    (hchecked : IsChecked limits (record name declaration extra fields) (.record signature held))
    (hparts : ∀ d ∈ fields, ∀ v, (d.1.name, v) ∈ held → IsChecked d.1.limits d.2 v →
      ((∃ w, Returns now d.1.limits d.2 v w) ↔ Recovers now d.2 v)) :
    (∃ w, Returns now limits (record name declaration extra fields) (.record signature held) w) ↔
      Recovers now (record name declaration extra fields) (.record signature held) := by
  obtain ⟨declared, added, hown, hdeclared, hadded, hnames, hlimits⟩ := hchecked
  cases hown
  obtain ⟨hn, hkeyed⟩ := Value.wellKeyed_record.1 hv
  have hdeclared := areChecked_iff.1 hdeclared
  rw [returns_record_iff hr hdeclared hadded hnames hn hlimits, Recovers, recoverFields_iff]
  refine and_congr (forall₂_congr fun d hd => forall₂_congr fun v hv => ?_)
    (and_congr_right fun _ => ?_)
  · by_cases hown : d.1.member = d.1.name ∧ IsChecked d.1.limits d.2 v
    · rw [Regained, hown.1, lookup_of_mem hn hv]
      simp only [hown, not_true_eq_false, false_implies, and_true, true_implies]
      exact hparts d hd v hv hown.2
    · simp [hown]
  · constructor
    · intro hothers e he hother
      rcases List.mem_append.1 he with hmem | hmem
      · obtain ⟨d, hd, hname, -⟩ := hdeclared.exists_declaration hmem
        exact absurd hname (hother d hd)
      · exact Value.dump_eq_self (hkeyed e he) (hothers e hmem)
    · intro hdumps e he
      have hmem := List.mem_append_right declared he
      rw [hdumps e hmem (hnames e he)]
      exact hself e hmem

/-- **A checked value comes back the same exactly if it recovers.** -/
theorem recovers_iff (hr : type.IsReadable) (hbounds : ∀ b ∈ limits.bounds, b.isPlain = true)
    (hv : v.WellKeyed) (hself : v.same v = true) (hchecked : IsChecked limits type v) :
    (∃ w, Returns now limits type v w) ↔ Recovers now type v := by
  induction type, hr using IsReadable.induction generalizing limits v with
  | text | int | float | bool | timestamp | date | ref =>
    exact iff_of_true ⟨v, check_dump trivial hchecked, hself⟩ trivial
  | any => exact exists_returns_iff_of_left check_any hv hself hchecked
  | dict => exact exists_returns_iff_of_left check_dict hv hself hchecked
  | optional inner hr ih =>
    by_cases hnull : v = .null
    · subst hnull
      refine iff_of_true ⟨.null, ?_, hself⟩ (Or.inl rfl)
      rw [Value.dump_eq_null_iff.2 rfl, check_optional_null]
    · rw [Recovers, or_iff_right hnull, ← ih hbounds hv hself (hchecked.resolve_left hnull)]
      simp only [Returns, check_optional (mt Value.dump_eq_null_iff.1 hnull)]
  | list item hr ih =>
    obtain ⟨items, rfl, -⟩ := id hchecked
    have hkeyed := Value.wellKeyed_list.1 hv
    rw [Value.same, Value.sameList_iff, List.forall₂_same] at hself
    exact recovers_list_iff hr hbounds hkeyed hchecked fun x hx hitem =>
      ih (by simp [Limits.bounds]) (hkeyed x hx) (hself x hx) hitem
  | entries value hr ih =>
    obtain ⟨entries, rfl, -⟩ := id hchecked
    obtain ⟨hd, hkeyed⟩ := Value.wellKeyed_dict.1 hv
    rw [Value.same_dict_iff_forall₂ hd (List.forall₂_same.2 fun _ _ => rfl),
      List.forall₂_same] at hself
    exact recovers_entries_iff hd hchecked fun e he hvalue =>
      ih (by simp [Limits.bounds]) (hkeyed e he) (hself e he) hvalue
  | record name declaration extra fields hr ih =>
    obtain ⟨declared, added, rfl, -⟩ := id hchecked
    obtain ⟨hn, hkeyed⟩ := Value.wellKeyed_record.1 hv
    have hself : ∀ e ∈ declared ++ added, e.2.same e.2 = true := by
      intro e he
      obtain ⟨y, hy, hsame⟩ := (Value.same_record_iff.1 hself).2.2 e he
      cases (lookup_of_mem hn he).symm.trans hy
      exact hsame
    exact recovers_record_iff hr hv hself hchecked fun d hd v hv hfield =>
      ih d hd (areReadable_iff.1 hr.2.2 d hd).1 (hkeyed _ hv) (hself _ hv) hfield
  | byName => exact hchecked.elim

/-- A required field is missing in plain data where no field has the name of its member. -/
theorem check_dump_ne_ok {name : String} {declaration : Nat} {extra : Extra}
    {fields : List (Field × FieldType)}
    (hr : (record name declaration extra fields).IsReadable)
    (hchecked : IsChecked limits (record name declaration extra fields) v)
    {d : Field × FieldType} (hd : d ∈ fields) (hrequired : d.1.default = .required)
    (hmember : ∀ d' ∈ fields, d'.1.name ≠ d.1.member) :
    check now limits (.record name declaration extra fields) v.dump ≠ .ok w := by
  intro hcheck
  obtain ⟨declared, added, rfl, hdeclared, hadded, -⟩ := hchecked
  have hextra : extra ≠ .kept := fun hkept => hmember d hd (hr.2.1 hkept d hd).symm
  obtain rfl := hadded hextra
  have hnone : declared.lookup d.1.member = none := by
    refine List.lookup_eq_none_iff.2 fun e he => ?_
    obtain ⟨d', hd', hname, -⟩ := (areChecked_iff.1 hdeclared).exists_declaration he
    simpa [hname] using (hmember d' hd').symm
  rw [Value.dump, List.append_nil] at hcheck
  obtain ⟨read, -, hread, -⟩ := check_members.1 hcheck
  obtain ⟨u, -, hfield⟩ := (checkFields_eq.1 hread).exists_field hd
  rw [checkField, Value.get?_dumpFields, hnone, hrequired] at hfield
  cases hfield

end FieldType

namespace Schema

open FieldType

variable {s : Schema} {now : Int} {input operation target v w : Value}

/-- What was built is taken apart. -/
theorem plain_of_parse (h : s.parse now input operation target = .ok v) : s.plain v = v.dump := by
  obtain ⟨held, rfl⟩ := exists_record_of_check (parse_eq_ok.1 h)
  rw [plain, if_pos]
  simp [Value.isInstance]

/-- **Building what is built**, at whatever the clock says by then, gives the same again exactly if the
instance recovers. It gives the very instance where the schema is one of stored data, and it always
fails where a required field is given by a name that no field has. The instances inside an input, if
any, are ones whose fields were checked. -/
theorem parse_again_iff (hr : s.type.IsReadable)
    (hinput : input.isInstance s.signature = false → Sound (IsChecked {}) s.type input)
    (h : s.parse now input operation target = .ok v) (hkeyed : v.WellKeyed)
    (hself : v.same v = true) (now' : Int) (operation' target' : Value) :
    ((∃ w, s.parse now' v operation' target' = .ok w ∧ w.same v = true) ↔
      s.type.Recovers now' v) ∧
    (s.type.IsStorable → s.parse now' v operation' target' = .ok v) ∧
    ((∃ d ∈ s.fields, d.1.default = .required ∧ ∀ d' ∈ s.fields, d'.1.name ≠ d.1.member) →
      ∀ w, s.parse now' v operation' target' ≠ .ok w) := by
  have hchecked := isChecked_of_check hr (sound_plain hinput) (parse_eq_ok.1 h)
  simp only [parse_eq_ok, ne_eq, plain_of_parse h]
  refine ⟨recovers_iff hr (by simp [Limits.bounds]) hkeyed hself hchecked, fun hs => ?_, ?_⟩
  · exact check_dump hs (fits_of_isChecked hs hkeyed hchecked)
  · rintro ⟨d, hd, hrequired, hmember⟩ w
    exact check_dump_ne_ok hr hchecked hd hrequired hmember

/-! ## Labels -/

/-- A schema of labels, whose text may be given by another name. -/
def labels (givenAs : Option String) : Schema where
  name := "Label"
  fields := [({ name := "text", givenAs := givenAs }, .text)]

/-- A label as it is built. -/
def label (givenAs : Option String) : Value :=
  .record (labels givenAs).signature [("text", "fragile")]

theorem labels_isReadable (givenAs : Option String) : (labels givenAs).type.IsReadable :=
  ⟨by simp [labels], by simp [labels], by simp [Limits.bounds], trivial, trivial⟩

theorem labels_isStorable : (labels none).type.IsStorable :=
  ⟨by decide, by simp [labels], rfl, trivial, trivial, trivial⟩

/-- A label that is given by its name is built again, and one that is given by another is not. -/
theorem parse_again_iff_sample :
    (labels none).parse 0 (.object [("text", "fragile")]) .null .null = .ok (label none) ∧
    (labels none).parse 0 (label none) .null .null = .ok (label none) ∧
    (labels (some "label")).parse 0 (.object [("label", "fragile")]) .null .null =
      .ok (label (some "label")) ∧
    ∀ w, (labels (some "label")).parse 0 (label (some "label")) .null .null ≠ .ok w := by
  have hsound : ∀ givenAs members, Sound (IsChecked {}) (labels givenAs).type (.dict members) :=
    fun _ _ => ⟨fun _ _ => trivial, trivial⟩
  have hkeyed : ∀ givenAs, (label givenAs).WellKeyed := fun givenAs => by
    simp [label, Value.wellKeyed_record, Value.WellKeyed]
  have hnamed : (labels none).parse 0 (.object [("text", "fragile")]) .null .null =
      .ok (label none) := rfl
  have hrenamed : (labels (some "label")).parse 0 (.object [("label", "fragile")]) .null .null =
      .ok (label (some "label")) := rfl
  refine ⟨hnamed, ?_, hrenamed, ?_⟩
  · exact (parse_again_iff (labels_isReadable none) (fun _ => hsound none _) hnamed (hkeyed none)
      rfl 0 .null .null).2.1 labels_isStorable
  · exact (parse_again_iff (labels_isReadable _) (fun _ => hsound _ _) hrenamed (hkeyed _) rfl 0
      .null .null).2.2 ⟨_, List.mem_cons_self, rfl, by simp [labels, Field.member]⟩

end Schema

end DocMapper
