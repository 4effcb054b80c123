import DocMapper.Proofs.Schema.Readable
import DocMapper.Proofs.Schema.RoundTrip
import DocMapper.Proofs.Schema.WellNamed
import DocMapper.Proofs.Value.Ordering
/-!
# Checks at any time

The reading of the clock comes into a check only as the default of a field. A type without such
defaults reads the same data as the same value at any time (`FieldType.check_clockless`). Elsewhere
the value depends on the time, but no limit does except for bounds on a list.

`FieldType.IsStable` are the types of which no list is held against bounds whose items take defaults
from the clock or keep undeclared members. The types of stored data without the clock are among them
(`FieldType.isStable_of_clockless`). Such a type accepts the same data at any time
(`FieldType.check_anytime`), and it accepts the stored form of what a check has left
(`FieldType.check_stored`).
-/

namespace DocMapper

/-- The same keys, written to dictionaries of the same keys, give dictionaries of the same keys. -/
theorem Dict.keys_putAll_congr {α β : Type} {d entries : Dict α} {d' entries' : Dict β}
    (hd : d.keys = d'.keys) (h : entries.keys = entries'.keys) :
    (putAll d entries).keys = (putAll d' entries').keys := by
  induction entries generalizing d d' entries' with
  | nil =>
    cases entries' with
    | nil => exact hd
    | cons => cases h
  | cons e rest ih =>
    cases entries' with
    | nil => cases h
    | cons e' rest' =>
      have hkey : e.1 = e'.1 := (List.cons.inj h).1
      have hrest : keys rest = keys rest' := (List.cons.inj h).2
      have hput : (d.put e.1 e.2).keys = (d'.put e'.1 e'.2).keys := by
        rw [keys_put, keys_put, has_eq_any, has_eq_any, hd, hkey]
      rw [putAll, putAll, List.foldl_cons, List.foldl_cons]
      exact ih hput hrest

/-- Limits without bounds. -/
structure Limits.Unbounded (limits : Limits) : Prop where
  atLeast : limits.atLeast = none
  above : limits.above = none
  atMost : limits.atMost = none
  below : limits.below = none

theorem Limits.Unbounded.holdBounds {limits : Limits} (h : limits.Unbounded) (v : Value) :
    limits.holdBounds v = .ok v := by
  simp [Limits.holdBounds, holdBound, h.atLeast, h.above, h.atMost, h.below, bind, Except.bind]

namespace FieldType

mutual

/-- No field in the type takes its default from the clock. -/
def Clockless : FieldType → Prop
  | .optional inner => Clockless inner
  | .list item => Clockless item
  | .entries value => Clockless value
  | .record _ _ _ fields => AreClockless fields
  | _ => True

/-- No field takes its default from the clock, nor does one in its type. -/
def AreClockless : List (Field × FieldType) → Prop
  | [] => True
  | (f, type) :: rest => f.default ≠ .now ∧ Clockless type ∧ AreClockless rest

end

/-- The value is what a check leaves of some data. -/
def IsLeft (limits : Limits) (type : FieldType) (v : Value) : Prop :=
  ∃ now u, Value.IsData u ∧ check now limits type u = .ok v

mutual

/-- Data of the type is accepted whenever it was once. No part of it is of free form but undeclared
members, every schema in it declares each field once and under its own name, and each default is
what a check leaves. Where a list is held against bounds, its items neither take defaults from the
clock nor keep undeclared members. -/
def IsStable (limits : Limits) : FieldType → Prop
  | .optional inner => IsStable limits inner
  | .list item => (limits.Unbounded ∨ Clockless item ∧ IsStorable item) ∧ IsStable {} item
  | .entries value => IsStable {} value
  | .record _ _ _ fields => fields.Pairwise (fun a b => a.1.name ≠ b.1.name) ∧ AreStable fields
  | .any => False
  | .dict => False
  | .set _ => False
  | .tuple _ => False
  | .union _ => False
  | _ => True

/-- `IsStable` of each field. -/
def AreStable : List (Field × FieldType) → Prop
  | [] => True
  | (f, type) :: rest => f.givenAs = none ∧ (∀ v, Gives f.default v → IsLeft f.limits type v) ∧
      IsStable f.limits type ∧ AreStable rest

end

variable {now later : Int} {limits : Limits} {type : FieldType} {v w : Value}

theorem areStable_iff {fields : List (Field × FieldType)} : AreStable fields ↔
    ∀ d ∈ fields, d.1.givenAs = none ∧
      (∀ v, Gives d.1.default v → IsLeft d.1.limits d.2 v) ∧ d.2.IsStable d.1.limits := by
  induction fields with
  | nil => simp [AreStable]
  | cons d rest ih => simp only [AreStable, List.forall_mem_cons, ih, and_assoc]

mutual

/-- **Without the clock, a value is read the same at any time.** -/
theorem check_clockless (now later : Int) : (type : FieldType) → type.Clockless →
    ∀ limits v, check now limits type v = check later limits type v
  | .optional inner, h, limits, v => by
    have hinner := check_clockless now later inner h limits v
    cases v <;> simp only [check, hinner]
  | .list item, h, limits, v => by
    have hitem : ∀ v, check now {} item v = check later {} item v :=
      check_clockless now later item h {}
    simp only [check, hitem]
  | .entries value, h, limits, v => by
    have hvalue : ∀ v, check now {} value v = check later {} value v :=
      check_clockless now later value h {}
    simp only [check, hvalue]
  | .record name declaration extra fields, h, limits, v => by
    have hfields : ∀ members, checkFields now fields members = checkFields later fields members :=
      checkFields_clockless now later fields h
    simp only [check, hfields]
  | .text, _, _, _ | .int, _, _, _ | .float, _, _, _ | .bool, _, _, _ | .any, _, _, _
  | .timestamp, _, _, _ | .date, _, _, _ | .ref, _, _, _ | .dict, _, _, _ | .set _, _, _, _
  | .tuple _, _, _, _ | .union _, _, _, _ | .byName _ _, _, _, _ => by simp only [check]

/-- Without the clock, fields are read the same at any time. -/
theorem checkFields_clockless (now later : Int) : (fields : List (Field × FieldType)) →
    AreClockless fields →
    ∀ members, checkFields now fields members = checkFields later fields members
  | [], _, _ => rfl
  | (f, type) :: rest, h, members => by
    obtain ⟨hdefault, htype, hrest⟩ := h
    have hvalue : ∀ v, check now f.limits type v = check later f.limits type v :=
      check_clockless now later type htype f.limits
    have hothers := checkFields_clockless now later rest hrest members
    cases hgiven : f.default with
    | now => exact absurd hgiven hdefault
    | required | value | fresh => simp only [checkFields, hgiven, hvalue, hothers]

end

/-- The dictionaries of a value that fits have distinct keys, and its instances distinct fields. -/
theorem wellKeyed_of_fits (hs : type.IsStorable) (h : Fits limits type v) : v.WellKeyed := by
  induction type, hs using IsStorable.induction generalizing limits v with
  | text | int | float | bool | timestamp | date | ref =>
    obtain ⟨_, rfl, -⟩ := h
    trivial
  | optional inner hs ih =>
    rcases h with rfl | h
    · trivial
    · exact ih h
  | list item hs ih =>
    obtain ⟨items, rfl, hitems, -⟩ := h
    exact Value.wellKeyed_list.2 fun x hx => ih (hitems x hx)
  | entries value hs ih =>
    obtain ⟨entries, rfl, hdistinct, -, hvalues, -⟩ := h
    exact Value.wellKeyed_dict.2 ⟨hdistinct, fun e he => ih (hvalues e he)⟩
  | record name declaration extra fields hs ih =>
    obtain ⟨held, rfl, hheld, -⟩ := h
    have hfields := fitsFields_iff.1 hheld
    refine Value.wellKeyed_record.2 ⟨hfields.distinct hs.2.1, fun e he => ?_⟩
    obtain ⟨d, hd, -, hfits⟩ := hfields.exists_declaration he
    exact ih d hd hfits
  | byName => exact h.elim

/-- A value that fits is what a check leaves of its data. -/
theorem isLeft_of_fits (hs : type.IsStorable) (h : Fits limits type v) : IsLeft limits type v :=
  ⟨0, v.dump, ⟨isPlain_dump_of_fits hs h, (wellKeyed_of_fits hs h).dump⟩, check_dump hs h⟩

mutual

/-- A type of stored data without the clock is stable. -/
theorem isStable_of_clockless : (type : FieldType) → type.Clockless → type.IsStorable →
    ∀ limits, type.IsStable limits
  | .optional inner, hc, hs, limits => isStable_of_clockless inner hc hs limits
  | .list item, hc, hs, _ => ⟨.inr ⟨hc, hs⟩, isStable_of_clockless item hc hs {}⟩
  | .entries value, hc, hs, _ => isStable_of_clockless value hc hs {}
  | .record _ _ _ fields, hc, hs, _ => ⟨hs.2.1, areStable_of_clockless fields hc hs.2.2⟩
  | .text, _, _, _ | .int, _, _, _ | .float, _, _, _ | .bool, _, _, _ | .timestamp, _, _, _
  | .date, _, _, _ | .ref, _, _, _ | .byName _ _, _, _, _ => trivial

/-- Fields of stored data without the clock are stable. -/
theorem areStable_of_clockless : (fields : List (Field × FieldType)) → AreClockless fields →
    AreStorable fields → AreStable fields
  | [], _, _ => trivial
  | (f, type) :: rest, ⟨hdefault, htype, hrest⟩, ⟨hgiven, hfits, hs, hothers⟩ => by
    refine ⟨hgiven, fun v hv => ?_, isStable_of_clockless type htype hs f.limits,
      areStable_of_clockless rest hrest hothers⟩
    cases hvalue : f.default with
    | value given =>
      rw [hvalue] at hv hfits
      cases hv
      exact isLeft_of_fits hs hfits
    | now => exact absurd hvalue hdefault
    | required | fresh =>
      rw [hvalue] at hv
      exact hv.elim

end

/-- A field that comes to a value at one time does at any other. -/
theorem checkField_anytime {f : Field} {members : Dict Value}
    (ih : ∀ v w, check now f.limits type v = .ok w → ∃ w', check later f.limits type v = .ok w')
    (h : checkField now f type members = .ok v) :
    ∃ v', checkField later f type members = .ok v' := by
  unfold checkField at h ⊢
  split at h
  · obtain ⟨w', hw'⟩ := ih _ _ (Checked.under_eq_ok.1 h)
    exact ⟨w', Checked.under_eq_ok.2 hw'⟩
  · split at h
    · cases h
    · exact ⟨_, rfl⟩
    · exact ⟨_, rfl⟩
    · obtain ⟨w', hw'⟩ := ih _ _ (Checked.under_eq_ok.1 h)
      exact ⟨w', Checked.under_eq_ok.2 hw'⟩

/-- The keys of checked entries do not depend on what the values come to. -/
theorem keys_of_checkEntry {members entries others : Dict Value} {f g : Value → Checked Value}
    (hothers : (members.map fun e => checkEntry e.1 (f e.2)) = others.map .ok)
    (hentries : (members.map fun e => checkEntry e.1 (g e.2)) = entries.map .ok) :
    others.keys = entries.keys := by
  induction members generalizing entries others with
  | nil =>
    cases others <;> cases hothers
    cases entries <;> cases hentries
    rfl
  | cons e rest ih =>
    cases others with
    | nil => cases hothers
    | cons o others =>
      cases entries with
      | nil => cases hentries
      | cons e' entries =>
        simp only [List.map_cons, List.cons.injEq] at hothers hentries
        obtain ⟨s, hs, ho, -⟩ := checkEntry_eq_ok.1 hothers.1
        obtain ⟨s', hs', he', -⟩ := checkEntry_eq_ok.1 hentries.1
        cases hs.symm.trans hs'
        rw [Dict.keys, Dict.keys, List.map_cons, List.map_cons, ho, he']
        exact congrArg _ (ih hothers.2 hentries.2)

/-- As many entries are left as there are keys, whatever their values come to. -/
theorem length_ofEntries_of_checkEntry {members entries others : Dict Value}
    {f g : Value → Checked Value}
    (hothers : (members.map fun e => checkEntry e.1 (f e.2)) = others.map .ok)
    (hentries : (members.map fun e => checkEntry e.1 (g e.2)) = entries.map .ok) :
    (Dict.ofEntries others).length = (Dict.ofEntries entries).length := by
  have hkeys : Dict.keys (Dict.ofEntries others) = Dict.keys (Dict.ofEntries entries) :=
    Dict.keys_putAll_congr rfl (keys_of_checkEntry hothers hentries)
  have hlength := congrArg List.length hkeys
  simpa [Dict.keys] using hlength

/-! ## What is accepted once -/

/-- An instance is within limits if another one is. -/
theorem hold_record {own own' : Signature} {held others : List (String × Value)}
    (h : limits.hold (.record own held) = .ok (.record own held)) :
    limits.hold (.record own' others) = .ok (.record own' others) := by
  have hcompare : ∀ b,
      (Value.record own' others).compare? b = (Value.record own held).compare? b := by
    intro b
    rw [Value.compare?_record, Value.compare?_record]
  exact Limits.hold_congr hcompare rfl h

mutual

/-- **What is accepted at one time is accepted at any other.** -/
theorem check_anytime (now later : Int) : (type : FieldType) → {limits : Limits} →
    type.IsStable limits → {v w : Value} → check now limits type v = .ok w →
    ∃ w', check later limits type v = .ok w'
  | .optional inner, limits, hs, v, w, h => by
    by_cases hnull : v = .null
    · exact ⟨.null, by rw [hnull, check_optional_null]⟩
    · rw [check_optional hnull] at h ⊢
      exact check_anytime now later inner hs h
  | .list item, limits, ⟨hlist, hitem⟩, v, w, h => by
    rcases hlist with hbounds | hclosed
    case inr => exact ⟨w, check_clockless now later (.list item) hclosed.1 limits v ▸ h⟩
    obtain ⟨items, values, hitems, hvalues, rfl, hlengths, -⟩ := check_list.1 h
    have hread : ∀ x ∈ items, ∃ y, check later {} item x = .ok y := by
      intro x hx
      have hmem : check now {} item x ∈ values.map .ok := hvalues ▸ List.mem_map_of_mem hx
      obtain ⟨y, -, hy⟩ := List.mem_map.1 hmem
      exact check_anytime now later item hitem hy.symm
    obtain ⟨others, hothers⟩ := exists_map_eq_of_forall hread
    have hcount : others.length = values.length := by
      have h₁ := congrArg List.length hvalues
      have h₂ := congrArg List.length hothers
      simp only [List.length_map] at h₁ h₂
      omega
    exact ⟨_, check_list.2 ⟨items, others, hitems, hothers, rfl,
      Limits.checkList_congr hcount hlengths, hbounds.holdBounds _⟩⟩
  | .entries value, limits, hs, v, w, h => by
    obtain ⟨members, entries, rfl, hentries, rfl, hlengths, hbounds⟩ := check_entries.1 h
    have hread : ∀ e ∈ members, ∃ e', checkEntry e.1 (check later {} value e.2) = .ok e' := by
      intro e he
      have hmem : checkEntry e.1 (check now {} value e.2) ∈ entries.map .ok :=
        hentries ▸ List.mem_map_of_mem (f := fun e => checkEntry e.1 (check now {} value e.2)) he
      obtain ⟨e', -, he'⟩ := List.mem_map.1 hmem
      obtain ⟨s, hs', -, hvalue⟩ := checkEntry_eq_ok.1 he'.symm
      obtain ⟨w', hw'⟩ := check_anytime now later value hs hvalue
      exact ⟨(.text s, w'), checkEntry_eq_ok.2 ⟨s, hs', rfl, hw'⟩⟩
    obtain ⟨others, hothers⟩ := exists_map_eq_of_forall hread
    exact ⟨_, check_entries.2 ⟨members, others, rfl, hothers, rfl,
      Limits.checkDict_congr (length_ofEntries_of_checkEntry hothers hentries) hlengths,
      Limits.holdBounds_congr (fun b => by rw [Value.compare?_dict, Value.compare?_dict]) hbounds⟩⟩
  | .record name declaration extra fields, limits, hs, v, w, h => by
    cases v with
    | dict members =>
      obtain ⟨declared, added, hdeclared, hadded, rfl, hlimits⟩ := check_members.1 h
      obtain ⟨others, hothers⟩ := Pointwise.of_forall (P := fun f type v =>
          checkField later f type members = .ok v) fun d hd => by
        obtain ⟨v, -, hv⟩ := (checkFields_eq.1 hdeclared).exists_field hd
        exact checkField_anytime (fun _ _ => checks_anytime now later fields hs.2 d hd) hv
      exact ⟨_, check_members.2 ⟨others, added, checkFields_eq.2 hothers, hadded, rfl,
        hold_record hlimits⟩⟩
    | _ =>
      simp only [check] at h ⊢
      exact ⟨w, h⟩
  | .text, _, _, _, w, h | .int, _, _, _, w, h | .float, _, _, _, w, h | .bool, _, _, _, w, h
  | .timestamp, _, _, _, w, h | .date, _, _, _, w, h | .ref, _, _, _, w, h => by
    rw [check] at h ⊢
    exact ⟨w, h⟩

theorem checks_anytime (now later : Int) : (fields : List (Field × FieldType)) → AreStable fields →
    ∀ d ∈ fields, {v w : Value} → check now d.1.limits d.2 v = .ok w →
    ∃ w', check later d.1.limits d.2 v = .ok w'
  | [], _, _, hd, _, _, _ => by cases hd
  | (f, type) :: rest, hs, d, hd, v, w, h => by
    rcases List.mem_cons.1 hd with rfl | hmem
    · exact check_anytime now later type hs.2.2.1 h
    · exact checks_anytime now later rest hs.2.2.2 d hmem h

end

/-! ## What is accepted once it is stored -/

/-- What a field comes to is what a check leaves. -/
theorem isLeft_of_checkField {f : Field} {members : Dict Value}
    (hdefault : ∀ v, Gives f.default v → IsLeft f.limits type v)
    (hmembers : ∀ e ∈ members, e.2.IsData) (h : checkField now f type members = .ok v) :
    IsLeft f.limits type v := by
  unfold checkField at h
  split at h
  · rename_i given hgiven
    obtain ⟨k, hmem, -⟩ := Dict.exists_mem_of_get? hgiven
    exact ⟨now, given, hmembers _ hmem, Checked.under_eq_ok.1 h⟩
  · split at h
    · cases h
    · rename_i hvalue
      cases h
      exact hdefault v (by rw [hvalue]; rfl)
    · rename_i hnow
      cases h
      exact hdefault _ (by rw [hnow]; exact ⟨now, rfl⟩)
    · exact ⟨now, .dict [], Value.isData_dict.2 ⟨Dict.distinct_nil, by simp⟩,
        Checked.under_eq_ok.1 h⟩

/-- Of a type of stored data, what a check leaves is accepted once it is stored. -/
theorem check_stored_of_isStorable (hs : type.IsStorable) (h : IsLeft limits type w)
    (hminutely : w.IsMinutely) :
    ∃ w', check later limits type (w.jsonDump type.storing) = .ok w' := by
  obtain ⟨now, v, hv, h⟩ := h
  exact ⟨_, check_jsonDump hs (fits_of_check hs hv.plain h) hminutely⟩

/-- Entries with texts for keys are checked as their values are. -/
theorem exists_checkEntry_of_texts {f : Value → Checked Value} {entries : Dict Value}
    (h : ∀ e ∈ entries, ∃ s, e.1 = .text s ∧ ∃ w, f e.2 = .ok w) :
    ∃ others : Dict Value, (entries.map fun e => checkEntry e.1 (f e.2)) = others.map .ok := by
  refine exists_map_eq_of_forall fun e he => ?_
  obtain ⟨s, hs, w, hw⟩ := h e he
  exact ⟨(.text s, w), checkEntry_eq_ok.2 ⟨s, by rw [hs]; rfl, rfl, hw⟩⟩

theorem checkEntry_of_texts {entries : Dict Value} (h : ∀ e ∈ entries, ∃ s, e.1 = .text s) :
    (entries.map fun e => checkEntry e.1 (.ok e.2)) = entries.map .ok := by
  refine List.map_congr_left fun e he => ?_
  obtain ⟨s, hs⟩ := h e he
  exact checkEntry_eq_ok.2 ⟨s, by rw [hs]; rfl, hs, rfl⟩

/-- Members with texts for keys are all kept. -/
theorem exists_checkExtra_kept {others : Dict Value} (h : ∀ e ∈ others, ∃ s, e.1 = .text s) :
    ∃ added, checkExtra .kept others = .ok added := by
  simp only [checkExtra, Checked.all_eq_ok]
  refine exists_map_eq_of_forall fun e he => ?_
  obtain ⟨s, hs⟩ := h e he
  exact ⟨(s, e.2), by simp only [hs]⟩

/-- The stored form of an instance has no member that is refused. -/
theorem exists_checkExtra_stored {extra : Extra} {fields : List (Field × FieldType)}
    (hs : AreStable fields) {declared added : List (String × Value)}
    {P : Field → FieldType → Value → Prop} (hdeclared : Pointwise P fields declared)
    {members : Dict Value} (hadded : checkExtra extra (otherMembers fields members) = .ok added)
    (f : String × Value → Value) : ∃ added', checkExtra extra
      (otherMembers fields ((declared ++ added).map fun e => (.text e.1, f e))) = .ok added' := by
  cases extra with
  | ignored => exact ⟨[], rfl⟩
  | kept =>
    refine exists_checkExtra_kept fun e he => ?_
    obtain ⟨e, -, rfl⟩ := List.mem_map.1 (List.mem_of_mem_filter he)
    exact ⟨_, rfl⟩
  | refused =>
    obtain ⟨rfl, -⟩ := (checkExtra_eq_ok (by decide)).1 hadded
    refine ⟨[], (checkExtra_eq_ok (by decide)).2 ⟨rfl, fun _ => otherMembers_eq_nil.2 ?_⟩⟩
    rw [List.append_nil, List.forall_mem_map]
    intro e he
    obtain ⟨d, hd, hname, -⟩ := hdeclared.exists_declaration he
    exact ⟨d, hd, by rw [Field.member, (areStable_iff.1 hs d hd).1, Option.getD_none, hname]⟩

mutual

/-- **What a check has left is accepted once it is stored**, if the offsets of its timestamps are
whole minutes. -/
theorem check_stored (later : Int) : (type : FieldType) → {limits : Limits} →
    type.IsStable limits → {w : Value} → IsLeft limits type w → w.IsMinutely →
    ∃ w', check later limits type (w.jsonDump type.storing) = .ok w'
  | .optional inner, limits, hs, w, ⟨now, v, hv, h⟩, hminutely => by
    rw [storing]
    by_cases hstored : w.jsonDump inner.storing = .null
    · exact ⟨.null, by rw [hstored, check_optional_null]⟩
    · rw [check_optional hstored]
      have hnull : v ≠ .null := by
        rintro rfl
        rw [check_optional_null] at h
        cases h
        exact hstored (Value.jsonDump_null _)
      rw [check_optional hnull] at h
      exact check_stored later inner hs ⟨now, v, hv, h⟩ hminutely
  | .list item, limits, ⟨hlist, hitem⟩, w, hleft, hminutely => by
    rcases hlist with hbounds | hclosed
    case inr =>
      have hstorable : IsStorable (.list item) := hclosed.2
      exact check_stored_of_isStorable hstorable hleft hminutely
    obtain ⟨now, v, hv, h⟩ := hleft
    obtain ⟨items, values, hitems, hvalues, rfl, hlengths, -⟩ := check_list.1 h
    have hdata : ∀ x ∈ items, x.IsData := by
      rcases hitems with rfl | rfl
      · exact Value.isData_list.1 hv
      · exact Value.isData_tuple.1 hv
    rw [Value.IsMinutely, Value.areMinutely_iff] at hminutely
    have hread : ∀ y ∈ values.map (Value.jsonDump item.storing),
        ∃ y', check later {} item y = .ok y' := by
      rw [List.forall_mem_map]
      intro y hy
      obtain ⟨x, hx, hcheck⟩ := forall_mem_of_map_eq hvalues hy
      exact check_stored later item hitem ⟨now, x, hdata x hx, hcheck⟩ (hminutely y hy)
    obtain ⟨others, hothers⟩ := exists_map_eq_of_forall hread
    have hcount : others.length = values.length := by
      simpa using (congrArg List.length hothers).symm
    rw [storing, Value.jsonDump, Value.jsonDumpList_eq_map]
    exact ⟨_, check_list.2 ⟨_, others, .inl rfl, hothers, rfl,
      Limits.checkList_congr hcount hlengths, hbounds.holdBounds _⟩⟩
  | .entries value, limits, hs, w, ⟨now, v, hv, h⟩, hminutely => by
    obtain ⟨members, entries, rfl, hentries, rfl, hlengths, hbounds⟩ := check_entries.1 h
    have hentry := forall_mem_of_checkEntry hentries fun e he w hw hminutely =>
      check_stored later value hs ⟨now, e.2, (Value.isData_dict.1 hv).2 e he, hw⟩ hminutely
    rw [Value.IsMinutely, Value.areMinutelyEntries_iff] at hminutely
    have hdistinct := Dict.distinct_ofEntries entries
    rw [jsonDump_entries hdistinct fun e he => (hentry e he).1]
    have hread : ∀ e ∈ (Dict.ofEntries entries).map fun e => (e.1, e.2.jsonDump value.storing),
        ∃ s, e.1 = .text s ∧ ∃ w', check later {} value e.2 = .ok w' := by
      rw [List.forall_mem_map]
      intro e he
      obtain ⟨⟨s, hs⟩, hstored⟩ := hentry e he
      exact ⟨s, hs, hstored (hminutely e he)⟩
    obtain ⟨others, hothers⟩ := exists_checkEntry_of_texts hread
    have hcount := length_ofEntries_of_checkEntry hothers
      (checkEntry_of_texts fun e he => (hread e he).imp fun _ h => h.1)
    rw [Dict.ofEntries_of_distinct (hdistinct.map fun e => e.2.jsonDump value.storing),
      List.length_map] at hcount
    exact ⟨_, check_entries.2 ⟨_, others, rfl, hothers, rfl, Limits.checkDict_congr hcount hlengths,
      Limits.holdBounds_congr (fun b => by rw [Value.compare?_dict, Value.compare?_dict]) hbounds⟩⟩
  | .record name declaration extra fields, limits, hs, w, ⟨now, v, hv, h⟩, hminutely => by
    cases v with
    | dict members =>
      obtain ⟨declared, added, hdeclared, hadded, rfl, hlimits⟩ := check_members.1 h
      have hfields := checkFields_eq.1 hdeclared
      have hown : ∀ d ∈ fields, d.1.member = d.1.name := by
        intro d hd
        rw [Field.member, (areStable_iff.1 hs.2 d hd).1, Option.getD_none]
      have hother : ∀ e ∈ added, ∀ d ∈ declared, d.1 ≠ e.1 := by
        intro e he d hd
        obtain ⟨f, hf, hname, -⟩ := hfields.exists_declaration hd
        exact hname ▸ name_ne_of_checkExtra hown hadded e he f hf
      have hdistinct := pairwise_overlay (hfields.distinct hs.1)
        (wellKeyed_of_checkExtra hv.keyed hadded).1
      rw [overlay_eq_append hother] at hlimits hminutely hdistinct ⊢
      rw [Value.IsMinutely, Value.areMinutelyFields_iff] at hminutely
      rw [Value.jsonDump, Value.jsonDumpFields_eq_map]
      obtain ⟨read, hread⟩ := Pointwise.of_forall (P := fun f type w => checkField later f type
          ((declared ++ added).map fun e => (.text e.1, Value.jsonDump
            ((signatureOf name declaration fields).storingOf e.1) e.2)) = .ok w) fun d hd => by
        obtain ⟨u, hu, hcheck⟩ := hfields.exists_field hd
        obtain ⟨hgiven, hdefault, -⟩ := areStable_iff.1 hs.2 d hd
        have hmem := List.mem_append_left added hu
        simp only [checkField_of_get? hgiven (Value.get?_named hdistinct _ hmem),
          storingOf_signatureOf hs.1 hd]
        exact checks_stored later fields hs.2 d hd
          (isLeft_of_checkField hdefault (Value.isData_dict.1 hv).2 hcheck) (hminutely _ hmem)
      obtain ⟨kept, hkept⟩ := exists_checkExtra_stored hs.2 hfields hadded fun e =>
        Value.jsonDump ((signatureOf name declaration fields).storingOf e.1) e.2
      exact ⟨_, check_members.2 ⟨read, kept, checkFields_eq.2 hread, hkept, rfl,
        hold_record hlimits⟩⟩
    | record =>
      have hplain := hv.plain
      simp [Value.isPlain] at hplain
    | _ => simp [check, Checked.reject] at h
  | .text, _, _, _, h, hminutely | .int, _, _, _, h, hminutely | .float, _, _, _, h, hminutely
  | .bool, _, _, _, h, hminutely | .timestamp, _, _, _, h, hminutely
  | .date, _, _, _, h, hminutely | .ref, _, _, _, h, hminutely =>
    check_stored_of_isStorable trivial h hminutely

theorem checks_stored (later : Int) : (fields : List (Field × FieldType)) → AreStable fields →
    ∀ d ∈ fields, {w : Value} → IsLeft d.1.limits d.2 w → w.IsMinutely →
    ∃ w', check later d.1.limits d.2 (w.jsonDump d.2.storing) = .ok w'
  | [], _, _, hd, _, _, _ => by cases hd
  | (f, type) :: rest, hs, d, hd, w, h, hminutely => by
    rcases List.mem_cons.1 hd with rfl | hmem
    · exact check_stored later type hs.2.2.1 h hminutely
    · exact checks_stored later rest hs.2.2.2 d hmem h hminutely

end

end FieldType

end DocMapper
