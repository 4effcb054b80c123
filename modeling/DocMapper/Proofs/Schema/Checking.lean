import DocMapper.Proofs.Data.Outcome
import DocMapper.Proofs.Schema.Building
import DocMapper.Proofs.Schema.Fits
import DocMapper.Proofs.Value.Dumping
import DocMapper.Proofs.Value.Plain
/-!
# What a check takes and gives

A check of each type passes just on the values that can be read as values of the type, within the
limits (`FieldType.check_text`, `FieldType.check_list`, `FieldType.check_record` and the like).

Main statement: what a check gives fits the type (`FieldType.fits_of_sound`), as long as the instances
among what is checked, which are taken as they are, do (`FieldType.Sound`). Plain data has no
instances (`FieldType.fits_of_check`).
-/

namespace DocMapper

namespace FieldType

attribute [local simp] check checkFields Fits FitsFields

/-! ## Checks of single values -/

section Leaves

variable {now : Int} {limits : Limits} {v w : Value}

theorem check_text : check now limits .text v = .ok w ↔
    ∃ s, v.asText = .ok s ∧ w = .text s ∧ Fits limits .text w := by
  simp only [check, Except.bind_eq_ok, Fits]
  constructor
  · rintro ⟨s, hs, u, hu, hw⟩
    cases Limits.checkText_eq_ok hu
    cases Limits.holdBounds_eq_ok hw
    exact ⟨s, hs, rfl, s, rfl, hu, hw⟩
  · rintro ⟨s, hs, rfl, s', hs', hu, hw⟩
    cases hs'
    exact ⟨s, hs, _, hu, hw⟩

theorem check_int : check now limits .int v = .ok w ↔
    ∃ n, v.asInt = .ok n ∧ w = .int n ∧ Fits limits .int w := by
  simp only [check, Except.bind_eq_ok, Fits]
  constructor
  · rintro ⟨n, hn, u, hu, hw⟩
    cases Limits.checkBounds_eq_ok hu
    cases Limits.holdLengths_eq_ok hw
    exact ⟨n, hn, rfl, n, rfl, hu, hw⟩
  · rintro ⟨n, hn, rfl, -, -, hu, hw⟩
    exact ⟨n, hn, _, hu, hw⟩

theorem check_float : check now limits .float v = .ok w ↔
    ∃ x, v.asFloat = .ok x ∧ w = .float x ∧ Fits limits .float w := by
  simp only [check, Except.bind_eq_ok, Fits]
  constructor
  · rintro ⟨x, hx, u, hu, hw⟩
    cases Limits.checkBounds_eq_ok hu
    cases Limits.holdLengths_eq_ok hw
    exact ⟨x, hx, rfl, x, rfl, hu, hw⟩
  · rintro ⟨x, hx, rfl, -, -, hu, hw⟩
    exact ⟨x, hx, _, hu, hw⟩

theorem check_bool : check now limits .bool v = .ok w ↔
    ∃ b, v.asBool = .ok b ∧ w = .bool b ∧ Fits limits .bool w := by
  simp only [check, Except.bind_eq_ok, Fits]
  constructor
  · rintro ⟨b, hb, hw⟩
    cases Limits.hold_eq_ok hw
    exact ⟨b, hb, rfl, b, rfl, hw⟩
  · rintro ⟨b, hb, rfl, -, -, hw⟩
    exact ⟨b, hb, hw⟩

theorem check_timestamp : check now limits .timestamp v = .ok w ↔
    ∃ t, v.asTimestamp = .ok t ∧ w = .timestamp t ∧ Fits limits .timestamp w := by
  simp only [check, Except.bind_eq_ok, Fits]
  constructor
  · rintro ⟨t, ht, u, hu, hw⟩
    cases Limits.checkBounds_eq_ok hu
    cases Limits.holdLengths_eq_ok hw
    exact ⟨t, ht, rfl, t, rfl, hu, hw⟩
  · rintro ⟨t, ht, rfl, -, -, hu, hw⟩
    exact ⟨t, ht, _, hu, hw⟩

theorem check_date : check now limits .date v = .ok w ↔
    ∃ d, v.asDate = .ok d ∧ w = .date d ∧ Fits limits .date w := by
  simp only [check, Except.bind_eq_ok, Fits]
  constructor
  · rintro ⟨d, hd, u, hu, hw⟩
    cases Limits.checkBounds_eq_ok hu
    cases Limits.holdLengths_eq_ok hw
    exact ⟨d, hd, rfl, d, rfl, hu, hw⟩
  · rintro ⟨d, hd, rfl, -, -, hu, hw⟩
    exact ⟨d, hd, _, hu, hw⟩

theorem check_ref : check now limits .ref v = .ok w ↔
    ∃ r, Ref.read v = .ok r ∧ w = .ref r ∧ Fits limits .ref w := by
  simp only [check, Except.bind_eq_ok, Fits]
  constructor
  · rintro ⟨r, hr, hw⟩
    cases Limits.hold_eq_ok hw
    exact ⟨r, hr, rfl, r, rfl, hw⟩
  · rintro ⟨r, hr, rfl, -, -, hw⟩
    exact ⟨r, hr, hw⟩

end Leaves

/-! ## Checks of composed values -/

/-- A value that is not null is read as one of the inner type. -/
theorem check_optional {now : Int} {limits : Limits} {inner : FieldType} {v : Value}
    (h : v ≠ .null) : check now limits (.optional inner) v = check now limits inner v := by
  cases v with
  | null => exact absurd rfl h
  | _ => simp only [check]

@[simp] theorem check_optional_null {now : Int} {limits : Limits} {inner : FieldType} :
    check now limits (.optional inner) .null = .ok .null := by
  rw [check]

theorem check_list {now : Int} {limits : Limits} {item : FieldType} {v w : Value} :
    check now limits (.list item) v = .ok w ↔
      ∃ items values, (v = .list items ∨ v = .tuple items) ∧
        items.map (check now {} item) = values.map .ok ∧ w = .list values ∧
        limits.checkList w (values.map .ok) = .ok w ∧ limits.holdBounds w = .ok w := by
  have hread : ∀ items : List Value, (do
      limits.holdBounds (← limits.checkList v (items.mapIdx fun i v =>
        Checked.under (toString i) (check now {} item v)))) = .ok w ↔
      ∃ values, items.map (check now {} item) = values.map .ok ∧ w = .list values ∧
        limits.checkList w (values.map .ok) = .ok w ∧ limits.holdBounds w = .ok w := by
    intro items
    rw [Except.bind_eq_ok]
    constructor
    · rintro ⟨u, hu, hw⟩
      obtain ⟨values, hvalues, rfl⟩ := Limits.checkList_eq_ok hu
      cases Limits.holdBounds_eq_ok hw
      rw [hvalues] at hu
      exact ⟨values, (Checked.mapIdx_under_eq _).1 hvalues, rfl, Limits.checkList_congr rfl hu, hw⟩
    · rintro ⟨values, hvalues, rfl, hu, hw⟩
      rw [(Checked.mapIdx_under_eq _).2 hvalues]
      exact ⟨_, Limits.checkList_congr rfl hu, hw⟩
  cases v with
  | list items =>
    simp only [check, hread]
    simp
  | tuple items =>
    simp only [check, hread]
    simp
  | _ => simp [check, Checked.reject]

theorem checkEntry_eq_ok {key : Key} {value : Checked Value} {e : Key × Value} :
    checkEntry key value = .ok e ↔
      ∃ s, (Value.ofKey key).asText = .ok s ∧ e.1 = .text s ∧ value = .ok e.2 := by
  obtain ⟨k, v⟩ := e
  simp only [checkEntry, Except.map_eq_ok, Checked.under_eq_ok, Checked.both_eq_ok, Prod.exists,
    Prod.mk.injEq]
  constructor
  · rintro ⟨s, u, ⟨hs, hu⟩, rfl, rfl⟩
    exact ⟨s, hs, rfl, hu⟩
  · rintro ⟨s, hs, rfl, hu⟩
    exact ⟨s, v, ⟨hs, hu⟩, rfl, rfl⟩

theorem check_entries {now : Int} {limits : Limits} {value : FieldType} {v w : Value} :
    check now limits (.entries value) v = .ok w ↔
      ∃ members entries, v = .dict members ∧
        (members.map fun e => checkEntry e.1 (check now {} value e.2)) = entries.map .ok ∧
        w = .dict (Dict.ofEntries entries) ∧
        limits.checkDict (Dict.ofEntries entries) = .ok w ∧ limits.holdBounds w = .ok w := by
  cases v with
  | dict members =>
    simp only [check, Except.bind_eq_ok, Checked.all_eq_ok, Value.dict.injEq, exists_and_left,
      exists_eq_left']
    constructor
    · rintro ⟨entries, hentries, u, hu, hw⟩
      cases Limits.checkDict_eq_ok hu
      cases Limits.holdBounds_eq_ok hw
      exact ⟨entries, hentries, rfl, hu, hw⟩
    · rintro ⟨entries, hentries, rfl, hu, hw⟩
      exact ⟨entries, hentries, _, hu, hw⟩
  | _ => simp [check, Checked.reject]

/-- No value is of a type that is only named. -/
theorem check_byName_ne_ok {now : Int} {limits : Limits} {name : String} {declaration : Nat}
    {v w : Value} : check now limits (.byName name declaration) v ≠ .ok w := by
  simp [Checked.reject]

/-- What becomes of undeclared members where none are kept. -/
theorem checkExtra_eq_ok {extra : Extra} (hextra : extra ≠ .kept) {others : Dict Value}
    {added : List (String × Value)} : checkExtra extra others = .ok added ↔
      added = [] ∧ (extra = .refused → others = []) := by
  cases extra with
  | ignored => simp [checkExtra, eq_comm]
  | kept => exact absurd rfl hextra
  | refused =>
    cases others with
    | nil => simp [checkExtra, Checked.all, eq_comm]
    | cons e rest =>
      obtain ⟨k, v⟩ := e
      simp only [checkExtra, Checked.all_eq_ok, List.map_cons]
      cases added with
      | nil => simp
      | cons => cases k <;> simp [rejectKey, Checked.under_eq_ok, Checked.reject]

theorem overlay_nil (declared : List (String × Value)) : overlay declared [] = declared := by
  simp [overlay]

/-- A dictionary is checked field by field where no undeclared members are kept. -/
theorem check_record {now : Int} {limits : Limits} {name : String} {declaration : Nat}
    {extra : Extra} (hextra : extra ≠ .kept) {fields : List (Field × FieldType)}
    {members : Dict Value} {w : Value} :
    check now limits (.record name declaration extra fields) (.dict members) = .ok w ↔
      ∃ held, checkFields now fields members = held.map .ok ∧
        (extra = .refused → otherMembers fields members = []) ∧
        w = .record (signatureOf name declaration fields) held ∧ limits.hold w = .ok w := by
  simp only [check, Except.bind_eq_ok, Checked.both_eq_ok, Checked.all_eq_ok,
    checkExtra_eq_ok hextra, Prod.exists]
  constructor
  · rintro ⟨held, _, ⟨hheld, rfl, hothers⟩, hw⟩
    cases Limits.hold_eq_ok hw
    rw [overlay_nil] at hw
    exact ⟨held, hheld, hothers, by rw [overlay_nil], by rw [overlay_nil]; exact hw⟩
  · rintro ⟨held, hheld, hothers, rfl, hw⟩
    exact ⟨held, [], ⟨hheld, rfl, hothers⟩, by rw [overlay_nil]; exact hw⟩

/-- The value of one field, from the members of a dictionary. -/
def checkField (now : Int) (f : Field) (type : FieldType) (members : Dict Value) : Checked Value :=
  match Dict.get? members (.text f.member) with
  | some v => Checked.under f.member (check now f.limits type v)
  | none =>
    match f.default with
    | .required => Checked.under f.member (Checked.reject .missing (.dict members))
    | .value v => .ok v
    | .now => .ok (.int now)
    | .fresh => Checked.under f.member (check now f.limits type (.dict []))

theorem checkFields_cons (now : Int) (f : Field) (type : FieldType)
    (rest : List (Field × FieldType)) (members : Dict Value) :
    checkFields now ((f, type) :: rest) members =
      (checkField now f type members).map (fun v => (f.name, v)) ::
        checkFields now rest members := by
  rw [checkFields]
  rfl

/-- Fields are checked one by one. -/
theorem checkFields_eq {now : Int} {fields : List (Field × FieldType)} {members : Dict Value}
    {held : List (String × Value)} : checkFields now fields members = held.map .ok ↔
      Pointwise (fun f type v => checkField now f type members = .ok v) fields held := by
  induction fields generalizing held with
  | nil => cases held <;> simp [checkFields, Pointwise]
  | cons d rest ih =>
    rw [checkFields_cons, Pointwise]
    cases held with
    | nil => simp
    | cons e others =>
      simp only [List.map_cons, List.cons.injEq, Except.map_eq_ok, ih]
      constructor
      · rintro ⟨⟨v, hv, rfl⟩, hrest⟩
        exact ⟨v, others, ⟨rfl, rfl⟩, hv, hrest⟩
      · rintro ⟨v, _, ⟨rfl, rfl⟩, hv, hrest⟩
        exact ⟨⟨v, hv, rfl⟩, hrest⟩

/-- Undeclared members that are added to an instance are some of those that no field takes. -/
theorem sublist_of_checkExtra {extra : Extra} {others : Dict Value} {added : List (String × Value)}
    (h : checkExtra extra others = .ok added) :
    List.Sublist (added.map fun e => (Key.text e.1, e.2)) others := by
  cases extra with
  | ignored =>
    cases h
    exact List.nil_sublist _
  | refused =>
    obtain ⟨rfl, hothers⟩ := (checkExtra_eq_ok (by decide)).1 h
    exact List.nil_sublist _
  | kept =>
    rw [checkExtra, Checked.all_eq_ok] at h
    induction others generalizing added with
    | nil =>
      cases added with
      | nil => exact List.nil_sublist _
      | cons => cases h
    | cons e rest ih =>
      cases added with
      | nil => cases h
      | cons e' added =>
        obtain ⟨k, v⟩ := e
        simp only [List.map_cons, List.cons.injEq] at h
        cases k with
        | text s =>
          cases h.1
          exact (ih h.2).cons_cons _
        | _ => cases Checked.under_eq_ok.1 h.1

/-- Undeclared members that are added to an instance are none that a field is given by. -/
theorem member_ne_of_checkExtra {extra : Extra} {fields : List (Field × FieldType)}
    {members : Dict Value} {added : List (String × Value)}
    (h : checkExtra extra (otherMembers fields members) = .ok added) :
    ∀ e ∈ added, ∀ d ∈ fields, d.1.member ≠ e.1 := by
  intro e he d hd
  have hmem := (sublist_of_checkExtra h).subset
    (List.mem_map_of_mem (f := fun e => (Key.text e.1, e.2)) he)
  exact of_decide_eq_true (List.all_eq_true.1 (List.mem_filter.1 hmem).2 d hd)

/-- Fields that have other names than the declared ones follow them. -/
theorem overlay_eq_append {declared added : List (String × Value)}
    (h : ∀ e ∈ added, ∀ d ∈ declared, d.1 ≠ e.1) : overlay declared added = declared ++ added := by
  have hoverlay : overlay declared added =
      (declared.map fun d => (d.1, (added.lookup d.1).getD d.2)) ++
        added.filter fun e => declared.all fun d => d.1 ≠ e.1 := rfl
  have hdeclared : (declared.map fun d => (d.1, (added.lookup d.1).getD d.2)) = declared := by
    refine (List.map_congr_left fun d hd => ?_).trans (List.map_id _)
    have hnone : added.lookup d.1 = none := by
      refine List.lookup_eq_none_iff.2 fun e he => ?_
      simpa using h e he d hd
    simp [hnone]
  have hadded : (added.filter fun e => declared.all fun d => d.1 ≠ e.1) = added := by
    refine List.filter_eq_self.2 fun e he => ?_
    simpa using h e he
  rw [hoverlay, hdeclared, hadded]

/-- An instance that is read from a dictionary has distinct fields, among them all that are
declared. -/
theorem exists_fields_of_check {now : Int} {limits : Limits} {name : String} {declaration : Nat}
    {extra : Extra} {fields : List (Field × FieldType)} (hf : ∀ d ∈ fields, d.1.givenAs = none)
    (hn : fields.Pairwise fun a b => a.1.name ≠ b.1.name) {members : Dict Value}
    (hm : members.Distinct) {w : Value}
    (h : check now limits (.record name declaration extra fields) (.dict members) = .ok w) :
    ∃ held, w = .record (signatureOf name declaration fields) held ∧
      (held.Pairwise fun a b => a.1 ≠ b.1) ∧
      ∀ d ∈ fields, ∃ v, (d.1.name, v) ∈ held ∧ checkField now d.1 d.2 members = .ok v := by
  simp only [check, Except.bind_eq_ok, Checked.both_eq_ok, Checked.all_eq_ok, Prod.exists] at h
  obtain ⟨declared, added, ⟨hdeclared, hadded⟩, hw⟩ := h
  have hfields := checkFields_eq.1 hdeclared
  have hsublist := sublist_of_checkExtra hadded
  have hother : ∀ e ∈ added, ∀ d ∈ declared, d.1 ≠ e.1 := by
    intro e he d hd
    obtain ⟨f, hfd, hname, -⟩ := hfields.exists_declaration hd
    have hnot := member_ne_of_checkExtra hadded e he f hfd
    rwa [Field.member, hf f hfd, Option.getD_none, hname] at hnot
  rw [overlay_eq_append hother] at hw
  refine ⟨declared ++ added, Limits.hold_eq_ok hw, ?_, fun d hd => ?_⟩
  · have hkeys : Dict.Distinct (added.map fun e => (Key.text e.1, e.2)) :=
      (hm.sublist (hsublist.trans List.filter_sublist))
    refine List.pairwise_append.2 ⟨hfields.distinct hn, ?_, fun d hd e he => hother e he d hd⟩
    exact (List.pairwise_map.1 hkeys).imp fun hne => by simpa using hne
  · obtain ⟨v, hv, hcheck⟩ := hfields.exists_field hd
    exact ⟨v, List.mem_append_left _ hv, hcheck⟩

/-! ## What a check gives -/

/-- Every element of a list that a check gave comes from an element that was checked. -/
theorem forall_mem_of_map_eq {α β : Type} {f : α → Checked β} {xs : List α} {ys : List β}
    (h : xs.map f = ys.map .ok) {y : β} (hy : y ∈ ys) : ∃ x ∈ xs, f x = .ok y := by
  have hmem : (Except.ok y : Checked β) ∈ xs.map f := by
    rw [h]
    exact List.mem_map_of_mem hy
  exact List.mem_map.1 hmem

/-- Checks that all pass give a list. -/
theorem exists_map_eq_of_forall {α β : Type} {f : α → Checked β} {xs : List α}
    (h : ∀ x ∈ xs, ∃ y, f x = .ok y) : ∃ ys : List β, xs.map f = ys.map .ok := by
  induction xs with
  | nil => exact ⟨[], rfl⟩
  | cons x rest ih =>
    obtain ⟨⟨y, hy⟩, hrest⟩ := List.forall_mem_cons.1 h
    obtain ⟨ys, hys⟩ := ih hrest
    exact ⟨y :: ys, by rw [List.map_cons, List.map_cons, hy, hys]⟩

/-- A list that a check gave is known when each of its elements is. -/
theorem eq_map_of_map_eq {α β : Type} {f : α → Checked β} {g : α → β} {xs : List α} {ys : List β}
    (h : xs.map f = ys.map .ok) (hg : ∀ x ∈ xs, ∀ y, f x = .ok y → y = g x) : ys = xs.map g := by
  induction xs generalizing ys with
  | nil => cases ys with
    | nil => rfl
    | cons => cases h
  | cons x rest ih =>
    cases ys with
    | nil => cases h
    | cons y others =>
      simp only [List.map_cons, List.cons.injEq] at h
      obtain ⟨hhead, htail⟩ := List.forall_mem_cons.1 hg
      rw [List.map_cons, hhead y h.1, ih h.2 htail]

mutual

/-- The instances that are taken as they are when a value is checked have a property, as values of
their type. -/
def Sound (P : FieldType → Value → Prop) : FieldType → Value → Prop
  | .optional inner, v => Sound P inner v
  | .list item, .list items => ∀ x ∈ items, Sound P item x
  | .list item, .tuple items => ∀ x ∈ items, Sound P item x
  | .entries value, .dict members => ∀ e ∈ members, Sound P value e.2
  | .record name declaration extra fields, .record own held =>
    own = signatureOf name declaration fields →
      P (.record name declaration extra fields) (.record own held)
  | .record _ _ _ fields, .dict members => SoundFields P fields members
  | _, _ => True

/-- Each field that is given is given a value of this kind. -/
def SoundFields (P : FieldType → Value → Prop) : List (Field × FieldType) → Dict Value → Prop
  | [], _ => True
  | (f, type) :: rest, members =>
    (∀ v, Dict.get? members (.text f.member) = some v → Sound P type v) ∧ SoundFields P rest members

end

section Sound

variable {P : FieldType → Value → Prop}

theorem soundFields_iff {fields : List (Field × FieldType)} {members : Dict Value} :
    SoundFields P fields members ↔
      ∀ d ∈ fields, ∀ v, members.get? (.text d.1.member) = some v → Sound P d.2 v := by
  induction fields with
  | nil => simp [SoundFields]
  | cons d rest ih => simp only [SoundFields, List.forall_mem_cons, ih]

/-- A dictionary without members has no instances. -/
theorem sound_empty : (type : FieldType) → Sound P type (.dict [])
  | .optional inner => sound_empty inner
  | .record _ _ _ _ => soundFields_iff.2 fun _ _ _ h => by cases h
  | .entries _ => fun _ he => by cases he
  | .text | .int | .float | .bool | .any | .timestamp | .date | .ref | .dict | .list _ | .set _
  | .tuple _ | .union _ | .byName _ _ => trivial

/-- Plain data has no instances. -/
theorem sound_of_isPlain {type : FieldType} (hs : type.IsStorable) {v : Value}
    (hv : v.isPlain = true) : Sound P type v := by
  induction type, hs using IsStorable.induction generalizing v with
  | optional inner hs ih => exact ih hv
  | list item hs ih =>
    cases v with
    | list items => exact fun x hx => ih (Value.isPlain_list.1 hv x hx)
    | tuple items => exact fun x hx => ih (Value.isPlain_tuple.1 hv x hx)
    | _ => trivial
  | entries value hs ih =>
    cases v with
    | dict members => exact fun e he => ih (Value.isPlain_dict.1 hv e he)
    | _ => trivial
  | record name declaration extra fields hs ih =>
    cases v with
    | dict members =>
      refine soundFields_iff.2 fun d hd given hgiven => ih d hd ?_
      obtain ⟨k, hmem, -⟩ := Dict.exists_mem_of_get? hgiven
      exact Value.isPlain_dict.1 hv _ hmem
    | record => simp [Value.isPlain] at hv
    | _ => trivial
  | _ => trivial

mutual

/-- Plain data that a value was taken apart into has no instances. -/
theorem sound_dump : (type : FieldType) → (v : Value) → Sound P type v.dump
  | .optional inner, v => sound_dump inner v
  | .list item, v => by
    cases h : v.dump with
    | list items =>
      intro x hx
      obtain ⟨y, rfl⟩ := Value.exists_dump_of_list h x hx
      exact sound_dump item y
    | tuple items =>
      intro x hx
      obtain ⟨y, rfl⟩ := Value.exists_dump_of_tuple h x hx
      exact sound_dump item y
    | _ => trivial
  | .entries value, v => by
    cases h : v.dump with
    | dict members =>
      intro e he
      obtain ⟨y, hy⟩ := Value.exists_dump_of_dict h e he
      exact hy ▸ sound_dump value y
    | _ => trivial
  | .record _ _ _ fields, v => by
    cases h : v.dump with
    | dict members => exact soundFields_of_dump fields (Value.exists_dump_of_dict h)
    | record own held => exact absurd h (v.dump_ne_record own held)
    | _ => trivial
  | .text, _ | .int, _ | .float, _ | .bool, _ | .any, _ | .timestamp, _ | .date, _ | .ref, _
  | .dict, _ | .set _, _ | .tuple _, _ | .union _, _ | .byName _ _, _ => trivial

theorem soundFields_of_dump : (fields : List (Field × FieldType)) → {members : Dict Value} →
    (∀ e ∈ members, ∃ y : Value, e.2 = y.dump) → SoundFields P fields members
  | [], _, _ => trivial
  | (f, type) :: rest, members, h => by
    refine ⟨fun given hgiven => ?_, soundFields_of_dump rest h⟩
    obtain ⟨k, hmem, -⟩ := Dict.exists_mem_of_get? hgiven
    obtain ⟨y, rfl⟩ := h _ hmem
    exact sound_dump type y

end

end Sound

/-- What a field comes to fits, if what a check of its type gives does. -/
theorem fits_of_checkField {now : Int} {f : Field} {type : FieldType} {members : Dict Value}
    (hdefault : FitsDefault f.limits type f.default)
    (hmembers : ∀ v, members.get? (.text f.member) = some v → Sound (Fits {}) type v)
    (hcheck : ∀ v w, Sound (Fits {}) type v → check now f.limits type v = .ok w →
      Fits f.limits type w)
    {v : Value} (h : checkField now f type members = .ok v) : Fits f.limits type v := by
  unfold checkField at h
  split at h
  · rename_i given hgiven
    exact hcheck _ _ (hmembers _ hgiven) (Checked.under_eq_ok.1 h)
  · split at h
    · cases h
    · rename_i hvalue
      cases h
      rwa [hvalue] at hdefault
    · rename_i hnow
      cases h
      rw [hnow] at hdefault
      exact hdefault now
    · exact hcheck _ _ (sound_empty type) (Checked.under_eq_ok.1 h)

/-- Entries that were checked have texts for keys, and what a check gives for values. -/
theorem forall_mem_of_checkEntry {f : Value → Checked Value} {members : Dict Value}
    {entries : List (Key × Value)} {P : Value → Prop}
    (h : (members.map fun e => checkEntry e.1 (f e.2)) = entries.map .ok)
    (hP : ∀ e ∈ members, ∀ w, f e.2 = .ok w → P w) :
    ∀ e ∈ Dict.ofEntries entries, (∃ s, e.1 = .text s) ∧ P e.2 := by
  have hentry : ∀ e ∈ entries, (∃ s, e.1 = .text s) ∧ P e.2 := by
    intro e he
    obtain ⟨m, hm, hcheck⟩ := forall_mem_of_map_eq h he
    obtain ⟨s, -, hkey, hvalue⟩ := checkEntry_eq_ok.1 hcheck
    exact ⟨⟨s, hkey⟩, hP m hm _ hvalue⟩
  have hvalues := Dict.forall_mem_putAll (d := []) (by simp) fun e he => (hentry e he).2
  intro e he
  refine ⟨?_, hvalues e he⟩
  rcases Dict.mem_keys_putAll (List.mem_map_of_mem he) with hnone | hkey
  · cases hnone
  · obtain ⟨e', he', hkey⟩ := List.mem_map.1 hkey
    rw [← hkey]
    exact (hentry e' he').1

/-- **What a check gives fits the type**, if the instances among what is checked do. -/
theorem fits_of_sound {now : Int} {type : FieldType} (hs : type.IsStorable) {limits : Limits}
    {v w : Value} (hv : Sound (Fits {}) type v) (h : check now limits type v = .ok w) :
    Fits limits type w := by
  induction type, hs using IsStorable.induction generalizing limits v w with
  | text => exact (check_text.1 h).choose_spec.2.2
  | int => exact (check_int.1 h).choose_spec.2.2
  | float => exact (check_float.1 h).choose_spec.2.2
  | bool => exact (check_bool.1 h).choose_spec.2.2
  | timestamp => exact (check_timestamp.1 h).choose_spec.2.2
  | date => exact (check_date.1 h).choose_spec.2.2
  | ref => exact (check_ref.1 h).choose_spec.2.2
  | optional inner hs ih =>
    rw [Sound] at hv
    cases v with
    | null =>
      rw [check] at h
      cases h
      exact Or.inl rfl
    | _ =>
      simp only [check] at h
      exact Or.inr (ih hv h)
  | list item hs ih =>
    obtain ⟨items, values, hitems, hvalues, rfl, hlengths, hbounds⟩ := check_list.1 h
    refine ⟨values, rfl, fun x hx => ?_, hlengths, hbounds⟩
    obtain ⟨y, hy, hcheck⟩ := forall_mem_of_map_eq hvalues hx
    have hsound : Sound (Fits {}) item y := by
      rcases hitems with rfl | rfl
      · exact hv y hy
      · exact hv y hy
    exact ih hsound hcheck
  | entries value hs ih =>
    obtain ⟨members, entries, rfl, hentries, rfl, hlengths, hbounds⟩ := check_entries.1 h
    have hentry := forall_mem_of_checkEntry hentries fun e he w hw => ih (hv e he) hw
    exact ⟨_, rfl, Dict.distinct_ofEntries entries, fun e he => (hentry e he).1,
      fun e he => (hentry e he).2, hlengths, hbounds⟩
  | record name declaration extra fields hs ih =>
    cases v with
    | dict members =>
      obtain ⟨held, hheld, -, rfl, hlimits⟩ := (check_record hs.1).1 h
      refine ⟨held, rfl, fitsFields_iff.2 ((checkFields_eq.1 hheld).imp fun d hd v hfield => ?_),
        hlimits⟩
      exact fits_of_checkField (areStorable_iff.1 hs.2.2 d hd).2.1 (soundFields_iff.1 hv d hd)
        (fun _ _ hsound hcheck => ih d hd hsound hcheck) hfield
    | record own held =>
      by_cases hown : own = signatureOf name declaration fields
      · simp only [check, hown, if_true] at h
        obtain rfl := Limits.hold_eq_ok h
        obtain ⟨held, hheld, hfields, -⟩ := hv hown
        cases hheld
        exact ⟨held, rfl, hfields, h⟩
      · simp [check, Checked.reject, hown] at h
    | _ => simp [check, Checked.reject] at h
  | byName => exact absurd h check_byName_ne_ok

/-- **What a check of plain data gives fits the type.** -/
theorem fits_of_check {now : Int} {type : FieldType} (hs : type.IsStorable) {limits : Limits}
    {v w : Value} (hv : v.isPlain = true) (h : check now limits type v = .ok w) :
    Fits limits type w := fits_of_sound hs (sound_of_isPlain hs hv) h

end FieldType

/-- What an input is taken apart into has only the instances of an input that is none itself. -/
theorem Schema.sound_plain {s : Schema} {P : FieldType → Value → Prop} {v : Value}
    (h : v.isInstance s.signature = false → s.type.Sound P v) : s.type.Sound P (s.plain v) := by
  rw [plain]
  split
  · exact FieldType.sound_dump s.type v
  · rename_i hinstance
    exact h (Bool.eq_false_iff.2 hinstance)

end DocMapper
