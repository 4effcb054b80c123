import DocMapper.Proofs.Schema.Readable
import DocMapper.Proofs.Schema.RoundTrip
/-!
# Values that survive a patch

An update patches the stored form of a new value onto what is stored, and what is left is read as the
type again. `FieldType.Survives` says what has to hold of the new value for this to give it back:
where a dictionary is laid over a dictionary, it has all its keys and no null, and where an instance
is laid over an instance, only those fields are null that are null when they are left out. A null
removes what is stored, so that such a field is filled in by its default.

Main statement: together with offsets of whole minutes this is exact
(`FieldType.comesBack_iff`).
-/

namespace DocMapper

namespace FieldType

mutual

/-- Nothing of the value is lost when its stored form is patched onto what is stored. -/
def Survives : FieldType → Option Value → Value → Prop
  | .optional inner, current, v => v = .null ∨ Survives inner current v
  | .entries value, some (.dict base), .dict new =>
    (∀ e ∈ base, Dict.has new e.1 = true) ∧
      ∀ e ∈ new, e.2 ≠ .null ∧ Survives value (Dict.get? base e.1) e.2
  | .record _ _ _ fields, some (.dict base), .record _ held => SurviveFields fields base held
  | _, _, _ => True

/-- Each field that is null is so by default, and each survives. -/
def SurviveFields : List (Field × FieldType) → Dict Value → List (String × Value) → Prop
  | [], _, _ => True
  | (f, type) :: rest, base, held =>
    (∀ v, (f.name, v) ∈ held →
      (v = .null → f.default = .value .null) ∧ Survives type (Dict.get? base f.name) v) ∧
    SurviveFields rest base held

end

theorem surviveFields_iff {fields : List (Field × FieldType)} {base : Dict Value}
    {held : List (String × Value)} : SurviveFields fields base held ↔
      ∀ d ∈ fields, ∀ v, (d.1.name, v) ∈ held →
        (v = .null → d.1.default = .value .null) ∧
          Survives d.2 (Dict.get? base d.1.name) v := by
  induction fields with
  | nil => simp [SurviveFields]
  | cons d rest ih => simp only [SurviveFields, List.forall_mem_cons, ih]

variable {now : Int} {limits : Limits} {type : FieldType} {current : Option Value} {v w : Value}

/-- Where no dictionary is stored, nothing can be lost. -/
theorem survives_of_not_base (hs : type.IsStorable)
    (h : ∀ base, current ≠ some (.dict base)) : Survives type current v := by
  induction type, hs using IsStorable.induction with
  | optional inner hs ih => exact Or.inr ih
  | entries value hs ih =>
    cases current with
    | none => simp [Survives]
    | some stored => cases stored <;> first | exact absurd rfl (h _) | simp [Survives]
  | record name declaration extra fields hs ih =>
    cases current with
    | none => simp [Survives]
    | some stored => cases stored <;> first | exact absurd rfl (h _) | simp [Survives]
  | _ => trivial

/-- Null survives as a value of a type that it fits. -/
theorem survives_null (h : Fits limits type .null) :
    Survives type current .null := by
  cases type with
  | optional inner => exact Or.inl rfl
  | _ => simp [Fits] at h

/-- A dictionary that is stored is the stored form of a value of the type. -/
def IsStored (type : FieldType) (current : Option Value) : Prop :=
  ∀ base, current = some (.dict base) →
    ∃ limits o, Fits limits type o ∧ o.jsonDump type.storing = .dict base

/-- What is left of the stored form of a value, patched onto what is stored, is read as the value. -/
def ComesBack (now : Int) (limits : Limits) (type : FieldType) (current : Option Value)
    (v : Value) : Prop :=
  ∃ w, check now limits type (Value.patchAt current (v.jsonDump type.storing)) = .ok w ∧
    w.same v = true

/-! ## Values that are not patched -/

/-- **A stored value is read back as the same value exactly for offsets of whole minutes.** -/
theorem check_jsonDump_same_iff (hs : type.IsStorable) (h : Fits limits type v) :
    (∃ w, check now limits type (v.jsonDump type.storing) = .ok w ∧ w.same v = true) ↔
      v.IsMinutely := by
  rw [← same_reread_iff hs h]
  constructor
  · rintro ⟨w, hcheck, hsame⟩
    rwa [eq_reread_of_check hs h hcheck] at hsame
  · intro hsame
    exact ⟨_, check_jsonDump hs h ((same_reread_iff hs h).1 hsame), hsame⟩

/-! ## Dictionaries -/

/-- What a check makes of entries whose keys are texts. -/
theorem checked_entries {value : FieldType} {members checked : Dict Value}
    (htexts : ∀ e ∈ members, ∃ s, e.1 = .text s)
    (h : (members.map fun e => checkEntry e.1 (check now {} value e.2)) = checked.map .ok) :
    checked.keys = members.keys ∧ ∀ key, Option.Rel
      (fun x u => check now {} value x = .ok u) (members.get? key) (checked.get? key) := by
  induction members generalizing checked with
  | nil =>
    cases checked with
    | nil => exact ⟨rfl, fun _ => .none⟩
    | cons => cases h
  | cons e rest ih =>
    cases checked with
    | nil => cases h
    | cons u others =>
      simp only [List.map_cons, List.cons.injEq] at h
      obtain ⟨⟨s, hs⟩, hrest⟩ := List.forall_mem_cons.1 htexts
      obtain ⟨hkeys, hvalues⟩ := ih hrest h.2
      obtain ⟨s', hread, hkey, hvalue⟩ := checkEntry_eq_ok.1 h.1
      obtain ⟨k, x⟩ := e
      obtain ⟨k', u⟩ := u
      cases hs
      cases hread
      cases hkey
      refine ⟨by rw [Dict.keys, Dict.keys, List.map_cons, List.map_cons]; exact congrArg _ hkeys,
        fun key => ?_⟩
      rw [Dict.get?, Dict.get?]
      split
      · exact .some hvalue
      · exact hvalues key

/-- Entries whose keys are texts are checked if each value is. -/
theorem exists_checked_entries {value : FieldType} {members : Dict Value}
    (htexts : ∀ e ∈ members, ∃ s, e.1 = .text s)
    (h : ∀ e ∈ members, ∃ u, check now {} value e.2 = .ok u) :
    ∃ checked : List (Key × Value),
      (members.map fun e => checkEntry e.1 (check now {} value e.2)) = checked.map .ok := by
  refine exists_map_eq_of_forall fun e he => ?_
  obtain ⟨s, hs⟩ := htexts e he
  obtain ⟨u, hu⟩ := h e he
  exact ⟨(e.1, u), checkEntry_eq_ok.2 ⟨s, by rw [hs]; rfl, hs, hu⟩⟩

/-- Options that are related in two steps, of which the first is known. -/
theorem rel_comp_iff {α β γ : Type} {P : α → β → Prop} {Q : β → γ → Prop}
    (hP : ∀ {a b b'}, P a b → P a b' → b = b') {x : Option α} {u : Option β} {c : Option γ}
    (h : Option.Rel P x u) :
    Option.Rel (fun a c => ∃ b, P a b ∧ Q b c) x c ↔ Option.Rel Q u c := by
  cases h with
  | some hx =>
    constructor
    · intro hrel
      cases hrel with
      | some h =>
        obtain ⟨b, hb, hQ⟩ := h
        cases hP hx hb
        exact .some hQ
    · intro hrel
      cases hrel with
      | some hQ => exact .some ⟨_, hx, hQ⟩
  | none =>
    constructor
    all_goals intro hrel; cases hrel; exact .none

/-- A dictionary of texts is read as one that is the same as another exactly if each of its entries
is. -/
theorem check_entries_same_iff {value : FieldType} {members entries : Dict Value}
    (hm : members.Distinct) (htexts : ∀ e ∈ members, ∃ s, e.1 = .text s)
    (hd : entries.Distinct) (hlengths : limits.checkDict entries = .ok (.dict entries))
    (hbounds : limits.holdBounds (.dict entries) = .ok (.dict entries)) :
    (∃ w, check now limits (.entries value) (.dict members) = .ok w ∧
      w.same (.dict entries) = true) ↔
    ∀ key, Option.Rel (fun x c => ∃ u, check now {} value x = .ok u ∧ u.same c = true)
      (members.get? key) (entries.get? key) := by
  -- what the check makes of an entry is known, so it is left to compare it
  have hsame : ∀ checked : Dict Value,
      (members.map fun e => checkEntry e.1 (check now {} value e.2)) = checked.map .ok →
      checked.Distinct ∧ (Value.same (.dict checked) (.dict entries) = true ↔
        ∀ key, Option.Rel (fun x c => ∃ u, check now {} value x = .ok u ∧ u.same c = true)
          (members.get? key) (entries.get? key)) := by
    intro checked hpass
    obtain ⟨hkeys, hvalues⟩ := checked_entries htexts hpass
    have hdistinct : checked.Distinct := hm.of_keys_eq hkeys
    refine ⟨hdistinct, ?_⟩
    rw [Value.same_dict_iff_get? hdistinct hd]
    refine forall_congr' fun key => (rel_comp_iff (fun hu hu' => ?_) (hvalues key)).symm
    exact Except.ok.inj (hu.symm.trans hu')
  constructor
  · rintro ⟨w, hcheck, hlike⟩
    obtain ⟨members, checked, hmembers, hpass, rfl, -⟩ := check_entries.1 hcheck
    cases hmembers
    obtain ⟨hchecked, hiff⟩ := hsame checked hpass
    rw [Dict.ofEntries_of_distinct hchecked] at hlike
    exact hiff.1 hlike
  · intro hrel
    have hvalues : ∀ e ∈ members, ∃ u, check now {} value e.2 = .ok u := by
      intro e he
      have hentry := hrel e.1
      rw [hm.get?_of_mem he] at hentry
      generalize entries.get? e.1 = c at hentry
      cases hentry with
      | some h => exact ⟨_, h.choose_spec.1⟩
    obtain ⟨checked, hpass⟩ := exists_checked_entries htexts hvalues
    obtain ⟨hchecked, hiff⟩ := hsame checked hpass
    have hlike := hiff.2 hrel
    have hlength : checked.length = entries.length := (Value.same_dict_iff.1 hlike).1
    refine ⟨.dict checked, check_entries.2 ⟨members, checked, rfl, hpass, ?_, ?_, ?_⟩, hlike⟩
    · rw [Dict.ofEntries_of_distinct hchecked]
    · rw [Dict.ofEntries_of_distinct hchecked]
      exact Limits.checkDict_congr hlength hlengths
    · exact Limits.holdBounds_congr (fun b => by cases b <;> rfl) hbounds

/-! ## Instances -/

/-- A dictionary is never read as null. -/
theorem check_dict_ne_null (hs : type.IsStorable) {members : Dict Value}
    (h : check now limits type (.dict members) = .ok w) : w ≠ .null := by
  induction type, hs using IsStorable.induction with
  | text => obtain ⟨_, -, rfl, -⟩ := check_text.1 h; simp
  | int => obtain ⟨_, -, rfl, -⟩ := check_int.1 h; simp
  | float => obtain ⟨_, -, rfl, -⟩ := check_float.1 h; simp
  | bool => obtain ⟨_, -, rfl, -⟩ := check_bool.1 h; simp
  | timestamp => obtain ⟨_, -, rfl, -⟩ := check_timestamp.1 h; simp
  | date => obtain ⟨_, -, rfl, -⟩ := check_date.1 h; simp
  | ref => obtain ⟨_, -, rfl, -⟩ := check_ref.1 h; simp
  | optional inner hs ih =>
    rw [check_optional (by simp)] at h
    exact ih h
  | list item hs ih => obtain ⟨_, _, -, -, rfl, -⟩ := check_list.1 h; simp
  | entries value hs ih => obtain ⟨_, _, -, -, rfl, -⟩ := check_entries.1 h; simp
  | record name declaration extra fields hs ih =>
    obtain ⟨_, -, -, rfl, -⟩ := (check_record hs.1).1 h
    simp
  | byName => exact absurd h check_byName_ne_ok

/-- A field that is left out is null exactly if that is its default. -/
theorem checkField_absent_iff (hs : type.IsStorable) {f : Field} (hf : f.givenAs = none)
    {members : Dict Value} (h : members.get? f.name = none) :
    (∃ w, checkField now f type members = .ok w ∧ w.same .null = true) ↔
      f.default = .value .null := by
  rw [checkField, Field.member, hf, Option.getD_none, h]
  simp only [Value.same_null_iff, exists_eq_right]
  cases f.default with
  | required => simp [Checked.under_eq_ok, Checked.reject]
  | value given => simp
  | now => simp
  | fresh =>
    simp only [reduceCtorEq, iff_false]
    exact fun hcheck => check_dict_ne_null hs (Checked.under_eq_ok.1 hcheck) rfl

/-- A dictionary is read as an instance that is the same as another exactly if each declared field is,
and each that is added. -/
theorem check_members_same_iff {name : String} {declaration : Nat} {extra : Extra}
    {fields : List (Field × FieldType)} {members : Dict Value} {g : Value → Value}
    {declared added : List (String × Value)}
    (hadded : checkExtra extra (otherMembers fields members) =
      .ok (added.map fun e => (e.1, g e.2)))
    {P : Field → FieldType → Value → Prop} (hdeclared : Pointwise P fields declared)
    (hn : (declared ++ added).Pairwise fun a b => a.1 ≠ b.1)
    (hlimits : limits.hold (.record (signatureOf name declaration fields) (declared ++ added)) =
      .ok (.record (signatureOf name declaration fields) (declared ++ added))) :
    (∃ w, check now limits (.record name declaration extra fields) (.dict members) = .ok w ∧
      w.same (.record (signatureOf name declaration fields) (declared ++ added)) = true) ↔
    (∀ d ∈ fields, ∀ v, (d.1.name, v) ∈ declared →
      ∃ u, checkField now d.1 d.2 members = .ok u ∧ u.same v = true) ∧
      ∀ e ∈ added, (g e.2).same e.2 = true := by
  have hlookup : ∀ {name v}, (name, v) ∈ declared ++ added →
      (declared ++ added).lookup name = some v := lookup_of_mem hn
  have hapart := (List.pairwise_append.1 hn).2.2
  -- added fields follow whatever the declared ones come to
  have hoverlay : ∀ {Q : Field → FieldType → Value → Prop} {read : List (String × Value)},
      Pointwise Q fields read → overlay read (added.map fun e => (e.1, g e.2)) =
        read ++ added.map fun e => (e.1, g e.2) := by
    intro Q read hread
    refine overlay_eq_append (List.forall_mem_map.2 fun e he r hr => ?_)
    obtain ⟨d, hd, hname, -⟩ := hread.exists_declaration hr
    obtain ⟨v, hv, -⟩ := hdeclared.exists_field hd
    exact hname ▸ hapart _ hv e he
  constructor
  · rintro ⟨w, hcheck, hsame⟩
    obtain ⟨read, others, hread, hothers, rfl, -⟩ := check_members.1 hcheck
    cases hadded.symm.trans hothers
    rw [hoverlay (checkFields_eq.1 hread)] at hsame
    obtain ⟨-, -, hlike⟩ := Value.same_record_iff.1 hsame
    refine ⟨fun d hd v hv => ?_, fun e he => ?_⟩
    · obtain ⟨u, hu, hcheck⟩ := (checkFields_eq.1 hread).exists_field hd
      obtain ⟨y, hy, hsame⟩ := hlike _ (List.mem_append_left _ hu)
      cases (hlookup (List.mem_append_left _ hv)).symm.trans hy
      exact ⟨u, hcheck, hsame⟩
    · obtain ⟨y, hy, hsame⟩ := hlike _ (List.mem_append_right _ (List.mem_map_of_mem he))
      cases (hlookup (List.mem_append_right _ he)).symm.trans hy
      exact hsame
  · rintro ⟨hfields, hothers⟩
    have hread : ∀ d ∈ fields, ∃ u, checkField now d.1 d.2 members = .ok u ∧
        ∃ v, (d.1.name, v) ∈ declared ∧ u.same v = true := by
      intro d hd
      obtain ⟨v, hv, -⟩ := hdeclared.exists_field hd
      obtain ⟨u, hcheck, hsame⟩ := hfields d hd v hv
      exact ⟨u, hcheck, v, hv, hsame⟩
    obtain ⟨read, hread⟩ := Pointwise.of_forall (P := fun f type u =>
      checkField now f type members = .ok u ∧ ∃ v, (f.name, v) ∈ declared ∧ u.same v = true) hread
    have hsame : Value.same
        (.record (signatureOf name declaration fields) (read ++ added.map fun e => (e.1, g e.2)))
        (.record (signatureOf name declaration fields) (declared ++ added)) = true := by
      refine Value.same_record_iff.2 ⟨rfl, ?_, List.forall_mem_append.2 ⟨fun e he => ?_, ?_⟩⟩
      · rw [List.length_append, List.length_append, List.length_map, ← List.length_map Prod.fst,
          hread.names, ← hdeclared.names, List.length_map]
      · obtain ⟨d, -, hname, -, v, hv, hsame⟩ := hread.exists_declaration he
        rw [← hname]
        exact ⟨v, hlookup (List.mem_append_left _ hv), hsame⟩
      · rw [List.forall_mem_map]
        exact fun e he => ⟨e.2, hlookup (List.mem_append_right _ he), hothers e he⟩
    refine ⟨_, check_members.2 ⟨read, _, checkFields_eq.2 (hread.imp fun _ _ _ h => h.1), hadded,
      by rw [hoverlay hread], ?_⟩, hsame⟩
    refine Limits.hold_congr (fun bound => ?_) ?_ hlimits
    · cases bound <;> rfl
    · rfl

/-- A dictionary is read as an instance that is the same as another exactly if each of its fields
is. -/
theorem check_record_same_iff {name : String} {declaration : Nat} {extra : Extra}
    {fields : List (Field × FieldType)}
    (hs : (record name declaration extra fields).IsStorable) {members : Dict Value}
    (hothers : otherMembers fields members = []) {held : List (String × Value)}
    {P : Field → FieldType → Value → Prop} (hheld : Pointwise P fields held)
    (hlimits : limits.hold (.record (signatureOf name declaration fields) held) =
      .ok (.record (signatureOf name declaration fields) held)) :
    (∃ w, check now limits (.record name declaration extra fields) (.dict members) = .ok w ∧
      w.same (.record (signatureOf name declaration fields) held) = true) ↔
    ∀ d ∈ fields, ∀ v, (d.1.name, v) ∈ held →
      ∃ u, checkField now d.1 d.2 members = .ok u ∧ u.same v = true := by
  have hadded : checkExtra extra (otherMembers fields members) =
      .ok (([] : List (String × Value)).map fun e => (e.1, id e.2)) :=
    (checkExtra_eq_ok hs.1).2 ⟨rfl, fun _ => hothers⟩
  have happend : held ++ [] = held := List.append_nil held
  rw [← happend] at hlimits ⊢
  rw [check_members_same_iff hadded hheld (by rw [happend]; exact hheld.distinct hs.2.1) hlimits]
  simp

/-! ## Patched values -/

/-- A field of an instance that was patched onto what is stored. -/
theorem checkField_patched_iff (hs : type.IsStorable) {f : Field} (hf : f.givenAs = none)
    {members base : Dict Value} (hfits : Fits f.limits type v)
    (hget : members.get? f.name =
      Value.patchedAt (base.get? f.name) (some (v.jsonDump type.storing)))
    (ih : ComesBack now f.limits type (base.get? f.name) v ↔
      Survives type (base.get? f.name) v ∧ v.IsMinutely) :
    (∃ w, checkField now f type members = .ok w ∧ w.same v = true) ↔
      ((v = .null → f.default = .value .null) ∧ Survives type (base.get? f.name) v) ∧
        v.IsMinutely := by
  by_cases hnull : v = .null
  · subst hnull
    rw [Value.jsonDump_null] at hget
    rw [checkField_absent_iff hs hf hget]
    simp [survives_null hfits, Value.IsMinutely]
  · rw [Value.patchedAt_of_ne_null (mt (jsonDump_eq_null_iff hs hfits).1 hnull)] at hget
    rw [ComesBack] at ih
    simp only [checkField_of_get? hf hget, ih, hnull, false_imp_iff, true_and]

/-- A stored dictionary has distinct texts for keys, and what is stored under them. -/
theorem IsStored.entries {value : FieldType} {base : Dict Value}
    (h : IsStored (.entries value) (some (.dict base))) : base.Distinct ∧
      (∀ e ∈ base, ∃ s, e.1 = .text s) ∧ ∀ key, IsStored value (base.get? key) := by
  obtain ⟨_, _, ⟨old, rfl, hd, htexts, hvalues, -⟩, hdump⟩ := h base rfl
  rw [jsonDump_entries hd htexts, Value.dict.injEq] at hdump
  subst hdump
  refine ⟨hd.map _, List.forall_mem_map.2 htexts, fun key base hkey => ?_⟩
  rw [Dict.get?_map old (Value.jsonDump value.storing), Option.map_eq_some_iff] at hkey
  obtain ⟨o, ho, hdump⟩ := hkey
  obtain ⟨k, hmem, -⟩ := Dict.exists_mem_of_get? ho
  exact ⟨{}, o, hvalues _ hmem, hdump⟩

/-- A stored instance has the declared fields, and what is stored under their names. -/
theorem IsStored.record {name : String} {declaration : Nat} {extra : Extra}
    {fields : List (Field × FieldType)} (hs : (record name declaration extra fields).IsStorable)
    {base : Dict Value}
    (h : IsStored (.record name declaration extra fields) (some (.dict base))) : base.Distinct ∧
      otherMembers fields base = [] ∧ ∀ d ∈ fields, IsStored d.2 (base.get? d.1.name) := by
  obtain ⟨_, _, ⟨old, rfl, hold, -⟩, hdump⟩ := h base rfl
  have hfields := fitsFields_iff.1 hold
  have hnames := hfields.distinct hs.2.1
  rw [Value.jsonDump, Value.jsonDumpFields_eq_map, Value.dict.injEq] at hdump
  subst hdump
  refine ⟨Value.distinct_named hnames _, otherMembers_named hs.2.2 hfields _,
    fun d hd base hkey => ?_⟩
  obtain ⟨o, ho, hfits⟩ := hfields.exists_field hd
  rw [Value.get?_named hnames _ ho, Option.some.injEq] at hkey
  exact ⟨_, o, hfits, by rw [← hkey, storingOf_signatureOf hs.2.1 hd]⟩

/-- Entries that are patched onto stored ones. -/
theorem forall_patched_iff {value : FieldType} {base new : Dict Value} (hb : base.Distinct)
    (hd : new.Distinct)
    (hnull : ∀ e ∈ new, e.2.jsonDump value.storing = .null ↔ e.2 = .null)
    (ih : ∀ e ∈ new, ComesBack now {} value (base.get? e.1) e.2 ↔
      Survives value (base.get? e.1) e.2 ∧ e.2.IsMinutely) :
    (∀ key, Option.Rel (fun x c => ∃ u, check now {} value x = .ok u ∧ u.same c = true)
      (Dict.get? (Value.patchEntries base
        (new.map fun e => (e.1, e.2.jsonDump value.storing))) key) (new.get? key)) ↔
    Survives (.entries value) (some (.dict base)) (.dict new) ∧ (Value.dict new).IsMinutely := by
  simp only [Value.get?_patchEntries hb (hd.map _), Dict.get?_map new (Value.jsonDump value.storing),
    Survives, Value.IsMinutely, Value.areMinutelyEntries_iff]
  constructor
  · intro hrel
    have hentry : ∀ e ∈ new, e.2 ≠ .null ∧ Survives value (base.get? e.1) e.2 ∧
        e.2.IsMinutely := by
      intro e he
      have hkey := hrel e.1
      rw [hd.get?_of_mem he, Option.map_some] at hkey
      by_cases hv : e.2 = .null
      · rw [(hnull e he).2 hv] at hkey
        cases hkey
      · rw [Value.patchedAt_of_ne_null (mt (hnull e he).1 hv)] at hkey
        cases hkey with
        | some hcheck => exact ⟨hv, (ih e he).1 hcheck⟩
    refine ⟨⟨fun e he => ?_, fun e he => ⟨(hentry e he).1, (hentry e he).2.1⟩⟩,
      fun e he => (hentry e he).2.2⟩
    have hkey := hrel e.1
    rw [hb.get?_of_mem he] at hkey
    cases hfound : new.get? e.1 with
    | some c => rw [Dict.has, hfound]; rfl
    | none =>
      rw [hfound] at hkey
      cases hkey
  · rintro ⟨⟨hcovers, hsurvives⟩, hminutely⟩ key
    cases hfound : new.get? key with
    | none =>
      cases hbase : base.get? key with
      | none => exact .none
      | some b =>
        obtain ⟨k, hmem, hk⟩ := Dict.exists_mem_of_get? hbase
        have hhas := hcovers _ hmem
        rw [Dict.has, Dict.get?_congr new hk, hfound] at hhas
        cases hhas
    | some c =>
      obtain ⟨k, hmem, hk⟩ := Dict.exists_mem_of_get? hfound
      have hentry := (ih _ hmem).2 ⟨(hsurvives _ hmem).2, hminutely _ hmem⟩
      have hne := mt (hnull _ hmem).1 (hsurvives _ hmem).1
      rw [Option.map_some, Value.patchedAt_of_ne_null hne, ← Dict.get?_congr base hk]
      exact .some hentry

/-- A value that is laid over nothing. -/
theorem comesBack_unpatched_iff (hs : type.IsStorable) (h : Fits limits type v)
    (hpatch : Value.patchAt current (v.jsonDump type.storing) = v.jsonDump type.storing)
    (hsurvives : Survives type current v) :
    ComesBack now limits type current v ↔ Survives type current v ∧ v.IsMinutely := by
  rw [ComesBack, hpatch, check_jsonDump_same_iff hs h]
  exact (and_iff_right hsurvives).symm

/-- Where no dictionary is stored, nothing is patched. -/
theorem comesBack_iff_of_not_base (hs : type.IsStorable) (h : Fits limits type v)
    (hbase : ∀ base, current ≠ some (.dict base)) :
    ComesBack now limits type current v ↔ Survives type current v ∧ v.IsMinutely :=
  comesBack_unpatched_iff hs h (Value.patchAt_of_not_base hbase _) (survives_of_not_base hs hbase)

/-- A reference is read as it was patched, whatever reference is stored. -/
theorem comesBack_ref (h : Fits limits .ref v) (hcurrent : IsStored .ref current) :
    ComesBack now limits .ref current v := by
  obtain ⟨r, rfl, hlimits⟩ := h
  have hdumped : Ref.IsDumped current := by
    intro base hbase
    obtain ⟨_, o, ⟨r, rfl, -⟩, hdump⟩ := hcurrent base hbase
    exact ⟨r, by simpa [Value.jsonDump] using hdump⟩
  refine ⟨.ref r, check_ref.2 ⟨r, ?_, rfl, r, rfl, hlimits⟩, by simp [Value.same]⟩
  rw [Value.jsonDump]
  exact r.read_patchAt_dump current hdumped

/-- A dictionary that is patched onto a stored one. -/
theorem comesBack_entries_iff {value : FieldType} (hs : value.IsStorable) {base new : Dict Value}
    (h : Fits limits (.entries value) (.dict new))
    (hcurrent : IsStored (.entries value) (some (.dict base)))
    (ih : ∀ e ∈ new, ComesBack now {} value (base.get? e.1) e.2 ↔
      Survives value (base.get? e.1) e.2 ∧ e.2.IsMinutely) :
    ComesBack now limits (.entries value) (some (.dict base)) (.dict new) ↔
      Survives (.entries value) (some (.dict base)) (.dict new) ∧ (Value.dict new).IsMinutely := by
  obtain ⟨_, hnew, hd, htexts, hvalues, hlengths, hbounds⟩ := h
  cases hnew
  obtain ⟨hdistinct, hbaseTexts, -⟩ := hcurrent.entries
  have hkeys : ∀ e ∈ Value.patchEntries base
      (new.map fun e => (e.1, e.2.jsonDump value.storing)), ∃ s, e.1 = .text s := by
    intro e he
    rcases Value.mem_keys_patchEntries (List.mem_map_of_mem he) with h | h
    · obtain ⟨e', he', hkey⟩ := List.mem_map.1 h
      rw [← hkey]
      exact hbaseTexts e' he'
    · obtain ⟨e', he', hkey⟩ := List.mem_map.1 h
      obtain ⟨c, hc, rfl⟩ := List.mem_map.1 he'
      rw [← hkey]
      exact htexts c hc
  rw [ComesBack, jsonDump_entries hd htexts, Value.patchAt_dict,
    check_entries_same_iff (Value.distinct_patchEntries hdistinct _) hkeys hd hlengths hbounds]
  exact forall_patched_iff hdistinct hd (fun e he => jsonDump_eq_null_iff hs (hvalues e he)) ih

/-- A patch of declared fields brings no other members. -/
theorem otherMembers_patchEntries {fields : List (Field × FieldType)} {base new : Dict Value}
    (hbase : otherMembers fields base = []) (hnew : otherMembers fields new = []) :
    otherMembers fields (Value.patchEntries base new) = [] := by
  rw [otherMembers_eq_nil] at hbase hnew ⊢
  intro e he
  rcases Value.mem_keys_patchEntries (List.mem_map_of_mem he) with h | h
  · obtain ⟨e', he', hkey⟩ := List.mem_map.1 h
    rw [← hkey]
    exact hbase e' he'
  · obtain ⟨e', he', hkey⟩ := List.mem_map.1 h
    rw [← hkey]
    exact hnew e' he'

/-- An instance that is patched onto a stored one. -/
theorem comesBack_record_iff {name : String} {declaration : Nat} {extra : Extra}
    {fields : List (Field × FieldType)}
    (hs : (record name declaration extra fields).IsStorable) {base : Dict Value}
    {held : List (String × Value)}
    (hheld : Pointwise (fun f type v => Fits f.limits type v) fields held)
    (hlimits : limits.hold (.record (signatureOf name declaration fields) held) =
      .ok (.record (signatureOf name declaration fields) held))
    (hcurrent : IsStored (.record name declaration extra fields) (some (.dict base)))
    (ih : ∀ d ∈ fields, ∀ v, (d.1.name, v) ∈ held →
      (ComesBack now d.1.limits d.2 (base.get? d.1.name) v ↔
        Survives d.2 (base.get? d.1.name) v ∧ v.IsMinutely)) :
    ComesBack now limits (.record name declaration extra fields) (some (.dict base))
        (.record (signatureOf name declaration fields) held) ↔
      Survives (.record name declaration extra fields) (some (.dict base))
          (.record (signatureOf name declaration fields) held) ∧
        (Value.record (signatureOf name declaration fields) held).IsMinutely := by
  obtain ⟨hdistinct, hdeclared, -⟩ := hcurrent.record hs
  have hnames := hheld.distinct hs.2.1
  have hothers := otherMembers_patchEntries hdeclared (otherMembers_named hs.2.2 hheld fun e =>
    e.2.jsonDump ((signatureOf name declaration fields).storingOf e.1))
  rw [← Value.jsonDumpFields_eq_map] at hothers
  have hfield : ∀ d ∈ fields, ∀ v, (d.1.name, v) ∈ held →
      ((∃ u, checkField now d.1 d.2 (Value.patchEntries base
        (Value.jsonDumpFields (signatureOf name declaration fields) held)) = .ok u ∧
          u.same v = true) ↔
      ((v = .null → d.1.default = .value .null) ∧ Survives d.2 (Dict.get? base d.1.name) v) ∧
        v.IsMinutely) := by
    intro d hd v hv
    obtain ⟨hgivenAs, -, hstorable⟩ := areStorable_iff.1 hs.2.2 d hd
    have hfits := hheld.of_mem hs.2.1 hd hv
    refine checkField_patched_iff hstorable hgivenAs hfits ?_ (ih d hd v hv)
    rw [Value.jsonDumpFields_eq_map, Value.get?_patchEntries hdistinct
      (Value.distinct_named hnames _), Value.get?_named hnames _ hv, storingOf_signatureOf hs.2.1 hd]
  rw [ComesBack, Value.jsonDump, Value.patchAt_dict, check_record_same_iff hs hothers hheld hlimits,
    Survives, surviveFields_iff, Value.IsMinutely, Value.areMinutelyFields_iff]
  constructor
  · intro hall
    refine ⟨fun d hd v hv => ((hfield d hd v hv).1 (hall d hd v hv)).1, fun e he => ?_⟩
    obtain ⟨d, hd, hname, -⟩ := hheld.exists_declaration he
    have hv : (d.1.name, e.2) ∈ held := by rwa [hname]
    exact ((hfield d hd e.2 hv).1 (hall d hd e.2 hv)).2
  · rintro ⟨hsurvive, hminutely⟩ d hd v hv
    exact (hfield d hd v hv).2 ⟨hsurvive d hd v hv, hminutely _ hv⟩

/-- **A value that is patched onto what is stored comes back exactly if it survives** and its offsets
are whole minutes. -/
theorem comesBack_iff (hs : type.IsStorable) (h : Fits limits type v)
    (hcurrent : IsStored type current) :
    ComesBack now limits type current v ↔ Survives type current v ∧ v.IsMinutely := by
  induction type, hs using IsStorable.induction generalizing limits v current with
  | text | int | float | bool | timestamp | date =>
    refine comesBack_unpatched_iff (by trivial) h ?_ (by trivial)
    obtain ⟨_, rfl, -⟩ := h
    refine Value.patchAt_of_not_dict ?_
    simp [Value.jsonDump, storing]
  | ref =>
    have hback : ComesBack now limits .ref current v := comesBack_ref h hcurrent
    obtain ⟨_, rfl, -⟩ := h
    simpa [Survives, Value.IsMinutely] using hback
  | optional inner hs ih =>
    by_cases hnull : v = .null
    · subst hnull
      rw [ComesBack, Value.jsonDump_null, Value.patchAt_of_not_dict (by simp)]
      simp [Survives, Value.IsMinutely, Value.same_null_iff]
    · have hinner : Fits limits inner v := h.resolve_left hnull
      have hstored : IsStored inner current := by
        intro base hbase
        obtain ⟨limits, o, ho, hdump⟩ := hcurrent base hbase
        rcases ho with rfl | ho
        · simp at hdump
        · exact ⟨limits, o, ho, hdump⟩
      have hdump := mt (jsonDump_eq_null_iff hs hinner).1 hnull
      rw [Survives, or_iff_right hnull, ← ih hinner hstored, ComesBack, ComesBack, storing,
        check_optional (Value.patchAt_ne_null hdump)]
  | list item hs ih =>
    have hstorable : IsStorable (.list item) := hs
    refine comesBack_unpatched_iff hstorable h ?_ (by trivial)
    obtain ⟨_, rfl, -⟩ := h
    refine Value.patchAt_of_not_dict ?_
    simp [Value.jsonDump]
  | entries value hs ih =>
    have hstorable : IsStorable (.entries value) := hs
    by_cases hbase : ∀ base, current ≠ some (.dict base)
    · exact comesBack_iff_of_not_base hstorable h hbase
    obtain ⟨base, rfl⟩ : ∃ base, current = some (.dict base) := by simpa using hbase
    obtain ⟨new, rfl, -, -, hvalues, -⟩ := id h
    obtain ⟨-, -, hstored⟩ := hcurrent.entries
    exact comesBack_entries_iff hs h hcurrent fun e he => ih (hvalues e he) (hstored e.1)
  | record name declaration extra fields hs ih =>
    by_cases hbase : ∀ base, current ≠ some (.dict base)
    · exact comesBack_iff_of_not_base hs h hbase
    obtain ⟨base, rfl⟩ : ∃ base, current = some (.dict base) := by simpa using hbase
    obtain ⟨held, rfl, hheld, hlimits⟩ := h
    have hfields := fitsFields_iff.1 hheld
    obtain ⟨-, -, hstored⟩ := hcurrent.record hs
    exact comesBack_record_iff hs hfields hlimits hcurrent fun d hd v hv =>
      ih d hd (hfields.of_mem hs.2.1 hd hv) (hstored d hd)
  | byName => exact h.elim

end FieldType

end DocMapper
