import DocMapper.Proofs.Schema.AnyTime
import DocMapper.Proofs.Schema.Readable
import DocMapper.Proofs.Value.Rereading
/-!
# Data that does not ask for the time

A field may take its default from the clock. What a check makes of a value depends on the time exactly
if such a field is left out somewhere in it. A value is dated (`FieldType.Dated`) if it gives all of
them: at each place where it is read as an instance, and nowhere else.

Checks of dated data come to the same at any two times (`FieldType.eq_of_dated`). Where fields are
given by their own names, checks at different times come to the same only of dated data
(`FieldType.dated_of_same`).
-/

namespace DocMapper

/-! ## Entries by their texts -/

/-- The entries of a dictionary under the texts that their keys spell. Of several for one text the last
counts, and keys that spell none are passed over. -/
def Dict.spelled (members : Dict Value) : Dict Value :=
  Dict.ofEntries (members.filterMap fun e =>
    (Value.ofKey e.1).asText.toOption.map fun s => (Key.text s, e.2))

namespace FieldType

mutual

/-- The value gives every field that a check would otherwise take from the clock. -/
def Dated : FieldType → Value → Prop
  | .optional inner, v => v ≠ .null → Dated inner v
  | .list item, v => ∀ items, v = .list items ∨ v = .tuple items → ∀ x ∈ items, Dated item x
  | .entries value, v => ∀ members, v = .dict members → ∀ e ∈ Dict.spelled members, Dated value e.2
  | .record _ _ _ fields, v => ∀ members, v = .dict members → AreDated fields members
  | _, _ => True

/-- The members give each field that is taken from the clock, and the value of each field is dated. -/
def AreDated : List (Field × FieldType) → Dict Value → Prop
  | [], _ => True
  | (f, type) :: rest, members =>
    (match Dict.get? members (.text f.member) with
      | some v => Dated type v
      | none => f.default ≠ .now ∧ (f.default = .fresh → Dated type (.dict []))) ∧
    AreDated rest members

end

mutual

/-- Every schema in the type declares its fields under distinct names, and reads them from members of
these names. None holds a set, a tuple or a union, which a check passes on as it is. -/
def Unaliased : FieldType → Prop
  | .optional inner => Unaliased inner
  | .list item => Unaliased item
  | .entries value => Unaliased value
  | .record _ _ _ fields => fields.Pairwise (fun a b => a.1.name ≠ b.1.name) ∧
      (∀ d ∈ fields, d.1.member = d.1.name) ∧ AreUnaliased fields
  | .set _ => False
  | .tuple _ => False
  | .union _ => False
  | _ => True

/-- `Unaliased` of the type of each field. -/
def AreUnaliased : List (Field × FieldType) → Prop
  | [] => True
  | (_, type) :: rest => Unaliased type ∧ AreUnaliased rest

end

variable {now later : Int} {limits : Limits} {v w w' : Value}

/-- What two checks make of the entries of a dictionary, side by side. -/
theorem exists_rows {f g : Value → Checked Value} {members entries others : Dict Value}
    (hentries : (members.map fun e => checkEntry e.1 (f e.2)) = entries.map .ok)
    (hothers : (members.map fun e => checkEntry e.1 (g e.2)) = others.map .ok) :
    ∃ rows : Dict (Value × Value × Value), rows.Distinct ∧
      Dict.spelled members = rows.map (fun r => (r.1, r.2.1)) ∧
      Dict.ofEntries entries = rows.map (fun r => (r.1, r.2.2.1)) ∧
      Dict.ofEntries others = rows.map (fun r => (r.1, r.2.2.2)) ∧
      ∀ r ∈ rows, f r.2.1 = .ok r.2.2.1 ∧ g r.2.1 = .ok r.2.2.2 := by
  have hrows : ∃ rows : List (Key × Value × Value × Value),
      (members.filterMap fun e => (Value.ofKey e.1).asText.toOption.map fun s => (Key.text s, e.2)) =
        rows.map (fun r => (r.1, r.2.1)) ∧
      entries = rows.map (fun r => (r.1, r.2.2.1)) ∧ others = rows.map (fun r => (r.1, r.2.2.2)) ∧
      ∀ r ∈ rows, f r.2.1 = .ok r.2.2.1 ∧ g r.2.1 = .ok r.2.2.2 := by
    induction members generalizing entries others with
    | nil =>
      cases entries <;> cases hentries
      cases others <;> cases hothers
      exact ⟨[], rfl, rfl, rfl, by simp⟩
    | cons e rest ih =>
      cases entries with
      | nil => cases hentries
      | cons x entries =>
        cases others with
        | nil => cases hothers
        | cons y others =>
          simp only [List.map_cons, List.cons.injEq] at hentries hothers
          obtain ⟨s, hs, hx, hf⟩ := checkEntry_eq_ok.1 hentries.1
          obtain ⟨s', hs', hy, hg⟩ := checkEntry_eq_ok.1 hothers.1
          cases hs.symm.trans hs'
          obtain ⟨rows, hspelled, rfl, rfl, hall⟩ := ih hentries.2 hothers.2
          refine ⟨(.text s, e.2, x.2, y.2) :: rows, ?_, ?_, ?_,
            List.forall_mem_cons.2 ⟨⟨hf, hg⟩, hall⟩⟩
          · have hread : (Value.ofKey e.1).asText.toOption = some s := by rw [hs]; rfl
            simp [hread, hspelled]
          · rw [List.map_cons, ← hx]
          · rw [List.map_cons, ← hy]
  obtain ⟨rows, hspelled, rfl, rfl, hall⟩ := hrows
  refine ⟨Dict.ofEntries rows, Dict.distinct_ofEntries rows, ?_, Dict.ofEntries_map rows (·.2.1),
    Dict.ofEntries_map rows (·.2.2), ?_⟩
  · rw [Dict.spelled, hspelled]
    exact Dict.ofEntries_map rows (·.1)
  · have hput := Dict.forall_mem_putAll (p := fun r : Value × Value × Value => f r.1 = .ok r.2.1 ∧ g r.1 = .ok r.2.2)
      (d := []) (by simp) hall
    exact hput

theorem areDated_iff {fields : List (Field × FieldType)} {members : Dict Value} :
    AreDated fields members ↔ ∀ d ∈ fields,
      (∀ v, members.get? (.text d.1.member) = some v → Dated d.2 v) ∧
      (members.get? (.text d.1.member) = none →
        d.1.default ≠ .now ∧ (d.1.default = .fresh → Dated d.2 (.dict []))) := by
  induction fields with
  | nil => simp [AreDated]
  | cons d rest ih =>
    rw [AreDated, ih, List.forall_mem_cons]
    refine and_congr_left' ?_
    cases members.get? (.text d.1.member) <;> simp

/-- Every element that checks pass of comes to something. -/
theorem exists_ok_of_map_eq {α β : Type} {f : α → Checked β} {xs : List α} {ys : List β}
    (h : xs.map f = ys.map .ok) {x : α} (hx : x ∈ xs) : ∃ y, f x = .ok y := by
  have hmem : f x ∈ ys.map .ok := h ▸ List.mem_map_of_mem hx
  obtain ⟨y, -, hy⟩ := List.mem_map.1 hmem
  exact ⟨y, hy.symm⟩

/-- The items of a list or tuple are what they are. -/
theorem items_unique {items items' : List Value} (h : v = .list items ∨ v = .tuple items)
    (h' : v = .list items' ∨ v = .tuple items') : items = items' := by
  rcases h with rfl | rfl
  all_goals rcases h' with heq | heq
  all_goals cases heq
  all_goals rfl

/-! ## Dated data -/

/-- A field of dated members comes to the same at any two times. -/
theorem checkField_of_dated {f : Field} {type : FieldType} {members : Dict Value}
    (hgiven : ∀ v, members.get? (.text f.member) = some v → Dated type v)
    (hleft : members.get? (.text f.member) = none →
      f.default ≠ .now ∧ (f.default = .fresh → Dated type (.dict [])))
    (hcheck : ∀ {v w w'}, Dated type v → check now f.limits type v = .ok w →
      check later f.limits type v = .ok w' → w = w')
    (h : checkField now f type members = .ok w) (h' : checkField later f type members = .ok w') :
    w = w' := by
  unfold checkField at h h'
  cases hmember : members.get? (.text f.member) with
  | some v =>
    rw [hmember] at h h'
    exact hcheck (hgiven v hmember) (Checked.under_eq_ok.1 h) (Checked.under_eq_ok.1 h')
  | none =>
    obtain ⟨hnow, hfresh⟩ := hleft hmember
    rw [hmember] at h h'
    cases hdefault : f.default with
    | required =>
      rw [hdefault] at h
      cases h
    | value given =>
      rw [hdefault] at h h'
      exact Except.ok.inj (h.symm.trans h')
    | now => exact absurd hdefault hnow
    | fresh =>
      rw [hdefault] at h h'
      exact hcheck (hfresh hdefault) (Checked.under_eq_ok.1 h) (Checked.under_eq_ok.1 h')

mutual

/-- **Dated data comes to the same at any two times.** -/
theorem eq_of_dated : (type : FieldType) → {limits : Limits} → {v w w' : Value} → Dated type v →
    check now limits type v = .ok w → check later limits type v = .ok w' → w = w'
  | .optional inner, limits, v, w, w', hv, h, h' => by
    cases v with
    | null =>
      rw [check] at h h'
      exact Except.ok.inj (h.symm.trans h')
    | _ =>
      simp only [check] at h h'
      exact eq_of_dated inner (hv nofun) h h'
  | .list item, limits, v, w, w', hv, h, h' => by
    obtain ⟨items, values, hitems, hvalues, rfl, -⟩ := check_list.1 h
    obtain ⟨items', values', hitems', hvalues', rfl, -⟩ := check_list.1 h'
    obtain rfl := items_unique hitems hitems'
    have hsame : ∀ x ∈ items, check now {} item x = check later {} item x := by
      intro x hx
      obtain ⟨y, hy⟩ := exists_ok_of_map_eq hvalues hx
      obtain ⟨y', hy'⟩ := exists_ok_of_map_eq hvalues' hx
      rw [hy, hy', eq_of_dated item (hv items hitems x hx) hy hy']
    rw [List.map_congr_left hsame, hvalues'] at hvalues
    rw [List.map_injective_iff.2 (fun _ _ => Except.ok.inj) hvalues]
  | .entries value, limits, v, w, w', hv, h, h' => by
    obtain ⟨members, entries, rfl, hentries, rfl, -⟩ := check_entries.1 h
    obtain ⟨members', others, hmembers, hothers, rfl, -⟩ := check_entries.1 h'
    cases hmembers
    obtain ⟨rows, -, hspelled, hrows, hrows', hall⟩ := exists_rows hentries hothers
    rw [hrows, hrows']
    refine congrArg Value.dict (List.map_congr_left fun r hr => ?_)
    obtain ⟨hchecked, hchecked'⟩ := hall r hr
    have hmem : (r.1, r.2.1) ∈ Dict.spelled members := by
      rw [hspelled]
      exact List.mem_map_of_mem hr
    rw [eq_of_dated value (hv members rfl _ hmem) hchecked hchecked']
  | .record name declaration extra fields, limits, v, w, w', hv, h, h' => by
    cases v with
    | dict members =>
      obtain ⟨declared, added, hdeclared, hadded, rfl, -⟩ := check_members.1 h
      obtain ⟨declared', added', hdeclared', hadded', rfl, -⟩ := check_members.1 h'
      cases hadded.symm.trans hadded'
      rw [eq_of_areDated fields (hv members rfl) (checkFields_eq.1 hdeclared)
        (checkFields_eq.1 hdeclared')]
    | record own held =>
      simp only [check] at h h'
      exact Except.ok.inj (h.symm.trans h')
    | _ => simp [check, Checked.reject] at h
  | .text, _, _, _, _, _, h, h' | .int, _, _, _, _, _, h, h' | .float, _, _, _, _, _, h, h'
  | .bool, _, _, _, _, _, h, h' | .any, _, _, _, _, _, h, h' | .timestamp, _, _, _, _, _, h, h'
  | .date, _, _, _, _, _, h, h' | .ref, _, _, _, _, _, h, h' | .dict, _, _, _, _, _, h, h'
  | .set _, _, _, _, _, _, h, h' | .tuple _, _, _, _, _, _, h, h'
  | .union _, _, _, _, _, _, h, h' => by
    simp only [check] at h h'
    exact Except.ok.inj (h.symm.trans h')

theorem eq_of_areDated : (fields : List (Field × FieldType)) → {members : Dict Value} →
    {held held' : List (String × Value)} → AreDated fields members →
    Pointwise (fun f type v => checkField now f type members = .ok v) fields held →
    Pointwise (fun f type v => checkField later f type members = .ok v) fields held' → held = held'
  | [], _, _, _, _, h, h' => h.trans h'.symm
  | (f, type) :: rest, members, held, held', hd, h, h' => by
    obtain ⟨v, others, rfl, hv, hothers⟩ := h
    obtain ⟨v', others', rfl, hv', hothers'⟩ := h'
    obtain ⟨hfield, hrest⟩ := List.forall_mem_cons.1 (areDated_iff.1 hd)
    rw [checkField_of_dated hfield.1 hfield.2 (fun hdated => eq_of_dated type hdated) hv hv',
      eq_of_areDated rest (areDated_iff.2 hrest) hothers hothers']

end

/-! ## Data that is not dated -/

/-- The fields of an instance are looked up under the names of the declared fields. -/
theorem checkField_same {name : String} {declaration : Nat} {extra : Extra}
    {fields : List (Field × FieldType)} {members : Dict Value}
    (hn : fields.Pairwise fun a b => a.1.name ≠ b.1.name)
    (hm : ∀ d ∈ fields, d.1.member = d.1.name)
    (h : check now limits (.record name declaration extra fields) (.dict members) = .ok w)
    (h' : check later limits (.record name declaration extra fields) (.dict members) = .ok w')
    (hsame : w.same w' = true) : ∀ d ∈ fields, ∃ v v', checkField now d.1 d.2 members = .ok v ∧
      checkField later d.1 d.2 members = .ok v' ∧ v.same v' = true := by
  obtain ⟨declared, added, hdeclared, hadded, rfl, -⟩ := check_members.1 h
  obtain ⟨declared', added', hdeclared', hadded', rfl, -⟩ := check_members.1 h'
  cases hadded.symm.trans hadded'
  have hfields := checkFields_eq.1 hdeclared
  have hfields' := checkFields_eq.1 hdeclared'
  have hother : ∀ {time} {held : List (String × Value)},
      Pointwise (fun f type v => checkField time f type members = .ok v) fields held →
      ∀ e ∈ added, ∀ d ∈ held, d.1 ≠ e.1 := by
    intro time held hheld e he d hd
    obtain ⟨f, hf, hname, -⟩ := hheld.exists_declaration hd
    exact hname ▸ name_ne_of_checkExtra hm hadded e he f hf
  rw [overlay_eq_append (hother hfields), overlay_eq_append (hother hfields'),
    Value.same_record_iff] at hsame
  intro d hd
  obtain ⟨v, hv, hcheck⟩ := hfields.exists_field hd
  obtain ⟨v', hv', hcheck'⟩ := hfields'.exists_field hd
  obtain ⟨u, hu, hlike⟩ := hsame.2.2 _ (List.mem_append_left _ hv)
  have hlookup : (declared' ++ added).lookup d.1.name = some v' := by
    rw [List.lookup_append, lookup_of_mem (hfields'.distinct hn) hv']
    rfl
  cases hlookup.symm.trans hu
  exact ⟨v, v', hcheck, hcheck', hlike⟩

/-- Integers are the same when they are equal. -/
theorem eq_of_same_int {m n : Int} (h : (Value.int m).same (.int n) = true) : m = n := by
  simpa [Value.same, Value.sameNumber, Value.sameMagnitude, Value.magnitude?, Magnitude.same,
    Magnitude.compare?, Magnitude.ofInt] using h

/-- Items that come to the same, item by item. -/
theorem same_items {f g : Value → Checked Value} {items values others : List Value}
    (h : items.map f = values.map .ok) (h' : items.map g = others.map .ok)
    (hsame : Value.sameList values others = true) :
    ∀ x ∈ items, ∃ y y', f x = .ok y ∧ g x = .ok y' ∧ y.same y' = true := by
  induction items generalizing values others with
  | nil => simp
  | cons x rest ih =>
    cases values with
    | nil => cases h
    | cons y values =>
      cases others with
      | nil => cases h'
      | cons y' others =>
        simp only [List.map_cons, List.cons.injEq] at h h'
        rw [Value.sameList, Bool.and_eq_true] at hsame
        exact List.forall_mem_cons.2 ⟨⟨y, y', h.1, h'.1, hsame.1⟩, ih h.2 h'.2 hsame.2⟩

/-- A field that comes to the same at different times is not taken from the clock. -/
theorem dated_of_checkField (hne : now ≠ later) {f : Field} {type : FieldType}
    {members : Dict Value} (hcheck : ∀ {v w w'}, check now f.limits type v = .ok w →
      check later f.limits type v = .ok w' → w.same w' = true → Dated type v)
    (h : checkField now f type members = .ok w) (h' : checkField later f type members = .ok w')
    (hsame : w.same w' = true) :
    (∀ v, members.get? (.text f.member) = some v → Dated type v) ∧
      (members.get? (.text f.member) = none →
        f.default ≠ .now ∧ (f.default = .fresh → Dated type (.dict []))) := by
  unfold checkField at h h'
  constructor
  · intro v hmember
    rw [hmember] at h h'
    exact hcheck (Checked.under_eq_ok.1 h) (Checked.under_eq_ok.1 h') hsame
  · intro hmember
    rw [hmember] at h h'
    constructor
    · intro hdefault
      rw [hdefault] at h h'
      cases h
      cases h'
      exact hne (eq_of_same_int hsame)
    · intro hdefault
      rw [hdefault] at h h'
      exact hcheck (Checked.under_eq_ok.1 h) (Checked.under_eq_ok.1 h') hsame

mutual

/-- **Checks at different times come to the same only of dated data.** -/
theorem dated_of_same (hne : now ≠ later) : (type : FieldType) → Unaliased type →
    {limits : Limits} → {v w w' : Value} → check now limits type v = .ok w →
    check later limits type v = .ok w' → w.same w' = true → Dated type v
  | .optional inner, hu, limits, v, w, w', h, h', hsame => by
    intro hnull
    cases v with
    | null => exact absurd rfl hnull
    | _ =>
      simp only [check] at h h'
      exact dated_of_same hne inner hu h h' hsame
  | .list item, hu, limits, v, w, w', h, h', hsame => by
    obtain ⟨items, values, hitems, hvalues, rfl, -⟩ := check_list.1 h
    obtain ⟨items', values', hitems', hvalues', rfl, -⟩ := check_list.1 h'
    obtain rfl := items_unique hitems hitems'
    intro others hothers
    obtain rfl := items_unique hitems hothers
    intro x hx
    obtain ⟨y, y', hy, hy', hlike⟩ := same_items hvalues hvalues' hsame x hx
    exact dated_of_same hne item hu hy hy' hlike
  | .entries value, hu, limits, v, w, w', h, h', hsame => by
    obtain ⟨members, entries, rfl, hentries, rfl, -⟩ := check_entries.1 h
    obtain ⟨members', others, hmembers, hothers, rfl, -⟩ := check_entries.1 h'
    cases hmembers
    obtain ⟨rows, hdistinct, hspelled, hrows, hrows', hall⟩ := exists_rows hentries hothers
    rw [hrows, hrows', Value.same_dict_iff] at hsame
    intro given hgiven e he
    cases hgiven
    rw [hspelled] at he
    obtain ⟨r, hr, rfl⟩ := List.mem_map.1 he
    obtain ⟨u, hu', hlike⟩ := hsame.2 _ (List.mem_map_of_mem hr)
    have hget : Dict.get? (rows.map fun r => (r.1, r.2.2.2)) r.1 = some r.2.2.2 :=
      Dict.Distinct.get?_of_mem (hdistinct.map fun r => r.2.2.2) (List.mem_map_of_mem hr)
    cases hget.symm.trans hu'
    exact dated_of_same hne value hu (hall r hr).1 (hall r hr).2 hlike
  | .record name declaration extra fields, hu, limits, v, w, w', h, h', hsame => by
    intro members hmembers
    subst hmembers
    exact areDated_of_same hne fields hu.2.2 (checkField_same hu.1 hu.2.1 h h' hsame)
  | .text, _, _, _, _, _, _, _, _ | .int, _, _, _, _, _, _, _, _ | .float, _, _, _, _, _, _, _, _
  | .bool, _, _, _, _, _, _, _, _ | .any, _, _, _, _, _, _, _, _
  | .timestamp, _, _, _, _, _, _, _, _ | .date, _, _, _, _, _, _, _, _
  | .ref, _, _, _, _, _, _, _, _ | .dict, _, _, _, _, _, _, _, _ | .set _, _, _, _, _, _, _, _, _
  | .tuple _, _, _, _, _, _, _, _, _ | .union _, _, _, _, _, _, _, _, _ => trivial

theorem areDated_of_same (hne : now ≠ later) : (fields : List (Field × FieldType)) →
    AreUnaliased fields → {members : Dict Value} →
    (∀ d ∈ fields, ∃ v v', checkField now d.1 d.2 members = .ok v ∧
      checkField later d.1 d.2 members = .ok v' ∧ v.same v' = true) → AreDated fields members
  | [], _, _, _ => trivial
  | (f, type) :: rest, hu, members, h => by
    obtain ⟨⟨v, v', hv, hv', hsame⟩, hrest⟩ := List.forall_mem_cons.1 h
    have hfield := dated_of_checkField hne (fun hw hw' => dated_of_same hne type hu.1 hw hw')
      hv hv' hsame
    exact areDated_iff.2 (List.forall_mem_cons.2 ⟨hfield,
      areDated_iff.1 (areDated_of_same hne rest hu.2 hrest)⟩)

end

/-! ## Types without the clock -/

mutual

/-- Where no field is taken from the clock, all data is dated. -/
theorem dated_of_clockless : (type : FieldType) → Clockless type → (v : Value) → Dated type v
  | .optional inner, h, v => fun _ => dated_of_clockless inner h v
  | .list item, h, _ => fun _ _ x _ => dated_of_clockless item h x
  | .entries value, h, _ => fun _ _ e _ => dated_of_clockless value h e.2
  | .record _ _ _ fields, h, _ => fun members _ => areDated_of_clockless fields h members
  | .text, _, _ | .int, _, _ | .float, _, _ | .bool, _, _ | .any, _, _ | .timestamp, _, _
  | .date, _, _ | .ref, _, _ | .dict, _, _ | .set _, _, _ | .tuple _, _, _ | .union _, _, _
  | .byName _ _, _, _ => trivial

theorem areDated_of_clockless : (fields : List (Field × FieldType)) → AreClockless fields →
    (members : Dict Value) → AreDated fields members
  | [], _, _ => trivial
  | (_, type) :: rest, ⟨hdefault, htype, hrest⟩, members =>
    areDated_iff.2 (List.forall_mem_cons.2 ⟨⟨fun v _ => dated_of_clockless type htype v,
      fun _ => ⟨hdefault, fun _ => dated_of_clockless type htype _⟩⟩,
      areDated_iff.1 (areDated_of_clockless rest hrest members)⟩)

end

end FieldType

end DocMapper
