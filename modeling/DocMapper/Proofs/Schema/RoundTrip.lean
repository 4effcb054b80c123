import DocMapper.Proofs.Schema.Checking
import DocMapper.Proofs.Schema.Storing
import DocMapper.Proofs.Value.Rereading
/-!
# Values that fit are read back

A value that fits a type is stored in a form that reads as the type again, and what is read is the
value with its timestamps as they are read back (`FieldType.eq_reread_of_check`). It is the same
value just where all offsets are whole minutes (`FieldType.same_reread_iff`), and then it is within
the same limits (`FieldType.check_jsonDump`). Plain data that is not stored is read back as it was
(`FieldType.check_dump`).
-/

namespace DocMapper

namespace FieldType

variable {now : Int} {limits : Limits} {type : FieldType} {v w : Value}

/-! ## The value that is read back -/

/-- **What is read back is the same exactly for offsets of whole minutes.** -/
theorem same_reread_iff (hs : type.IsStorable) (h : Fits limits type v) :
    v.reread.same v = true ↔ v.IsMinutely := by
  induction type, hs using IsStorable.induction generalizing limits v with
  | text | bool | int | float | date | ref =>
    obtain ⟨_, rfl, -⟩ := h
    simp [Value.reread, Value.same, Value.IsMinutely, Value.sameNumber, Value.sameMagnitude,
      Value.magnitude?, Magnitude.same, Magnitude.ofInt, Magnitude.compare?]
  | timestamp =>
    obtain ⟨t, rfl, -⟩ := h
    simp only [Value.reread, Value.same, Value.IsMinutely, Timestamp.same_reread_iff]
  | optional inner hs ih =>
    rcases h with rfl | h
    · simp [Value.reread, Value.same, Value.IsMinutely]
    · exact ih h
  | list item hs ih =>
    obtain ⟨items, rfl, hitems, -⟩ := h
    simp only [Value.reread, Value.same, Value.IsMinutely, Value.sameList_rereadList_self,
      Value.areMinutely_iff]
    exact forall₂_congr fun x hx => ih (hitems x hx)
  | entries value hs ih =>
    obtain ⟨entries, rfl, hd, -, hvalues, -⟩ := h
    simp only [Value.reread, Value.IsMinutely, Value.same_dict_iff, Value.rereadEntries_eq_map,
      List.length_map, true_and, List.forall_mem_map, Value.areMinutelyEntries_iff]
    refine forall₂_congr fun e he => ?_
    rw [hd.get?_of_mem he]
    simpa using ih (hvalues e he)
  | record name declaration extra fields hs ih =>
    obtain ⟨held, rfl, hheld, -⟩ := h
    have hfields := fitsFields_iff.1 hheld
    simp only [Value.reread, Value.IsMinutely, Value.same_record_iff, Value.rereadFields_eq_map,
      List.length_map, true_and, List.forall_mem_map, Value.areMinutelyFields_iff]
    refine forall₂_congr fun e he => ?_
    obtain ⟨d, hd, -, hfits⟩ := hfields.exists_declaration he
    rw [lookup_of_mem (hfields.distinct hs.2.1) he]
    simpa using ih d hd hfits
  | byName => exact h.elim

/-! ## Reading stored values -/

/-- No member is left over where each one is declared. -/
theorem otherMembers_eq_nil {fields : List (Field × FieldType)} {members : Dict Value} :
    otherMembers fields members = [] ↔ ∀ e ∈ members, ∃ d ∈ fields, e.1 = .text d.1.member := by
  rw [otherMembers, List.filter_eq_nil_iff]
  refine forall₂_congr fun e he => ?_
  obtain ⟨k, v⟩ := e
  cases k with
  | text s => simp [@eq_comm _ s]
  | _ => simp

/-- The value of a field that is given. -/
theorem checkField_of_get? {f : Field} {members : Dict Value} (hf : f.givenAs = none)
    (h : members.get? f.name = some v) :
    checkField now f type members = .ok w ↔ check now f.limits type v = .ok w := by
  rw [checkField, Field.member, hf, Option.getD_none, h]
  exact Checked.under_eq_ok

theorem asTimestamp_zulu (t : Timestamp) : (Value.text t.zulu).asTimestamp = .ok t.reread := by
  rw [Value.asTimestamp, Value.timestampReading?, Calendar.readInputTimestamp_zulu]

theorem asDate_iso (d : Date) : (Value.text d.iso).asDate = .ok d := by
  rw [Value.asDate, Value.dateReading?, Calendar.readInputDate_iso]

section Members

variable {fields : List (Field × FieldType)} {held : List (String × Value)}
  {P : Field → FieldType → Value → Prop} {d : Field × FieldType}

/-- Entries under the names of the declared fields leave no member over. -/
theorem otherMembers_named (hs : AreStorable fields) (h : Pointwise P fields held)
    (f : String × Value → Value) :
    otherMembers fields (held.map fun e => (.text e.1, f e)) = [] := by
  rw [otherMembers_eq_nil, List.forall_mem_map]
  intro e he
  obtain ⟨d, hd, hname, -⟩ := h.exists_declaration he
  refine ⟨d, hd, ?_⟩
  rw [Field.member, (areStorable_iff.1 hs d hd).1, Option.getD_none, hname]

/-- A field is checked as the entry under its name. -/
theorem checkField_named (hs : AreStorable fields) (hheld : held.Pairwise fun a b => a.1 ≠ b.1)
    (hd : d ∈ fields) (hv : (d.1.name, v) ∈ held) (f : String × Value → Value) :
    checkField now d.1 d.2 (held.map fun e => (.text e.1, f e)) = .ok w ↔
      check now d.1.limits d.2 (f (d.1.name, v)) = .ok w :=
  checkField_of_get? (areStorable_iff.1 hs d hd).1 (Value.get?_named hheld f hv)

/-- A stored field is checked as the stored form of its value. -/
theorem checkField_jsonDumpFields {name : String} {declaration : Nat} (hs : AreStorable fields)
    (hn : fields.Pairwise fun a b => a.1.name ≠ b.1.name)
    (hheld : held.Pairwise fun a b => a.1 ≠ b.1) (hd : d ∈ fields) (hv : (d.1.name, v) ∈ held) :
    checkField now d.1 d.2
        (Value.jsonDumpFields (signatureOf name declaration fields) held) = .ok w ↔
      check now d.1.limits d.2 (v.jsonDump d.2.storing) = .ok w := by
  rw [Value.jsonDumpFields_eq_map, checkField_named hs hheld hd hv, storingOf_signatureOf hn hd]

end Members

/-- **What is read of a stored value is the value as it is read back.** -/
theorem eq_reread_of_check (hs : type.IsStorable) (h : Fits limits type v)
    (hcheck : check now limits type (v.jsonDump type.storing) = .ok w) : w = v.reread := by
  induction type, hs using IsStorable.induction generalizing limits v w with
  | text =>
    obtain ⟨s, rfl, -⟩ := h
    obtain ⟨_, hread, rfl, -⟩ := check_text.1 hcheck
    cases hread
    rfl
  | int =>
    obtain ⟨n, rfl, -⟩ := h
    obtain ⟨_, hread, rfl, -⟩ := check_int.1 hcheck
    cases hread
    rfl
  | float =>
    obtain ⟨x, rfl, -⟩ := h
    obtain ⟨_, hread, rfl, -⟩ := check_float.1 hcheck
    simp only [storing, Value.jsonDump, true_or, if_true] at hread
    cases hread
    rfl
  | bool =>
    obtain ⟨b, rfl, -⟩ := h
    obtain ⟨_, hread, rfl, -⟩ := check_bool.1 hcheck
    cases hread
    rfl
  | timestamp =>
    obtain ⟨t, rfl, -⟩ := h
    obtain ⟨_, hread, rfl, -⟩ := check_timestamp.1 hcheck
    cases (asTimestamp_zulu t).symm.trans hread
    simp only [Value.reread]
  | date =>
    obtain ⟨d, rfl, -⟩ := h
    obtain ⟨_, hread, rfl, -⟩ := check_date.1 hcheck
    cases (asDate_iso d).symm.trans hread
    rfl
  | ref =>
    obtain ⟨r, rfl, -⟩ := h
    obtain ⟨_, hread, rfl, -⟩ := check_ref.1 hcheck
    rw [Value.jsonDump, r.read_dump] at hread
    cases hread
    rfl
  | optional inner hs ih =>
    by_cases hv : v = .null
    · rw [hv, Value.jsonDump_null, check_optional_null] at hcheck
      cases hcheck
      rw [hv]
      rfl
    · have hinner : Fits limits inner v := h.resolve_left hv
      rw [storing, check_optional (mt (jsonDump_eq_null_iff hs hinner).1 hv)] at hcheck
      exact ih hinner hcheck
  | list item hs ih =>
    obtain ⟨items, rfl, hitems, -⟩ := h
    rw [storing, Value.jsonDump, Value.jsonDumpList_eq_map] at hcheck
    obtain ⟨given, values, hgiven, hvalues, rfl, -⟩ := check_list.1 hcheck
    simp only [Value.list.injEq, reduceCtorEq, or_false] at hgiven
    rw [← hgiven, List.map_map] at hvalues
    rw [Value.reread, Value.rereadList_eq_map]
    exact congrArg Value.list (eq_map_of_map_eq hvalues fun x hx y hy => ih (hitems x hx) hy)
  | entries value hs ih =>
    obtain ⟨entries, rfl, hd, htexts, hvalues, -⟩ := h
    rw [jsonDump_entries hd htexts] at hcheck
    obtain ⟨members, checked, hmembers, hchecked, rfl, -⟩ := check_entries.1 hcheck
    simp only [Value.dict.injEq] at hmembers
    rw [← hmembers, List.map_map] at hchecked
    have heq := eq_map_of_map_eq (g := fun e => (e.1, e.2.reread)) hchecked fun e he y hy => by
      obtain ⟨s, hs⟩ := htexts e he
      obtain ⟨s', hread, hkey, hvalue⟩ := checkEntry_eq_ok.1 hy
      rw [hs] at hread
      cases hread
      exact Prod.ext (hkey.trans hs.symm) (ih (hvalues e he) hvalue)
    rw [heq, Dict.ofEntries_of_distinct (hd.map _), Value.reread, Value.rereadEntries_eq_map]
  | record name declaration extra fields hs ih =>
    obtain ⟨held, rfl, hheld, -⟩ := h
    rw [Value.jsonDump] at hcheck
    obtain ⟨read, hread, -, rfl, -⟩ := (check_record hs.1).1 hcheck
    have hfields := fitsFields_iff.1 hheld
    have hreread : Pointwise (fun f type w => ∀ w', checkField now f type
        (Value.jsonDumpFields (signatureOf name declaration fields) held) = .ok w' → w' = w) fields
        (held.map fun e => (e.1, e.2.reread)) := by
      refine Pointwise.map (g := fun _ v => v.reread)
        (hfields.and_mem.imp fun d hd v hv w' hw' => ?_)
      rw [checkField_jsonDumpFields hs.2.2 hs.2.1 (hfields.distinct hs.2.1) hd hv.2] at hw'
      exact ih d hd hv.1 hw'
    rw [(checkFields_eq.1 hread).unique hreread fun d _ v w hv hw => hw v hv, Value.reread,
      Value.rereadFields_eq_map]
  | byName => exact h.elim

/-! ## Composed values that are read -/

section Composed

variable {f g : Value → Value}

theorem check_list_map {item : FieldType} {items : List Value}
    (hitems : ∀ x ∈ items, check now {} item (f x) = .ok (g x))
    (hlengths : limits.checkList (.list (items.map g)) ((items.map g).map .ok) = .ok (.list (items.map g)))
    (hbounds : limits.holdBounds (.list (items.map g)) = .ok (.list (items.map g))) :
    check now limits (.list item) (.list (items.map f)) = .ok (.list (items.map g)) := by
  refine check_list.2 ⟨_, _, .inl rfl, ?_, rfl, hlengths, hbounds⟩
  rw [List.map_map, List.map_map]
  exact List.map_congr_left hitems

theorem check_entries_map {value : FieldType} {entries : Dict Value} (hd : entries.Distinct)
    (htexts : ∀ e ∈ entries, ∃ s, e.1 = .text s)
    (hvalues : ∀ e ∈ entries, check now {} value (f e.2) = .ok (g e.2))
    (hlengths : limits.checkDict (entries.map fun e => (e.1, g e.2)) =
      .ok (.dict (entries.map fun e => (e.1, g e.2))))
    (hbounds : limits.holdBounds (.dict (entries.map fun e => (e.1, g e.2))) =
      .ok (.dict (entries.map fun e => (e.1, g e.2)))) :
    check now limits (.entries value) (.dict (entries.map fun e => (e.1, f e.2))) =
      .ok (.dict (entries.map fun e => (e.1, g e.2))) := by
  have hdict := Dict.ofEntries_of_distinct (hd.map fun e => g e.2)
  refine check_entries.2 ⟨_, entries.map fun e => (e.1, g e.2), rfl, ?_, by rw [hdict],
    by rw [hdict]; exact hlengths, hbounds⟩
  rw [List.map_map, List.map_map]
  refine List.map_congr_left fun e he => ?_
  obtain ⟨s, hs⟩ := htexts e he
  exact checkEntry_eq_ok.2 ⟨s, by rw [hs]; rfl, hs, hvalues e he⟩

theorem check_record_map {name : String} {declaration : Nat} {extra : Extra}
    (hextra : extra ≠ .kept) {fields : List (Field × FieldType)} {members : Dict Value}
    {held : List (String × Value)} (hothers : otherMembers fields members = [])
    (hheld : Pointwise (fun f type v => checkField now f type members = .ok (g v)) fields held)
    (hlimits : limits.hold (.record (signatureOf name declaration fields)
      (held.map fun e => (e.1, g e.2))) = .ok (.record (signatureOf name declaration fields)
      (held.map fun e => (e.1, g e.2)))) :
    check now limits (.record name declaration extra fields) (.dict members) =
      .ok (.record (signatureOf name declaration fields) (held.map fun e => (e.1, g e.2))) :=
  (check_record hextra).2 ⟨_, checkFields_eq.2 (hheld.map (g := fun _ => g)), fun _ => hothers, rfl,
    hlimits⟩

end Composed

/-! ## Limits on values that are read back -/

theorem compareOwn_reread {t : Timestamp} (h : t.IsMinutely) (bound : Value) :
    Limits.compareOwn (.timestamp t.reread) bound = Limits.compareOwn (.timestamp t) bound := by
  have hminutely : (Value.timestamp t).IsMinutely := by rwa [Value.IsMinutely]
  have hcompare := Value.compare?_reread hminutely bound
  rw [Value.reread] at hcompare
  cases bound with
  | timestamp u =>
    simp only [Limits.compareOwn, Value.compare?_timestamp_reread h, Timestamp.reading_reread]
  | _ => exact hcompare

/-- **A stored value is read back**, if its offsets are whole minutes. -/
theorem check_jsonDump (hs : type.IsStorable) (h : Fits limits type v) (hv : v.IsMinutely) :
    check now limits type (v.jsonDump type.storing) = .ok v.reread := by
  induction type, hs using IsStorable.induction generalizing limits v with
  | text =>
    obtain ⟨s, rfl, hfits⟩ := h
    exact check_text.2 ⟨s, rfl, rfl, s, rfl, hfits⟩
  | int =>
    obtain ⟨n, rfl, hfits⟩ := h
    exact check_int.2 ⟨n, rfl, rfl, n, rfl, hfits⟩
  | float =>
    obtain ⟨x, rfl, hfits⟩ := h
    refine check_float.2 ⟨x, ?_, rfl, x, rfl, hfits⟩
    simp only [storing, Value.jsonDump, true_or, if_true]
    rfl
  | bool =>
    obtain ⟨b, rfl, hfits⟩ := h
    exact check_bool.2 ⟨b, rfl, rfl, b, rfl, hfits⟩
  | timestamp =>
    obtain ⟨t, rfl, hbounds, hlengths⟩ := h
    rw [Value.IsMinutely] at hv
    rw [Value.reread]
    exact check_timestamp.2 ⟨t.reread, asTimestamp_zulu t, rfl, t.reread, rfl,
      Limits.checkBounds_congr (compareOwn_reread hv) hbounds,
      Limits.holdLengths_congr (by rfl) hlengths⟩
  | date =>
    obtain ⟨d, rfl, hfits⟩ := h
    exact check_date.2 ⟨d, asDate_iso d, rfl, d, rfl, hfits⟩
  | ref =>
    obtain ⟨r, rfl, hfits⟩ := h
    exact check_ref.2 ⟨r, by rw [Value.jsonDump, r.read_dump], rfl, r, rfl, hfits⟩
  | optional inner hs ih =>
    by_cases hnull : v = .null
    · rw [hnull, Value.jsonDump_null, check_optional_null]
      rfl
    · have hinner : Fits limits inner v := h.resolve_left hnull
      rw [storing, check_optional (mt (jsonDump_eq_null_iff hs hinner).1 hnull)]
      exact ih hinner hv
  | list item hs ih =>
    obtain ⟨items, rfl, hitems, hlengths, hbounds⟩ := h
    have hbounds := Limits.holdBounds_congr (Value.compare?_reread hv) hbounds
    rw [Value.reread, Value.rereadList_eq_map] at hbounds ⊢
    rw [storing, Value.jsonDump, Value.jsonDumpList_eq_map]
    rw [Value.IsMinutely, Value.areMinutely_iff] at hv
    exact check_list_map (fun x hx => ih (hitems x hx) (hv x hx))
      (Limits.checkList_congr (List.length_map ..) hlengths) hbounds
  | entries value hs ih =>
    obtain ⟨entries, rfl, hd, htexts, hvalues, hlengths, hbounds⟩ := h
    have hbounds := Limits.holdBounds_congr (Value.compare?_reread hv) hbounds
    rw [Value.reread, Value.rereadEntries_eq_map] at hbounds ⊢
    rw [jsonDump_entries hd htexts]
    rw [Value.IsMinutely, Value.areMinutelyEntries_iff] at hv
    exact check_entries_map hd htexts (fun e he => ih (hvalues e he) (hv e he))
      (Limits.checkDict_congr (List.length_map ..) hlengths) hbounds
  | record name declaration extra fields hs ih =>
    obtain ⟨held, rfl, hheld, hlimits⟩ := h
    have hlimits := Limits.hold_congr (Value.compare?_reread hv)
      (by simp only [Value.reread, Value.length]) hlimits
    rw [Value.reread, Value.rereadFields_eq_map] at hlimits ⊢
    rw [Value.IsMinutely, Value.areMinutelyFields_iff] at hv
    have hfields := fitsFields_iff.1 hheld
    rw [Value.jsonDump]
    refine check_record_map hs.1 ?_ (hfields.and_mem.imp fun d hd v hheld => ?_) hlimits
    · rw [Value.jsonDumpFields_eq_map]
      exact otherMembers_named hs.2.2 hfields _
    rw [checkField_jsonDumpFields hs.2.2 hs.2.1 (hfields.distinct hs.2.1) hd hheld.2]
    exact ih d hd hheld.1 (hv _ hheld.2)
  | byName => exact h.elim

/-! ## Plain data -/

/-- **The plain data of a value is read as the value.** -/
theorem check_dump (hs : type.IsStorable) (h : Fits limits type v) :
    check now limits type v.dump = .ok v := by
  induction type, hs using IsStorable.induction generalizing limits v with
  | text =>
    obtain ⟨s, rfl, hfits⟩ := h
    exact check_text.2 ⟨s, rfl, rfl, s, rfl, hfits⟩
  | int =>
    obtain ⟨n, rfl, hfits⟩ := h
    exact check_int.2 ⟨n, rfl, rfl, n, rfl, hfits⟩
  | float =>
    obtain ⟨x, rfl, hfits⟩ := h
    exact check_float.2 ⟨x, rfl, rfl, x, rfl, hfits⟩
  | bool =>
    obtain ⟨b, rfl, hfits⟩ := h
    exact check_bool.2 ⟨b, rfl, rfl, b, rfl, hfits⟩
  | timestamp =>
    obtain ⟨t, rfl, hfits⟩ := h
    exact check_timestamp.2 ⟨t, rfl, rfl, t, rfl, hfits⟩
  | date =>
    obtain ⟨d, rfl, hfits⟩ := h
    exact check_date.2 ⟨d, rfl, rfl, d, rfl, hfits⟩
  | ref =>
    obtain ⟨r, rfl, hfits⟩ := h
    exact check_ref.2 ⟨r, by rw [Value.dump, r.read_dump], rfl, r, rfl, hfits⟩
  | optional inner hs ih =>
    by_cases hnull : v = .null
    · rw [hnull, Value.dump, check_optional_null]
      all_goals simp
    · have hinner : Fits limits inner v := h.resolve_left hnull
      rw [check_optional (mt Value.dump_eq_null_iff.1 hnull)]
      exact ih hinner
  | list item hs ih =>
    obtain ⟨items, rfl, hitems, hlengths, hbounds⟩ := h
    have hcheck : check now limits (.list item) (.list (items.map Value.dump)) =
        .ok (.list (items.map id)) :=
      check_list_map (fun x hx => ih (hitems x hx)) (by rwa [List.map_id]) (by rwa [List.map_id])
    rwa [List.map_id, ← Value.dumpList_eq_map, ← Value.dump] at hcheck
  | entries value hs ih =>
    obtain ⟨entries, rfl, hd, htexts, hvalues, hlengths, hbounds⟩ := h
    have hid : (entries.map fun e => (e.1, id e.2)) = entries := List.map_id entries
    have hcheck : check now limits (.entries value)
        (.dict (entries.map fun e => (e.1, Value.dump e.2))) =
        .ok (.dict (entries.map fun e => (e.1, id e.2))) :=
      check_entries_map hd htexts (fun e he => ih (hvalues e he)) (by rwa [hid]) (by rwa [hid])
    rwa [hid, ← Value.dumpEntries_eq_map, ← Value.dump] at hcheck
  | record name declaration extra fields hs ih =>
    obtain ⟨held, rfl, hheld, hlimits⟩ := h
    have hid : (held.map fun e => (e.1, id e.2)) = held := List.map_id held
    have hfields := fitsFields_iff.1 hheld
    have hread : Pointwise (fun f type v => checkField now f type
        (held.map fun e => (.text e.1, e.2.dump)) = .ok (id v)) fields held := by
      refine hfields.and_mem.imp fun d hd v hheld => ?_
      rw [checkField_named hs.2.2 (hfields.distinct hs.2.1) hd hheld.2]
      exact ih d hd hheld.1
    have hcheck := check_record_map hs.1 (otherMembers_named hs.2.2 hfields _) hread (by rwa [hid])
    rwa [hid, ← Value.dumpFields_eq_map, ← Value.dump] at hcheck
  | byName => exact h.elim

end FieldType

end DocMapper
