import DocMapper.Proofs.Data.RefReading
import DocMapper.Proofs.Schema.Fits
import DocMapper.Proofs.Value.StoredForm
/-!
# How values that fit are stored

The stored form of an instance has each field under its name, in the form of its declared type
(`FieldType.storingOf_signatureOf`), and the stored form of a dictionary has its keys. All values that
fit a type have a stored form (`FieldType.unstorable?_of_fits`), and only null is stored as null
(`FieldType.jsonDump_eq_null_iff`).
-/

namespace DocMapper

namespace Value

theorem jsonDumpList_eq_map (storing : Storing) (items : List Value) :
    jsonDumpList storing items = items.map (jsonDump storing) := by
  induction items with
  | nil => rfl
  | cons v rest ih => rw [jsonDumpList, ih, List.map_cons]

theorem jsonDumpEntries_eq_map (storing : Storing) (entries : List (Key × Value)) :
    jsonDumpEntries storing entries =
      entries.map fun e => (.text e.1.jsonText, jsonDump storing e.2) := by
  induction entries with
  | nil => rfl
  | cons e rest ih => rw [jsonDumpEntries, ih, List.map_cons]

theorem jsonDumpFields_eq_map (schema : Signature) (fields : List (String × Value)) :
    jsonDumpFields schema fields =
      fields.map fun e => (.text e.1, jsonDump (schema.storingOf e.1) e.2) := by
  induction fields with
  | nil => rfl
  | cons e rest ih => rw [jsonDumpFields, ih, List.map_cons]

theorem dumpList_eq_map (items : List Value) : dumpList items = items.map dump := by
  induction items with
  | nil => rfl
  | cons v rest ih => rw [dumpList, ih, List.map_cons]

theorem dumpEntries_eq_map (entries : List (Key × Value)) :
    dumpEntries entries = entries.map fun e => (e.1, e.2.dump) := by
  induction entries with
  | nil => rfl
  | cons e rest ih => rw [dumpEntries, ih, List.map_cons]

theorem dumpFields_eq_map (fields : List (String × Value)) :
    dumpFields fields = fields.map fun e => (.text e.1, e.2.dump) := by
  induction fields with
  | nil => rfl
  | cons e rest ih => rw [dumpFields, ih, List.map_cons]

@[simp] theorem jsonDump_null (storing : Storing) : jsonDump storing .null = .null := by
  simp [jsonDump]

theorem unstorableIn?_eq_none {items : List Value} :
    unstorableIn? items = none ↔ ∀ v ∈ items, v.unstorable? = none := by
  induction items with
  | nil => simp [unstorableIn?]
  | cons v rest ih => simp [unstorableIn?, ih]

theorem unstorableEntry?_eq_none {entries : List (Key × Value)} :
    unstorableEntry? entries = none ↔
      ∀ e ∈ entries, e.1.unstorable? = none ∧ e.2.unstorable? = none := by
  induction entries with
  | nil => simp [ unstorableEntry?]
  | cons e rest ih => simp [ unstorableEntry?, ih, and_assoc]

theorem unstorableField?_eq_none {fields : List (String × Value)} :
    unstorableField? fields = none ↔ ∀ e ∈ fields, e.2.unstorable? = none := by
  induction fields with
  | nil => simp [unstorableField?]
  | cons e rest ih => simp [unstorableField?, ih]

/-- A dictionary of texts keeps its keys when it is stored. -/
theorem jsonDump_dict_of_texts {entries : Dict Value} (hd : entries.Distinct)
    (hk : ∀ e ∈ entries, ∃ s, e.1 = .text s) (storing : Storing) :
    jsonDump storing (.dict entries) =
      .dict (entries.map fun e => (e.1, jsonDump storing.inner e.2)) := by
  have hkeys : (entries.map fun e => (Key.text e.1.jsonText, jsonDump storing.inner e.2)) =
      entries.map fun e => (e.1, jsonDump storing.inner e.2) := by
    refine List.map_congr_left fun e he => ?_
    obtain ⟨s, hs⟩ := hk e he
    rw [hs, Key.jsonText]
  rw [jsonDump, jsonDumpEntries_eq_map, hkeys, Dict.ofEntries_of_distinct (hd.map _)]

/-- Entries under the names of fields. -/
theorem distinct_named {fields : List (String × Value)}
    (hn : fields.Pairwise fun a b => a.1 ≠ b.1) (f : String × Value → Value) :
    Dict.Distinct (fields.map fun e => (Key.text e.1, f e)) :=
  List.pairwise_map.2 (hn.imp fun hne => by simpa using hne)

theorem get?_named {fields : List (String × Value)} (hn : fields.Pairwise fun a b => a.1 ≠ b.1)
    (f : String × Value → Value) {name : String} {v : Value} (h : (name, v) ∈ fields) :
    Dict.get? (fields.map fun e => (Key.text e.1, f e)) (.text name) = some (f (name, v)) :=
  (distinct_named hn f).get?_of_mem (List.mem_map.2 ⟨_, h, rfl⟩)

/-- Under the name of a field there is what comes of the first field of the name. -/
theorem get?_texts (fields : List (String × Value)) (f : String → Value → Value) (name : String) :
    Dict.get? (fields.map fun e => (Key.text e.1, f e.1 e.2)) (.text name) =
      (fields.lookup name).map (f name) := by
  induction fields with
  | nil => rfl
  | cons e rest ih =>
    obtain ⟨own, v⟩ := e
    rw [List.map_cons, Dict.get?, List.lookup_cons, ih]
    by_cases h : own = name
    · simp [h]
    · have hkey : (Key.text own).same (.text name) = false := by simpa using h
      simp [hkey, beq_false_of_ne (Ne.symm h)]

/-- The stored form of an instance has each field under its name. -/
theorem get?_jsonDumpFields (schema : Signature) (held : List (String × Value)) (name : String) :
    Dict.get? (jsonDumpFields schema held) (.text name) =
      (held.lookup name).map (jsonDump (schema.storingOf name)) := by
  rw [jsonDumpFields_eq_map]
  exact get?_texts held (fun name => jsonDump (schema.storingOf name)) name

end Value

namespace FieldType

/-- An instance tells of those declared fields that are not stored by what they are. -/
def storingEntry (d : Field × FieldType) : Option (String × Storing) :=
  match d.2.storing with
  | .plain => none
  | storing => some (d.1.name, storing)

theorem fst_of_storingEntry {d : Field × FieldType} {e : String × Storing}
    (h : storingEntry d = some e) : e.1 = d.1.name := by
  unfold storingEntry at h
  split at h <;> cases h
  rfl

/-- An instance knows how the values of its declared fields are stored. -/
theorem storingOf_signatureOf {name : String} {declaration : Nat}
    {fields : List (Field × FieldType)}
    (hn : fields.Pairwise fun a b => a.1.name ≠ b.1.name) {d : Field × FieldType}
    (hd : d ∈ fields) : (signatureOf name declaration fields).storingOf d.1.name = d.2.storing := by
  have hsignature : (signatureOf name declaration fields).storing =
      fields.filterMap storingEntry := rfl
  rw [Signature.storingOf, hsignature]
  induction fields with
  | nil => cases hd
  | cons d' rest ih =>
    obtain ⟨hhead, hrest⟩ := List.pairwise_cons.1 hn
    rcases List.mem_cons.1 hd with rfl | hmem
    · have hlater : (rest.filterMap storingEntry).lookup d.1.name = none := by
        refine List.lookup_eq_none_iff.2 fun e he => ?_
        obtain ⟨d', hd', hentry⟩ := List.mem_filterMap.1 he
        rw [fst_of_storingEntry hentry]
        simpa using hhead d' hd'
      cases hstoring : d.2.storing <;> simp [storingEntry, hstoring, hlater]
    · have hne : d.1.name ≠ d'.1.name := Ne.symm (hhead d hmem)
      rw [← ih hrest hmem rfl]
      cases hentry : storingEntry d' with
      | none => rw [List.filterMap_cons_none hentry]
      | some e =>
        rw [List.filterMap_cons_some hentry, List.lookup_cons, fst_of_storingEntry hentry,
          beq_false_of_ne hne]

/-- The stored form of a dictionary of texts, as its type has it. -/
theorem jsonDump_entries {value : FieldType} {members : Dict Value} (hd : members.Distinct)
    (hk : ∀ e ∈ members, ∃ s, e.1 = .text s) :
    Value.jsonDump (storing (.entries value)) (.dict members) =
      .dict (members.map fun e => (e.1, e.2.jsonDump value.storing)) :=
  Value.jsonDump_dict_of_texts hd hk _

variable {limits : Limits} {v : Value}

/-- **What fits a type has a stored form.** -/
theorem unstorable?_of_fits {type : FieldType} (hs : type.IsStorable) (h : Fits limits type v) :
    v.unstorable? = none := by
  induction type, hs using IsStorable.induction generalizing limits v with
  | text | int | float | bool | timestamp | date | ref =>
    obtain ⟨_, rfl, -⟩ := h
    rfl
  | optional inner hs ih =>
    rcases h with rfl | h
    · rfl
    · exact ih h
  | list item hs ih =>
    obtain ⟨items, rfl, hitems, -⟩ := h
    rw [Value.unstorable?, Value.unstorableIn?_eq_none]
    exact fun x hx => ih (hitems x hx)
  | entries value hs ih =>
    obtain ⟨entries, rfl, -, htexts, hvalues, -⟩ := h
    rw [Value.unstorable?, Value.unstorableEntry?_eq_none]
    intro e he
    obtain ⟨s, hkey⟩ := htexts e he
    exact ⟨by rw [hkey]; rfl, ih (hvalues e he)⟩
  | record name declaration extra fields hs ih =>
    obtain ⟨held, rfl, hheld, -⟩ := h
    rw [Value.unstorable?, Value.unstorableField?_eq_none]
    intro e he
    obtain ⟨d, hd, -, hfits⟩ := (fitsFields_iff.1 hheld).exists_declaration he
    exact ih d hd hfits
  | byName => exact h.elim

/-- The data of a value that fits is plain once instances are taken apart. -/
theorem isPlain_dump_of_fits {type : FieldType} (hs : type.IsStorable) (h : Fits limits type v) :
    v.dump.isPlain = true := by
  induction type, hs using IsStorable.induction generalizing limits v with
  | text | int | float | bool | timestamp | date =>
    obtain ⟨_, rfl, -⟩ := h
    simp [Value.dump, Value.isPlain]
  | ref =>
    obtain ⟨r, rfl, -⟩ := h
    rw [Value.dump]
    exact r.isSettled_dump.1
  | optional inner hs ih =>
    rcases h with rfl | h
    · simp [Value.dump, Value.isPlain]
    · exact ih h
  | list item hs ih =>
    obtain ⟨items, rfl, hitems, -⟩ := h
    rw [Value.dump, Value.dumpList_eq_map, Value.isPlain_list, List.forall_mem_map]
    exact fun x hx => ih (hitems x hx)
  | entries value hs ih =>
    obtain ⟨entries, rfl, -, -, hvalues, -⟩ := h
    rw [Value.dump, Value.dumpEntries_eq_map, Value.isPlain_dict, List.forall_mem_map]
    exact fun e he => ih (hvalues e he)
  | record name declaration extra fields hs ih =>
    obtain ⟨held, rfl, hheld, -⟩ := h
    rw [Value.dump, Value.dumpFields_eq_map, Value.isPlain_dict, List.forall_mem_map]
    intro e he
    obtain ⟨d, hd, -, hfits⟩ := (fitsFields_iff.1 hheld).exists_declaration he
    exact ih d hd hfits
  | byName => exact h.elim

/-- Only null is stored as null. -/
theorem jsonDump_eq_null_iff {type : FieldType} (hs : type.IsStorable) (h : Fits limits type v) :
    v.jsonDump type.storing = .null ↔ v = .null := by
  induction type, hs using IsStorable.induction generalizing limits v with
  | optional inner hs ih =>
    rcases h with rfl | h
    · simp [Value.jsonDump]
    · exact ih h
  | ref =>
    obtain ⟨r, rfl, -⟩ := h
    simp [Value.jsonDump, r.dump_ne_null]
  | entries value hs ih =>
    obtain ⟨entries, rfl, -⟩ := h
    simp [Value.jsonDump]
  | byName => exact h.elim
  | _ =>
    obtain ⟨_, rfl, -⟩ := h
    simp [Value.jsonDump, storing]

end FieldType

end DocMapper
