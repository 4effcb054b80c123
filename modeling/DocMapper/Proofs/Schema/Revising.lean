import DocMapper.Proofs.Schema.Elements
import DocMapper.Proofs.Schema.RoundTrip
/-!
# Values with changes laid over them

Changes are laid over the plain data of a value, and what comes of it is read as the type again.
`FieldType.RevisedTo` says what this makes of the value: a field of an instance that the changes do
not name is as it was, at every depth that they reach, and a field that they give anything but a
dictionary is what a check makes of that (`FieldType.revisedTo_of_check`).

When it is refused, every flaw is in a member that the changes name
(`FieldType.inMember_of_flaw`), since the other fields are read as they were.
-/

namespace DocMapper

/-! ## References -/

namespace Ref

mutual

/-- The parts of a reference that changes do not name are as they were. -/
def Keeps : Ref → Dict Value → Ref → Prop
  | ⟨id, collection, database⟩, changes, new =>
    (changes.get? "id" = none → new.id = id) ∧
      PartKeeps collection (changes.get? "collection") new.collection ∧
      PartKeeps database (changes.get? "database") new.database

/-- An optional part of a reference keeps what is not changed in it. -/
def PartKeeps : Option Ref → Option Value → Option Ref → Prop
  | none, given, new => given = none → new = none
  | some old, given, new => (given = none → new = some old) ∧
      ∀ changes, given = some (.dict changes) → ∃ r, new = some r ∧ old.Keeps changes r

end

/-- A part that was read stands under its name. -/
theorem part_of_readMembers {name : String} {entries : Dict Value} {p : Option Ref}
    (h : part name (readMembers entries) = .ok p) : Part (entries.get? name) p := by
  rw [part, get?_readMembers] at h
  cases hfound : entries.get? (.text name) with
  | none =>
    rw [hfound] at h
    cases h
    exact Or.inl rfl
  | some v =>
    rw [hfound] at h
    by_cases hv : v = .null
    · subst hv
      cases h
      exact Or.inr rfl
    · have hread : (Checked.under name (read v)).map some = .ok p := by
        cases v with
        | null => exact absurd rfl hv
        | _ => exact h
      obtain ⟨r, hr, rfl⟩ := Except.map_eq_ok.1 hread
      exact ⟨v, rfl, hv, Checked.under_eq_ok.1 hr⟩

/-- The parts of a reference that was read from a dictionary. -/
theorem parts_of_read {entries : Dict Value} {r : Ref} (h : read (.dict entries) = .ok r) :
    (∀ v, entries.get? "id" = some v → v.asText = .ok r.id) ∧
      Part (entries.get? "collection") r.collection ∧
      Part (entries.get? "database") r.database := by
  rw [read, assemble] at h
  obtain ⟨⟨id, collection, database⟩, hparts, rfl⟩ := Except.map_eq_ok.1 h
  obtain ⟨hid, hothers⟩ := Checked.both_eq_ok.1 hparts
  obtain ⟨hcollection, hdatabase⟩ := Checked.both_eq_ok.1 hothers
  refine ⟨fun v hv => ?_, part_of_readMembers hcollection, part_of_readMembers hdatabase⟩
  rw [idPart, get?_readMembers, hv] at hid
  exact Checked.under_eq_ok.1 hid

/-- A part that stands as it was left is the part itself. -/
theorem eq_of_part_dumpPart {old new : Option Ref} (h : Part (some (dumpPart old)) new) :
    new = old := by
  cases new with
  | none =>
    cases old with
    | none => rfl
    | some r => exact absurd (h.resolve_left nofun) (by simpa [dumpPart] using r.dump_ne_null)
  | some r =>
    obtain ⟨v, hv, hne, hread⟩ := h
    cases hv
    cases old with
    | none => exact absurd rfl hne
    | some r' => exact congrArg some (Except.ok.inj (hread.symm.trans r'.read_dump))

/-- A part with changes laid over it keeps what they do not name, if the reference in it does. -/
theorem partKeeps_of_part {old new : Option Ref} {given : Option Value}
    (hkeeps : ∀ r changes new, old = some r → given = some (.dict changes) →
      read (Value.mergeAt (some r.dump) (.dict changes)) = .ok new → r.Keeps changes new)
    (h : Part (Value.mergedAt (some (dumpPart old)) given) new) : PartKeeps old given new := by
  have hleft : given = none → new = old := fun hnone => eq_of_part_dumpPart (by rwa [hnone] at h)
  cases old with
  | none => exact hleft
  | some r =>
    refine ⟨hleft, fun changes hgiven => ?_⟩
    obtain ⟨members, hmembers⟩ := Value.exists_mergeAt_dict (some r.dump) changes
    rw [hgiven, Value.mergedAt, dumpPart] at h
    cases new with
    | none => simp [Part, hmembers] at h
    | some r' =>
      obtain ⟨v, hv, -, hread⟩ := h
      cases hv
      exact ⟨r', rfl, hkeeps r changes r' rfl hgiven hread⟩

/-- **What is read of a reference with changes laid over it** keeps the parts that they do not
name. -/
theorem keeps_of_read : (old : Ref) → {changes : Dict Value} → (Value.dict changes).WellKeyed →
    {new : Ref} → read (Value.mergeAt (some old.dump) (.dict changes)) = .ok new →
    old.Keeps changes new
  | ⟨id, collection, database⟩, changes, hkeyed, new, h => by
    obtain ⟨hd, hvalues⟩ := Value.wellKeyed_dict.1 hkeyed
    have hpart : ∀ {key : Key} {given}, changes.get? key = some given → given.WellKeyed :=
      fun hgiven => hvalues _ (Dict.exists_mem_of_get? hgiven).choose_spec.1
    rw [dump_eq, Value.mergeAt] at h
    obtain ⟨hid, hcollection, hdatabase⟩ := parts_of_read h
    rw [Value.get?_mergeEntries hd] at hid hcollection hdatabase
    refine ⟨fun hnone => ?_, partKeeps_of_part ?_ hcollection, partKeeps_of_part ?_ hdatabase⟩
    · cases hid (.text id) (by rw [hnone]; rfl)
      rfl
    · intro r given new hr hgiven hread
      exact keeps_of_read r (hpart hgiven) hread
    · intro r given new hr hgiven hread
      exact keeps_of_read r (hpart hgiven) hread
termination_by r => sizeOf r
decreasing_by all_goals subst_vars; simp only [mk.sizeOf_spec, Option.some.sizeOf_spec]; omega

end Ref

/-! ## Values of a type -/

/-- The flaw is in a member of a dictionary. -/
def Flaw.InMember (flaw : Flaw) (members : Dict Value) : Prop :=
  ∃ e ∈ members, flaw.location.head? = some e.1.place

namespace FieldType

mutual

/-- What becomes of a value over which a dictionary is laid: an instance is revised field by field,
a reference keeps the parts that are not named, and everything else is read anew. -/
def RevisedTo (now : Int) (limits : Limits) : FieldType → Value → Dict Value → Value → Prop
  | .optional inner, old, changes, new => RevisedTo now limits inner old changes new
  | .record name declaration _ fields, .record _ held, changes, new => ∃ revised,
      new = .record (signatureOf name declaration fields) revised ∧
      RevisedFields now fields held changes revised
  | .ref, .ref r, changes, new => ∃ r', new = .ref r' ∧ r.Keeps changes r'
  | type, old, changes, new =>
    check now limits type (Value.mergeAt (some old.dump) (.dict changes)) = .ok new

/-- A field that is not named is as it was. One that is given a dictionary is revised, and one that
is given anything else is what a check makes of that. -/
def RevisedFields (now : Int) : List (Field × FieldType) → List (String × Value) → Dict Value →
    List (String × Value) → Prop
  | [], _, _, revised => revised = []
  | (f, type) :: rest, held, changes, revised => ∃ new others, revised = (f.name, new) :: others ∧
      (∀ old, (f.name, old) ∈ held →
        (changes.get? f.name = none → new = old) ∧
        (∀ given, changes.get? f.name = some given → (∀ inner, given ≠ .dict inner) →
          check now f.limits type given = .ok new) ∧
        ∀ inner, changes.get? f.name = some (.dict inner) →
          RevisedTo now f.limits type old inner new) ∧
      RevisedFields now rest held changes others

end

variable {now : Int} {limits : Limits} {type : FieldType} {old given new : Value}

theorem revisedFields_iff {fields : List (Field × FieldType)} {held revised : List (String × Value)}
    {changes : Dict Value} : RevisedFields now fields held changes revised ↔
      Pointwise (fun f type new => ∀ old, (f.name, old) ∈ held →
        (changes.get? f.name = none → new = old) ∧
        (∀ given, changes.get? f.name = some given → (∀ inner, given ≠ .dict inner) →
          check now f.limits type given = .ok new) ∧
        ∀ inner, changes.get? f.name = some (.dict inner) →
          RevisedTo now f.limits type old inner new) fields revised := by
  induction fields generalizing revised with
  | nil => rfl
  | cons d rest ih => simp only [RevisedFields, Pointwise, ih]

/-- A value that is no instance is read anew, unless it is a reference. -/
theorem revisedTo_null (hs : type.IsStorable) {changes : Dict Value}
    (h : check now limits type (.dict changes) = .ok new) :
    RevisedTo now limits type .null changes new := by
  induction type, hs using IsStorable.induction with
  | optional inner hs ih =>
    rw [check_optional (by simp)] at h
    exact ih h
  | _ => exact h

section Merged

variable {fields : List (Field × FieldType)} {held : List (String × Value)} {changes : Dict Value}
  {d : Field × FieldType}

/-- What is left under the name of a field when changes are laid over the fields of an instance. -/
theorem get?_merged (hn : held.Pairwise fun a b => a.1 ≠ b.1) (hd : changes.Distinct)
    {name : String} (hv : (name, old) ∈ held) :
    Dict.get? (Value.mergeEntries (Value.dumpFields held) changes) (.text name) =
      Value.mergedAt (some old.dump) (changes.get? name) := by
  rw [Value.get?_mergeEntries hd, Value.get?_dumpFields, lookup_of_mem hn hv, Option.map_some]

/-- A field of an instance over which changes are laid: it is read as it was if they do not name it,
and otherwise what they give it is laid over it and checked. -/
theorem checkField_merged (hs : AreStorable fields)
    (hn : fields.Pairwise fun a b => a.1.name ≠ b.1.name) (hheld : FitsFields fields held)
    (hd : changes.Distinct) (hmem : d ∈ fields) (hv : (d.1.name, old) ∈ held) :
    checkField now d.1 d.2 (Value.mergeEntries (Value.dumpFields held) changes) =
      match changes.get? d.1.name with
      | none => .ok old
      | some given => Checked.under d.1.name
          (check now d.1.limits d.2 (Value.mergeAt (some old.dump) given)) := by
  obtain ⟨hgiven, -, hstorable⟩ := areStorable_iff.1 hs d hmem
  have hfits := fitsFields_iff.1 hheld
  rw [checkField, Field.member, hgiven, Option.getD_none, get?_merged (hfits.distinct hn) hd hv]
  cases changes.get? (.text d.1.name) with
  | none => exact Checked.under_eq_ok.2 (check_dump hstorable (hfits.of_mem hn hmem hv))
  | some given => rfl

end Merged

/-- **What is read of a value with a dictionary laid over it** is as it was wherever the dictionary
does not reach. -/
theorem revisedTo_of_check (hs : type.IsStorable) {changes : Dict Value}
    (hkeyed : (Value.dict changes).WellKeyed) (hold : Fits limits type old)
    (h : check now limits type (Value.mergeAt (some old.dump) (.dict changes)) = .ok new) :
    RevisedTo now limits type old changes new := by
  induction type, hs using IsStorable.induction generalizing limits old changes new with
  | optional inner hs ih =>
    obtain ⟨members, hmembers⟩ := Value.exists_mergeAt_dict (some old.dump) changes
    rw [check_optional (by simp [hmembers])] at h
    rcases hold with rfl | hold
    · exact revisedTo_null hs h
    · exact ih hkeyed hold h
  | ref =>
    obtain ⟨r, rfl, -⟩ := hold
    obtain ⟨r', hread, rfl, -⟩ := check_ref.1 h
    exact ⟨r', rfl, r.keeps_of_read hkeyed hread⟩
  | record name declaration extra fields hs ih =>
    obtain ⟨held, rfl, hheld, -⟩ := hold
    obtain ⟨hd, hvalues⟩ := Value.wellKeyed_dict.1 hkeyed
    rw [Value.dump, Value.mergeAt_dict] at h
    obtain ⟨revised, hrevised, -, rfl, -⟩ := (check_record hs.1).1 h
    refine ⟨revised, rfl, revisedFields_iff.2 ((checkFields_eq.1 hrevised).imp ?_)⟩
    intro d hmem new hfield old hv
    rw [checkField_merged hs.2.2 hs.2.1 hheld hd hmem hv] at hfield
    refine ⟨fun hnone => ?_, fun given hgiven hother => ?_, fun inner hinner => ?_⟩
    · rw [hnone] at hfield
      exact (Except.ok.inj hfield).symm
    · rw [hgiven, Checked.under_eq_ok, Value.mergeAt_of_not_dict hother] at hfield
      exact hfield
    · rw [hinner, Checked.under_eq_ok] at hfield
      obtain ⟨k, hentry, -⟩ := Dict.exists_mem_of_get? hinner
      exact ih d hmem (hvalues _ hentry) ((fitsFields_iff.1 hheld).of_mem hs.2.1 hmem hv) hfield
  | _ => exact h

/-! ## Changes that are refused -/

/-- With changes laid over an instance, what one of them gives its field cannot be held against the
limits of the field. -/
def Unheld (now : Int) (fields : List (Field × FieldType)) (held : List (String × Value))
    (changes : Dict Value) : Prop :=
  ∃ d ∈ fields, ∃ old given, (d.1.name, old) ∈ held ∧ changes.get? d.1.name = some given ∧
    check now d.1.limits d.2 (Value.mergeAt (some old.dump) given) = .error .incomparable

/-- A dictionary is read as an instance by its fields and its other members. -/
theorem check_dict_eq {name : String} {declaration : Nat} {extra : Extra}
    {fields : List (Field × FieldType)} {members : Dict Value} :
    check now {} (.record name declaration extra fields) (.dict members) =
      (Checked.both (Checked.all (checkFields now fields members))
        (checkExtra extra (otherMembers fields members))).map fun p =>
          .record (signatureOf name declaration fields) (overlay p.1 p.2) := by
  rw [check]
  cases Checked.both (Checked.all (checkFields now fields members))
    (checkExtra extra (otherMembers fields members)) <;> rfl

theorem mem_checkFields {fields : List (Field × FieldType)} {members : Dict Value}
    {c : Checked (String × Value)} : c ∈ checkFields now fields members ↔
      ∃ d ∈ fields, c = (checkField now d.1 d.2 members).map fun v => (d.1.name, v) := by
  induction fields with
  | nil => simp [checkFields]
  | cons d rest ih =>
    obtain ⟨f, type⟩ := d
    rw [checkFields_cons, List.mem_cons, ih]
    simp only [List.mem_cons, or_and_right, exists_or, exists_eq_left]

/-- An undeclared member is refused where it is, if at all. -/
theorem flaws_of_checkExtra (extra : Extra) (others : Dict Value) :
    checkExtra extra others ≠ .error .incomparable ∧
      ∀ flaw ∈ (checkExtra extra others).flaws, flaw.InMember others := by
  have hall : ∀ f : Key × Value → Checked (String × Value),
      (∀ e, (∃ a, f e = .ok a) ∨ ∃ reason given, f e = .under e.1.place (.reject reason given)) →
      Checked.all (others.map f) ≠ .error .incomparable ∧
        ∀ flaw ∈ (Checked.all (others.map f)).flaws, flaw.InMember others := by
    intro f hf
    refine ⟨fun h => ?_, fun flaw hflaw => ?_⟩
    · obtain ⟨e, -, he⟩ := List.mem_map.1 (Checked.all_eq_incomparable.1 h)
      rcases hf e with ⟨a, ha⟩ | ⟨reason, given, ha⟩ <;> rw [ha] at he <;> cases he
    · obtain ⟨c, hc, hflaw⟩ := Checked.exists_mem_of_flaws_all hflaw
      obtain ⟨e, he, rfl⟩ := List.mem_map.1 hc
      rcases hf e with ⟨a, ha⟩ | ⟨reason, given, ha⟩
      · rw [ha] at hflaw
        cases hflaw
      · rw [ha] at hflaw
        cases List.mem_singleton.1 hflaw
        exact ⟨e, he, rfl⟩
  cases extra with
  | ignored => exact ⟨nofun, nofun⟩
  | kept =>
    refine hall _ fun ⟨k, v⟩ => ?_
    cases k with
    | text s => exact Or.inl ⟨_, rfl⟩
    | _ => exact Or.inr ⟨_, _, rfl⟩
  | refused =>
    refine hall _ fun ⟨k, v⟩ => Or.inr ?_
    cases k <;> exact ⟨_, _, rfl⟩

section Refused

variable {name : String} {declaration : Nat} {extra : Extra} {fields : List (Field × FieldType)}
  {held : List (String × Value)} {changes : Dict Value}

/-- **An instance with changes laid over it cannot be checked** exactly if what one of the changes
gives its field cannot be held against the limits of the field. -/
theorem check_merged_eq_incomparable (hs : (record name declaration extra fields).IsStorable)
    (hheld : FitsFields fields held) (hd : changes.Distinct) :
    check now {} (.record name declaration extra fields)
      (.dict (Value.mergeEntries (Value.dumpFields held) changes)) = .error .incomparable ↔
        Unheld now fields held changes := by
  have hmap : ∀ {α β : Type} (c : Checked α) (f : α → β),
      c.map f = .error .incomparable ↔ c = .error .incomparable := by
    rintro α β (_ | _) f <;> simp [Except.map]
  rw [check_dict_eq, hmap, Checked.both_eq_incomparable, or_iff_left (flaws_of_checkExtra ..).1,
    Checked.all_eq_incomparable, mem_checkFields]
  refine exists_congr fun d => and_congr_right fun hmem => ?_
  obtain ⟨old, hv, -⟩ := (fitsFields_iff.1 hheld).exists_field hmem
  rw [eq_comm, hmap, checkField_merged hs.2.2 hs.2.1 hheld hd hmem hv]
  constructor
  · intro h
    cases hgiven : changes.get? (.text d.1.name) with
    | none =>
      rw [hgiven] at h
      cases h
    | some given =>
      rw [hgiven] at h
      exact ⟨old, given, hv, rfl, Checked.under_eq_incomparable.1 h⟩
  · rintro ⟨old', given, hv', hgiven, h⟩
    have hdistinct := (fitsFields_iff.1 hheld).distinct hs.2.1
    cases (lookup_of_mem hdistinct hv').symm.trans (lookup_of_mem hdistinct hv)
    rw [hgiven]
    exact Checked.under_eq_incomparable.2 h

/-- **Every flaw of an instance with changes laid over it** is in a member that they name. -/
theorem inMember_of_flaw (hs : (record name declaration extra fields).IsStorable)
    (hheld : FitsFields fields held) (hd : changes.Distinct) :
    ∀ flaw ∈ (check now {} (.record name declaration extra fields)
      (.dict (Value.mergeEntries (Value.dumpFields held) changes))).flaws, flaw.InMember changes := by
  intro flaw hflaw
  rw [check_dict_eq, Checked.flaws_map] at hflaw
  rcases Checked.mem_flaws_of_both hflaw with hflaw | hflaw
  · obtain ⟨c, hc, hflaw⟩ := Checked.exists_mem_of_flaws_all hflaw
    obtain ⟨d, hmem, rfl⟩ := mem_checkFields.1 hc
    obtain ⟨old, hv, -⟩ := (fitsFields_iff.1 hheld).exists_field hmem
    rw [Checked.flaws_map, checkField_merged hs.2.2 hs.2.1 hheld hd hmem hv] at hflaw
    cases hgiven : changes.get? (.text d.1.name) with
    | none =>
      rw [hgiven] at hflaw
      cases hflaw
    | some given =>
      rw [hgiven, Checked.flaws_under] at hflaw
      obtain ⟨inner, -, rfl⟩ := List.mem_map.1 hflaw
      obtain ⟨k, hentry, hkey⟩ := Dict.exists_mem_of_get? hgiven
      exact ⟨_, hentry, by rw [Key.eq_text_of_same hkey]; rfl⟩
  · obtain ⟨e, he, hplace⟩ := (flaws_of_checkExtra ..).2 flaw hflaw
    -- a member that no field takes is not one of the instance's own
    obtain ⟨k, v⟩ := e
    obtain ⟨hmerged, hother⟩ := List.mem_filter.1 he
    rcases Value.mem_keys_mergeEntries (List.mem_map_of_mem hmerged) with hown | hgiven
    · rw [Value.dumpFields_eq_map, Dict.keys, List.map_map] at hown
      obtain ⟨own, hheldOwn, rfl⟩ := List.mem_map.1 hown
      obtain ⟨d, hmem, hname, -⟩ := (fitsFields_iff.1 hheld).exists_declaration hheldOwn
      have hmember : d.1.member = own.1 := by
        rw [Field.member, (areStorable_iff.1 hs.2.2 d hmem).1, Option.getD_none, hname]
      exact absurd hmember (of_decide_eq_true (List.all_eq_true.1 hother d hmem))
    · obtain ⟨e', he', hkey⟩ := List.mem_map.1 hgiven
      exact ⟨e', he', by rw [hplace, hkey]⟩

end Refused

end FieldType

end DocMapper
