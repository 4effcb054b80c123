import DocMapper.Proofs.Data.RefReading
import DocMapper.Proofs.Text.Base64
import DocMapper.Proofs.Value.Likeness
import DocMapper.Value.Decode
/-!
# Tagged forms are decoded to what they stand for

A value has many tagged forms: members come in any order, any part may be wrapped as a set, and a
dictionary may be wrapped as a literal object and has to be when its only key is a tag. `Wire.Stands`
says which forms stand for which values, and `Wire.decode_of_stands` that each is decoded to its value,
as long as the offsets of timestamps are legible; one that is not is read as universal time
(`Wire.sliver_not_decoded`).
-/

namespace DocMapper

open Wire

/-- A text that a timestamp is sent as: the canonical one, which may end in a `Z` for the offset of
universal time. -/
inductive Timestamp.IsSpelled (t : Timestamp) : String → Prop
  | canonical : IsSpelled t t.iso
  | zulu {head : List Char} (h : t.isoChars 'T' = head ++ ['+', '0', '0', ':', '0', '0']) :
    IsSpelled t (String.ofList (head ++ ['Z']))

/-- The value of an optional part of a reference. -/
def Ref.partValue : Option Ref → Value
  | none => .null
  | some r => .ref r

theorem Ref.part_partValue (p : Option Ref) : Part (some (partValue p)) p := by
  cases p with
  | none => exact Or.inr rfl
  | some r => exact ⟨.ref r, rfl, by simp, rfl⟩

/-- Nothing else is like a part of a reference. -/
theorem Ref.eq_partValue {v : Value} {p : Option Ref} (h : v.Like (partValue p)) :
    v = partValue p := by
  cases p <;> cases h <;> rfl

namespace Wire

/-- The names of tags. -/
def tags : List String := ["@ref", "@obj", "@ts", "@date", "@set", "@bytes"]

/-- The only member has the name of a tag. -/
def IsTagged (members : Dict Wire) : Prop := ∃ tag ∈ tags, ∃ w, members = [(.text tag, w)]

/-- A form stands for a value, whose timestamps are such as are allowed. -/
inductive Stands (allowed : Timestamp → Prop) : Wire → Value → Prop
  | null : Stands allowed .null .null
  | bool (b : Bool) : Stands allowed (.bool b) (.bool b)
  | int (n : Int) : Stands allowed (.int n) (.int n)
  | float (x : Binary64) : Stands allowed (.float x) (.float x)
  | text (s : String) : Stands allowed (.text s) (.text s)
  | array {items : List Wire} {values : List Value} (hlength : items.length = values.length)
    (h : ∀ w v, (w, v) ∈ items.zip values → Stands allowed w v) :
    Stands allowed (.array items) (.list values)
  | object {members : Dict Wire} {entries : Dict Value} (htag : ¬ IsTagged members)
    (hdistinct : Dict.Distinct members) (hkeys : Dict.SameKeys members entries)
    (h : ∀ key w v, members.get? key = some w → entries.get? key = some v → Stands allowed w v) :
    Stands allowed (.object members) (.dict entries)
  /-- a dictionary as a literal object -/
  | literal {members : Dict Wire} {entries : Dict Value}
    (hdistinct : Dict.Distinct members) (hkeys : Dict.SameKeys members entries)
    (h : ∀ key w v, members.get? key = some w → entries.get? key = some v → Stands allowed w v) :
    Stands allowed (.single "@obj" (.object members)) (.dict entries)
  | set {w : Wire} {v : Value} (h : Stands allowed w v) : Stands allowed (.single "@set" w) v
  /-- a reference, whose absent parts may be left out or null -/
  | ref {members : Dict Wire} {r : Ref} (hid : members.get? "id" = some (.text r.id))
    (hcollection : ∀ w, members.get? "collection" = some w →
      Stands allowed w (Ref.partValue r.collection))
    (hdatabase : ∀ w, members.get? "database" = some w →
      Stands allowed w (Ref.partValue r.database))
    (hcollection' : members.get? "collection" = none → r.collection = none)
    (hdatabase' : members.get? "database" = none → r.database = none) :
    Stands allowed (.single "@ref" (.object members)) (.ref r)
  | timestamp {t : Timestamp} {text : String} (ht : allowed t) (h : t.IsSpelled text) :
    Stands allowed (.single "@ts" (.text text)) (.timestamp t)
  | date (d : Date) : Stands allowed (.single "@date" (.text d.iso)) (.date d)
  | bytes (b : List UInt8) : Stands allowed
      (.single "@bytes" (.text (String.ofList (Base64.encode Base64.urlSafe b)))) (.bytes b)

/-! ## Leaves -/

theorem expandZulu_ofList {text : List Char} (h : Calendar.IsWritten Calendar.marks text)
    (rest : List Char) : expandZulu (String.ofList (text ++ rest)) =
      String.ofList (text ++ (expandZulu (String.ofList rest)).toList) := by
  have hkeep : text.flatMap (fun c => if c = 'Z' then "+00:00".toList else [c]) = text := by
    induction text with
    | nil => rfl
    | cons c rest ih =>
      obtain ⟨hc, hrest⟩ := List.forall_mem_cons.1 h
      have hne : c ≠ 'Z' := by
        rintro rfl
        rcases hc with hc | hc
        · cases hc
        · exact absurd hc (by decide)
      rw [List.flatMap_cons, if_neg hne, ih hrest, List.singleton_append]
  simp only [expandZulu, String.toList_ofList, List.flatMap_append, hkeep]

/-- Nothing is spelled out in a canonical text. -/
theorem expandZulu_iso (t : Timestamp) : expandZulu t.iso = t.iso := by
  have hexpand := expandZulu_ofList (Calendar.isWritten_timestamp t) []
  rw [List.append_nil] at hexpand
  rw [Timestamp.iso, hexpand]
  simp [expandZulu]

/-- A timestamp is read from each of its texts. -/
theorem ofIso?_expandZulu {t : Timestamp} (ht : t.IsLegible) {text : String} (h : t.IsSpelled text) :
    Timestamp.ofIso? (expandZulu text) = some t.given := by
  have hread := Timestamp.ofIso?_iso ht
  cases h with
  | canonical => rw [expandZulu_iso, hread]
  | zulu hhead =>
    have hwritten := Calendar.isWritten_timestamp t
    rw [hhead] at hwritten
    have hwritten := (List.forall_mem_append.1 hwritten).1
    rw [Timestamp.iso, hhead] at hread
    rw [expandZulu_ofList hwritten]
    exact hread

theorem decode_timestamp {t : Timestamp} (ht : t.IsLegible) {text : String} (h : t.IsSpelled text) :
    decode (.single "@ts" (.text text)) = .ok (.timestamp t.given) := by
  show decodeTimestamp (.text text) = _
  rw [decodeTimestamp, ofIso?_expandZulu ht h]

theorem decode_date (d : Date) : decode (.single "@date" (.text d.iso)) = .ok (.date d) := by
  show decodeDate (.text d.iso) = _
  rw [decodeDate, Date.ofIso?_iso]

theorem decode_bytes (b : List UInt8) :
    decode (.single "@bytes" (.text (String.ofList (Base64.encode Base64.urlSafe b)))) =
      .ok (.bytes b) := by
  have hpair : Base64.IsKnown Base64.urlSafe := Or.inr rfl
  have hplain : (Base64.encode Base64.urlSafe b).all (fun c => c.toNat < 0x80) = true :=
    List.all_eq_true.2 fun c hc => decide_eq_true (Base64.lt_of_mem_encode hpair b c hc)
  show decodeBytes (.text _) = _
  simp only [decodeBytes, String.toList_ofList, hplain, if_true, Base64.decode?_encode hpair]

/-! ## Objects -/

theorem collect_decodeItems (items : List Wire) :
    collect (decodeItems items) = items.mapM decode := by
  induction items with
  | nil => rfl
  | cons w rest ih => rw [decodeItems, collect, ih, List.mapM_cons]

theorem get?_decodeMembers (members : Dict Wire) (key : Key) :
    Dict.get? (decodeMembers members) key = (members.get? key).map fun w => (w, decode w) := by
  induction members with
  | nil => rfl
  | cons member rest ih =>
    obtain ⟨k, w⟩ := member
    by_cases hk : k.same key = true
    · simp [decodeMembers, Dict.get?, hk]
    · simpa [decodeMembers, Dict.get?, hk] using ih

/-- Members that are decoded keep their keys. -/
theorem exists_collectMembers {members : Dict Wire} (h : ∀ e ∈ members, ∃ u, decode e.2 = .ok u) :
    ∃ us, collectMembers (decodeMembers members) = .ok us ∧
      ∀ key, us.get? key = (members.get? key).bind fun w => (decode w).toOption := by
  induction members with
  | nil => exact ⟨[], rfl, fun _ => rfl⟩
  | cons member rest ih =>
    obtain ⟨k, w⟩ := member
    obtain ⟨⟨u, hu⟩, hrest⟩ := List.forall_mem_cons.1 h
    obtain ⟨us, hus, hget⟩ := ih hrest
    refine ⟨(k, u) :: us, ?_, fun key => ?_⟩
    · rw [decodeMembers, collectMembers, hus, hu]
      rfl
    · by_cases hk : k.same key = true
      · simp [Dict.get?, hk, hu, Except.toOption]
      · simpa [Dict.get?, hk] using hget key

/-- Members whose forms are decoded to what is like the entries of a dictionary are decoded to a
dictionary like it. -/
theorem exists_dict_of_members {members : Dict Wire} {entries : Dict Value}
    (hdistinct : Dict.Distinct members) (hkeys : Dict.SameKeys members entries)
    (h : ∀ key w v, members.get? key = some w → entries.get? key = some v →
      ∃ u, decode w = .ok u ∧ u.Like v) :
    ∃ us, collectMembers (decodeMembers members) = .ok us ∧ (Value.dict us).Like (.dict entries) := by
  have hall : ∀ e ∈ members, ∃ u, decode e.2 = .ok u := by
    intro e he
    have hget := hdistinct.get?_of_mem he
    obtain ⟨v, hv⟩ := hkeys.exists_get? hget
    obtain ⟨u, hu, -⟩ := h _ _ _ hget hv
    exact ⟨u, hu⟩
  obtain ⟨us, hus, hget⟩ := exists_collectMembers hall
  refine ⟨us, hus, .dict (fun key => ?_) fun key u v hu hv => ?_⟩
  · rw [← hkeys key, Dict.has, Dict.has, hget]
    cases hw : members.get? key with
    | none => rfl
    | some w =>
      obtain ⟨k, hmem, -⟩ := Dict.exists_mem_of_get? hw
      obtain ⟨u, hu⟩ := hall _ hmem
      simp [hu, Except.toOption]
  · obtain ⟨w, hw, hdecode⟩ := Option.bind_eq_some_iff.1 ((hget key).symm.trans hu)
    obtain ⟨u', hu', hlike⟩ := h key w v hw hv
    rw [Except.toOption_eq_some.1 hdecode] at hu'
    cases hu'
    exact hlike

/-- Without a tag the members stand for themselves. -/
theorem decode_object {members : Dict Wire} (h : ¬ IsTagged members) :
    decode (.object members) = (collectMembers (decodeMembers members)).map Value.dict := by
  rcases members with _ | ⟨⟨key, inner⟩, _ | ⟨member, rest⟩⟩
  · rfl
  · have hkey : ∀ tag ∈ tags, key ≠ .text tag := by
      rintro tag htag rfl
      exact h ⟨tag, htag, inner, rfl⟩
    unfold decode
    split
    case h_7 =>
      rw [decodeMembers, decodeMembers, collectMembers, collectMembers]
      cases decode inner <;> rfl
    all_goals exact absurd rfl (hkey _ (by decide))
  · rfl

/-- What a part of a reference decodes to; an absent one is null. -/
def decodedPart (members : Dict (Wire × Except Fault Value)) (name : String) :
    Except Fault Value :=
  ((members.get? name).map Prod.snd).getD (.ok .null)

/-- The parts of a reference are decoded one after another. -/
theorem decodeRef_eq {members : Dict (Wire × Except Fault Value)} {id : Wire × Except Fault Value}
    (hid : members.get? "id" = some id) : decodeRef members = do
      let collection ← decodedPart members "collection"
      let database ← decodedPart members "database"
      return .ref (← Checked.orReject "Ref" (Ref.read
        (.object [("id", id.1.toValue), ("collection", collection), ("database", database)]))) := by
  unfold decodeRef decodedPart
  rw [hid]
  cases members.get? "collection" <;> cases members.get? "database" <;> rfl

theorem decodedPart_eq {members : Dict Wire} {name : String} {part : Option Ref}
    (hsome : ∀ w, members.get? name = some w → decode w = .ok (Ref.partValue part))
    (hnone : members.get? name = none → part = none) :
    decodedPart (decodeMembers members) name = .ok (Ref.partValue part) := by
  rw [decodedPart, get?_decodeMembers]
  cases hname : members.get? name with
  | none => rw [hnone hname]; rfl
  | some w => exact hsome w hname

/-- The dictionary of all parts is read as the reference. -/
theorem read_partValues (r : Ref) : Ref.read (.object [("id", .text r.id),
    ("collection", Ref.partValue r.collection), ("database", Ref.partValue r.database)]) = .ok r := by
  obtain ⟨id, collection, database⟩ := r
  rw [Value.object]
  refine Ref.read_of_parts ?_ ?_ ?_
  · simp [Dict.ofFields, Dict.ofEntries, Dict.putAll, Dict.put, Dict.get?]
  · simpa [Dict.ofFields, Dict.ofEntries, Dict.putAll, Dict.put, Dict.get?] using
      Ref.part_partValue collection
  · simpa [Dict.ofFields, Dict.ofEntries, Dict.putAll, Dict.put, Dict.get?] using
      Ref.part_partValue database

/-- **Every tagged form of a value is decoded to the value**, if the offsets in it are legible. -/
theorem decode_of_stands {w : Wire} {v : Value} (h : Stands Timestamp.IsLegible w v) :
    ∃ u, decode w = .ok u ∧ u.Like v := by
  induction h with
  | null => exact ⟨.null, rfl, .refl _⟩
  | bool b => exact ⟨.bool b, rfl, .refl _⟩
  | int n => exact ⟨.int n, rfl, .refl _⟩
  | float x => exact ⟨.float x, rfl, .refl _⟩
  | text s => exact ⟨.text s, rfl, .refl _⟩
  | @array items values hlength h ih =>
    have hforms : List.Forall₂ (fun w v => ∃ u, decode w = .ok u ∧ u.Like v) items values :=
      List.forall₂_iff_zip.2 ⟨hlength, fun hmem => ih _ _ hmem⟩
    obtain ⟨us, hus, hlike⟩ := Except.exists_mapM_of_forall₂ (fun _ _ h => h) hforms
    obtain ⟨hlength', hlike⟩ := List.forall₂_iff_zip.1 hlike
    refine ⟨.list us, ?_, .list hlength' fun a b hmem => hlike hmem⟩
    rw [decode, collect_decodeItems, hus]
    rfl
  | object htag hdistinct hkeys h ih =>
    obtain ⟨us, hus, hlike⟩ := exists_dict_of_members hdistinct hkeys ih
    rw [decode_object htag, hus]
    exact ⟨.dict us, rfl, hlike⟩
  | literal hdistinct hkeys h ih =>
    obtain ⟨us, hus, hlike⟩ := exists_dict_of_members hdistinct hkeys ih
    refine ⟨.dict us, ?_, hlike⟩
    show (do return Value.dict (← collectMembers _)) = _
    rw [hus]
    rfl
  | set h ih => exact ih
  | @ref members r hid hcollection hdatabase hcollection' hdatabase' ih ih' =>
    have hpart : decodedPart (decodeMembers members) "collection" =
        .ok (Ref.partValue r.collection) := by
      refine decodedPart_eq (fun w hw => ?_) hcollection'
      obtain ⟨u, hu, hlike⟩ := ih w hw
      rw [hu, Ref.eq_partValue hlike]
    have hpart' : decodedPart (decodeMembers members) "database" =
        .ok (Ref.partValue r.database) := by
      refine decodedPart_eq (fun w hw => ?_) hdatabase'
      obtain ⟨u, hu, hlike⟩ := ih' w hw
      rw [hu, Ref.eq_partValue hlike]
    have hid' : Dict.get? (decodeMembers members) "id" = some (.text r.id, decode (.text r.id)) := by
      rw [get?_decodeMembers, hid]
      rfl
    refine ⟨.ref r, ?_, .refl _⟩
    show decodeRef (decodeMembers members) = _
    rw [decodeRef_eq hid', hpart, hpart']
    show (do return Value.ref (← Checked.orReject "Ref" (Ref.read _))) = _
    rw [Wire.toValue, read_partValues]
    rfl
  | @timestamp t text ht h =>
    exact ⟨.timestamp t.given, decode_timestamp ht h, .timestamp t.iso_given⟩
  | date d => exact ⟨.date d, decode_date d, .refl _⟩
  | bytes b => exact ⟨.bytes b, decode_bytes b, .refl _⟩

theorem isDate_instantSample : Calendar.IsDate 2024 1 2 := by decide

theorem isTime_instantSample : Calendar.IsTime 3 4 5 0 := by decide

/-- A second of universal time. -/
def instantSample : Timestamp :=
  ⟨⟨2024, 1, 2, isDate_instantSample⟩, 3, 4, 5, 0, some .utc, isTime_instantSample⟩

/-- A form with every kind of wrapping. -/
def formSample : Wire := .object [
  ("when", .single "@ts" (.text "2024-01-02T03:04:05Z")),
  ("raw", .single "@obj" (.object [("@ref", .single "@set" (.text "literal"))])),
  ("set", .single "@set" (.array [.single "@ref" (.object [
    ("collection", .single "@set" (.single "@ref" (.object [("id", .text "user")]))),
    ("id", .text "1")])]))]

/-- The value that `formSample` stands for. -/
def formSampleValue : Value := .dict [
  ("when", .timestamp instantSample),
  ("raw", .dict [("@ref", .text "literal")]),
  ("set", .list [.ref ⟨"1", some ⟨"user", none, none⟩, none⟩])]

theorem stands_formSample : Stands Timestamp.IsLegible formSample formSampleValue := by
  have hwhen : instantSample.IsSpelled "2024-01-02T03:04:05Z" :=
    @Timestamp.IsSpelled.zulu instantSample ['2', '0', '2', '4', '-', '0', '1', '-', '0', '2', 'T',
      '0', '3', ':', '0', '4', ':', '0', '5'] (by decide)
  have hlegible : instantSample.IsLegible := by
    rintro _ ⟨⟩
    exact Or.inl rfl
  have huser : Stands Timestamp.IsLegible (.single "@ref" (.object [("id", .text "user")]))
      (.ref ⟨"user", none, none⟩) :=
    .ref rfl (by rintro _ ⟨⟩) (by rintro _ ⟨⟩) (fun _ => rfl) (fun _ => rfl)
  have hone : Stands Timestamp.IsLegible (.single "@ref" (.object [
      ("collection", .single "@set" (.single "@ref" (.object [("id", .text "user")]))),
      ("id", .text "1")])) (.ref ⟨"1", some ⟨"user", none, none⟩, none⟩) := by
    refine .ref rfl ?_ (by rintro _ ⟨⟩) (by rintro ⟨⟩) (fun _ => rfl)
    rintro _ ⟨⟩
    exact .set huser
  refine .object ?_ (by decide) (.of_keys_eq rfl) ?_
  · rintro ⟨tag, htag, w, hmembers⟩
    cases hmembers
  · refine Dict.forall_get?_cons (.timestamp hlegible hwhen) ?_ _
    refine Dict.forall_get?_cons ?_ ?_ _
    · refine .literal (by decide) (.of_keys_eq rfl) ?_
      exact Dict.forall_get?_cons (.set (.text "literal")) (by rintro _ _ _ ⟨⟩) _
    · refine Dict.forall_get?_cons (.set (.array rfl ?_)) (by rintro _ _ _ ⟨⟩) _
      intro w v hmem
      obtain ⟨rfl, rfl⟩ := Prod.mk.inj (List.mem_singleton.1 hmem)
      exact hone

theorem decode_formSample : Stands Timestamp.IsLegible formSample formSampleValue ∧
    ∃ u, decode formSample = .ok u ∧ u.Like formSampleValue :=
  ⟨stands_formSample, decode_of_stands stands_formSample⟩

theorem isDate_sliver : Calendar.IsDate 2024 1 1 := by decide

theorem isTime_sliver : Calendar.IsTime 0 0 0 0 := by decide

theorem isOffset_sliver : (1 : Int).natAbs < microsecondsPerDay := by decide

/-- Midnight, a microsecond ahead of universal time. -/
def sliver : Timestamp :=
  ⟨⟨2024, 1, 1, isDate_sliver⟩, 0, 0, 0, 0, some ⟨1, false, isOffset_sliver⟩, isTime_sliver⟩

/-- **An offset shorter than a second is lost**: the timestamp is decoded to one of universal time. -/
theorem sliver_not_decoded : ¬ ∀ w v, Stands (fun _ => True) w v →
    ∃ u, decode w = .ok u ∧ u.Like v := by
  intro h
  obtain ⟨u, hu, hlike⟩ := h _ _ (.timestamp (t := sliver) trivial .canonical)
  have hread : Timestamp.ofIso? (expandZulu sliver.iso) =
      some { sliver with offset := some .utc } := by
    rw [expandZulu_iso, Timestamp.ofIso?, Timestamp.iso, String.toList_ofList,
      (Calendar.isWritten_timestamp sliver).units_eq]
    decide +kernel
  have hdecode : decode (.single "@ts" (.text sliver.iso)) =
      .ok (.timestamp { sliver with offset := some .utc }) := by
    show decodeTimestamp (.text sliver.iso) = _
    rw [decodeTimestamp, hread]
  rw [hdecode] at hu
  cases hu
  have hiso : ({ sliver with offset := some .utc } : Timestamp).iso = sliver.iso := by
    cases hlike with
    | timestamp h => exact h
  rw [Timestamp.iso_eq_iff] at hiso
  exact absurd hiso (by decide)

end Wire

end DocMapper
