import DocMapper.Proofs.Schema.Paths
import DocMapper.Proofs.Schema.Readable
/-!
# Paths through instances

An instance that a check leaves has every declared field under its name, and so have the instances
that it holds where a model is declared (`FieldType.IsWhole`, `FieldType.isWhole_of_check`). Only
two things can stand there instead: what a default gives, as defaults are not checked, and an
undeclared member that is called like the field, where the field is given by another name
(`Field.IsHidable`).

Main statement: keys of which each but the last names a field of a model, with an instance for its
default if it has one (`FieldType.Nests`), lead to something in the stored form of a whole instance
if the check of paths accepts them, unless undeclared members have taken the place of instances on
the way (`FieldType.Unhidden`, `FieldType.exists_at?_jsonDump`).
-/

namespace DocMapper

/-! ## Places in dictionaries -/

namespace Value

/-- What keys lead to through dictionaries, if each of them is there. -/
def at? : Value → List String → Option Value
  | v, [] => some v
  | .dict entries, key :: rest => (Dict.get? entries (.text key)).bind fun v => v.at? rest
  | _, _ :: _ => none

/-- The first key leads to a field in the stored form of an instance. -/
theorem at?_jsonDump_record (storing : Storing) (own : Signature) (held : List (String × Value))
    (key : String) (rest : List String) : (jsonDump storing (.record own held)).at? (key :: rest) =
      (held.lookup key).bind fun v => (v.jsonDump (own.storingOf key)).at? rest := by
  rw [jsonDump, at?, get?_jsonDumpFields, Option.bind_map]
  rfl

end Value

/-! ## Whole instances -/

/-- An undeclared member can take the place of the field: the schema keeps such members, and the
field is given by another name than its own. -/
def Field.IsHidable (f : Field) (extra : Extra) : Prop := extra = .kept ∧ f.member ≠ f.name

namespace FieldType

mutual

/-- Where the type is a model, the value is an instance of it with every declared field, and so are
the instances in its fields, apart from what defaults give and what undeclared members hide. -/
def IsWhole : FieldType → Value → Prop
  | .record name declaration extra fields, v => ∃ declared added,
      v = .record (signatureOf name declaration fields) (declared ++ added) ∧
      AreWhole extra fields declared
  | .ref, v => ∃ r, v = .ref r
  | .byName _ _, _ => False
  | _, _ => True

/-- Each declared field is there, in the order of the declaration. -/
def AreWhole (extra : Extra) : List (Field × FieldType) → List (String × Value) → Prop
  | [], held => held = []
  | (f, type) :: rest, held => ∃ v others, held = (f.name, v) :: others ∧
      (IsWhole type v ∨ Gives f.default v ∨ f.IsHidable extra) ∧ AreWhole extra rest others

end

theorem areWhole_iff {extra : Extra} {fields : List (Field × FieldType)}
    {held : List (String × Value)} : AreWhole extra fields held ↔
      Pointwise (fun f type v => IsWhole type v ∨ Gives f.default v ∨ f.IsHidable extra)
        fields held := by
  induction fields generalizing held with
  | nil => rfl
  | cons d rest ih => simp only [AreWhole, Pointwise, ih]

section Checking

variable {now : Int} {limits : Limits} {name key : String} {declaration : Nat} {extra : Extra}
  {fields : List (Field × FieldType)} {members : Dict Value} {v w : Value}

/-- An undeclared member does not take the place of a field that is not to be hidden. -/
theorem lookup_of_checkExtra {added : List (String × Value)}
    (h : checkExtra extra (otherMembers fields members) = .ok added) {d : Field × FieldType}
    (hd : d ∈ fields) (hshown : ¬ d.1.IsHidable extra) : added.lookup d.1.name = none := by
  by_cases hkept : extra = .kept
  · have hmember : d.1.member = d.1.name := by
      by_contra hne
      exact hshown ⟨hkept, hne⟩
    refine List.lookup_eq_none_iff.2 fun e he => ?_
    have hne := member_ne_of_checkExtra h e he d hd
    rw [hmember] at hne
    simpa using hne
  · obtain ⟨rfl, -⟩ := (checkExtra_eq_ok hkept).1 h
    rfl

/-- An instance that is read from a dictionary is whole if its fields are. -/
theorem isWhole_of_check_members
    (hfield : ∀ d ∈ fields, ∀ v, checkField now d.1 d.2 members = .ok v →
      IsWhole d.2 v ∨ Gives d.1.default v)
    (h : check now limits (.record name declaration extra fields) (.dict members) = .ok w) :
    IsWhole (.record name declaration extra fields) w := by
  obtain ⟨declared, added, hdeclared, hadded, rfl, -⟩ := check_members.1 h
  have hfields : Pointwise (fun f type v => IsWhole type v ∨ Gives f.default v) fields declared :=
    (checkFields_eq.1 hdeclared).imp hfield
  refine ⟨_, _, rfl, areWhole_iff.2 (Pointwise.map (g := fun name v => (added.lookup name).getD v)
    (hfields.imp fun d hd v hv => ?_))⟩
  by_cases hhidable : d.1.IsHidable extra
  · exact .inr (.inr hhidable)
  · rw [lookup_of_checkExtra hadded hd hhidable, Option.getD_none]
    exact hv.imp_right .inl

mutual

/-- **What a check leaves is whole**, as long as the instances among what is checked are. -/
theorem isWhole_of_check : (type : FieldType) → {limits : Limits} → {v w : Value} →
    Sound IsWhole type v → check now limits type v = .ok w → IsWhole type w
  | .record name declaration extra fields, _, v, _, hv, h => by
    cases v with
    | dict members =>
      exact isWhole_of_check_members (fun d hd v => of_checkField (soundFields_iff.1 hv d hd)
        fun _ _ hsound hcheck => isWhole_of_checks fields d hd hsound hcheck) h
    | record own held =>
      by_cases hown : own = signatureOf name declaration fields
      · simp only [check, hown, if_true] at h
        obtain rfl := Limits.hold_eq_ok h
        subst hown
        exact hv rfl
      · simp [check, Checked.reject, hown] at h
    | _ => simp [check, Checked.reject] at h
  | .ref, _, _, _, _, h => by
    obtain ⟨r, -, rfl, -⟩ := check_ref.1 h
    exact ⟨r, rfl⟩
  | .text, _, _, _, _, _ | .int, _, _, _, _, _ | .float, _, _, _, _, _ | .bool, _, _, _, _, _
  | .any, _, _, _, _, _ | .timestamp, _, _, _, _, _ | .date, _, _, _, _, _ | .dict, _, _, _, _, _
  | .optional _, _, _, _, _, _ | .list _, _, _, _, _, _ | .entries _, _, _, _, _, _
  | .set _, _, _, _, _, _ | .tuple _, _, _, _, _, _ | .union _, _, _, _, _, _ => trivial

theorem isWhole_of_checks : (fields : List (Field × FieldType)) → ∀ d ∈ fields, {v w : Value} →
    Sound IsWhole d.2 v → check now d.1.limits d.2 v = .ok w → IsWhole d.2 w
  | [], _, hd, _, _, _, _ => by cases hd
  | (f, type) :: rest, d, hd, v, w, hv, h => by
    rcases List.mem_cons.1 hd with rfl | hmem
    · exact isWhole_of_check type hv h
    · exact isWhole_of_checks rest d hmem hv h

end

/-- A whole instance has each declared field. -/
theorem IsWhole.exists_lookup (h : IsWhole (.record name declaration extra fields) v)
    {d : Field × FieldType} (hfind : fields.find? (fun e => e.1.name = key) = some d) :
    ∃ held u, v = .record (signatureOf name declaration fields) held ∧ held.lookup key = some u ∧
      (IsWhole d.2 u ∨ Gives d.1.default u ∨ d.1.IsHidable extra) := by
  obtain ⟨declared, added, rfl, hfields⟩ := h
  obtain ⟨u, hlookup, hu⟩ := (areWhole_iff.1 hfields).exists_lookup hfind
  exact ⟨_, u, rfl, by rw [List.lookup_append, hlookup]; rfl, hu⟩

end Checking

/-! ## Paths through models -/

/-- A field of a type has an instance where it is not given, if it need not be given. -/
def HasInstance (type : FieldType) : Default → Prop
  | .value given => IsWhole type given
  | .now => False
  | .required | .fresh => True

theorem isWhole_of_gives {type : FieldType} {d : Default} {v : Value} (hd : HasInstance type d)
    (h : Gives d v) : IsWhole type v := by
  cases d with
  | value given =>
    cases h
    exact hd
  | now => exact hd.elim
  | required | fresh => exact h.elim

/-- A default of a model that is declared by its parts is an instance. -/
theorem hasInstance_of_default {type : FieldType} {now : Int} {given : Value} {d : Default}
    (hmodel : type.ownShape?.isSome = true) (hgiven : given ≠ .null)
    (hsound : Sound IsWhole type given) (h : type.default now given = .ok d) :
    HasInstance type d := by
  have hbuild : ∀ title, (do
      let _ ← given.named
      return Default.value (← Checked.orReject title (type.check now {} given)) :
        Except Fault Default) = .ok d → HasInstance type d := by
    intro title h
    obtain ⟨_, -, h⟩ := Except.bind_eq_ok.1 h
    obtain ⟨w, hw, h⟩ := Except.bind_eq_ok.1 h
    cases h
    exact isWhole_of_check type hsound (Except.mapError_eq_ok.1 hw)
  cases type with
  | record | byName | ref =>
    cases given with
    | null => exact absurd rfl hgiven
    | _ => exact hbuild _ h
  | _ => cases hmodel

/-- Each key but the last names a field that is a model by itself, on the model that the keys before
it name. -/
inductive Nests : FieldType → List String → Prop
  | here (type : FieldType) : Nests type []
  | last (type : FieldType) (key : String) : Nests type [key]
  | field {name key next : String} {declaration : Nat} {extra : Extra}
    {fields : List (Field × FieldType)} {d : Field × FieldType} {rest : List String}
    (hfind : fields.find? (fun e => e.1.name = key) = some d) (hmodel : d.2.ownShape?.isSome = true)
    (hdefault : HasInstance d.2 d.1.default) (hrest : Nests d.2 (next :: rest)) :
    Nests (.record name declaration extra fields) (key :: next :: rest)

/-- On the way that keys go, no undeclared member has taken the place of an instance with anything
but an instance. -/
def Unhidden : FieldType → List String → Value → Prop
  | .record _ _ extra fields, key :: next :: rest, .record _ held =>
    ∀ d u, fields.find? (fun e => e.1.name = key) = some d → held.lookup key = some u →
      (d.1.IsHidable extra → IsWhole d.2 u) ∧ Unhidden d.2 (next :: rest) u
  | _, _, _ => True

variable {type inner : FieldType} {shape : Shape} {key : String} {keys rest passed : List String}
  {fault : String → Fault} {v : Value}

theorem shape?_of_ownShape? (h : type.ownShape? = some shape) : type.shape? = some shape := by
  cases type with
  | record | byName | ref =>
    cases h
    rfl
  | _ => cases h

/-- A walk that succeeds has passed a declared field. -/
theorem exists_type?_of_walkPath (h : walkPath fault passed (some shape) (key :: rest) = .ok ()) :
    ∃ inner, shape.type? key = some inner ∧
      walkPath fault (passed ++ [key]) inner.shape? rest = .ok () := by
  rw [walkPath, Shape.field?_eq] at h
  cases hfield : shape.type? key with
  | none =>
    rw [hfield] at h
    cases h
  | some inner =>
    rw [hfield] at h
    exact ⟨inner, rfl, h⟩

/-- A declared field of a model is there in the stored form of a whole instance. -/
theorem exists_at?_of_type? (hmodel : type.ownShape? = some shape)
    (hfield : shape.type? key = some inner) (hv : IsWhole type v) (storing : Storing) :
    ∃ w, (v.jsonDump storing).at? [key] = some w := by
  cases type with
  | record name declaration extra fields =>
    cases hmodel
    obtain ⟨d, hfind, -⟩ := Option.map_eq_some_iff.1 hfield
    obtain ⟨held, u, rfl, hlookup, -⟩ := hv.exists_lookup hfind
    rw [Value.at?_jsonDump_record, hlookup]
    exact ⟨_, rfl⟩
  | ref =>
    cases hmodel
    obtain ⟨r, rfl⟩ := hv
    have hkey : key = "id" ∨ key = "collection" ∨ key = "database" := by
      simp only [Shape.type?] at hfield
      split at hfield
      · exact .inl ‹_›
      · split at hfield
        · exact .inr ‹_›
        · cases hfield
    rw [Value.jsonDump, r.dump_eq]
    rcases hkey with rfl | rfl | rfl
    · exact ⟨_, rfl⟩
    · exact ⟨_, rfl⟩
    · exact ⟨_, rfl⟩
  | byName => exact hv.elim
  | _ => cases hmodel

/-- **Accepted keys through models lead to something** in the stored form of a whole instance. -/
theorem exists_at?_jsonDump (hnests : Nests type keys) (hmodel : type.ownShape? = some shape)
    (hpath : walkPath fault passed (some shape) keys = .ok ()) (hv : IsWhole type v)
    (hfree : Unhidden type keys v) (storing : Storing) :
    ∃ w, (v.jsonDump storing).at? keys = some w := by
  induction hnests generalizing shape passed v storing with
  | here => exact ⟨_, by rw [Value.at?]⟩
  | last type key =>
    obtain ⟨inner, hfield, -⟩ := exists_type?_of_walkPath hpath
    exact exists_at?_of_type? hmodel hfield hv storing
  | @field name key next declaration extra fields d rest hfind hinner hdefault _ ih =>
    cases hmodel
    obtain ⟨inner, hfield, hwalk⟩ := exists_type?_of_walkPath hpath
    rw [Shape.type?, hfind] at hfield
    cases hfield
    obtain ⟨shape, hshape⟩ := Option.isSome_iff_exists.1 hinner
    rw [shape?_of_ownShape? hshape] at hwalk
    obtain ⟨held, u, rfl, hlookup, hu⟩ := hv.exists_lookup hfind
    obtain ⟨hhidden, hbelow⟩ := hfree d u hfind hlookup
    -- whatever the field comes from, it holds an instance of its model
    have hwhole : IsWhole d.2 u := by
      rcases hu with hwhole | hgiven | hhidable
      · exact hwhole
      · exact isWhole_of_gives hdefault hgiven
      · exact hhidden hhidable
    rw [Value.at?_jsonDump_record, hlookup]
    exact ih hshape hwalk hwhole hbelow _

end FieldType

end DocMapper
