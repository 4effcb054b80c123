import DocMapper.Proofs.Schema.Paths
import DocMapper.Proofs.Schema.Readable
import DocMapper.Schema.Parse
/-!
# Schemas that are unfolded

A schema that refers to itself, or to schemas that refer to one another, is unfolded down to a depth
(`Library.unfold`). What lies below is refused, so a deeper unfolding can only accept more: what one
unfolding accepts, every deeper one accepts and reads as the same instance (`Library.check_unfold`),
and the same holds of paths (`Library.checkPath_unfold`). What the schema itself accepts, without a
bound on the depth, is thus what some unfolding of it accepts. Each unfolding is a schema like any
other, so that whatever holds of all schemas holds of it.
-/

namespace DocMapper

namespace FieldType

variable {schemas others : String → Nat → Option Schema}

/-! ## Types with schemas in the places of their names -/

theorem resolveFields_eq_map (schemas : String → Nat → Option Schema)
    (fields : List (Field × FieldType)) :
    resolveFields schemas fields = fields.map fun d => (d.1, d.2.resolve schemas) := by
  induction fields with
  | nil => rfl
  | cons d rest ih => rw [resolveFields, ih, List.map_cons]

theorem resolve_type (schemas : String → Nat → Option Schema) (s : Schema) :
    s.type.resolve schemas = (s.resolve schemas).type := by
  rw [Schema.type, resolve]
  rfl

mutual

/-- Where there are no schemas, names stay. -/
theorem resolve_of_none (h : ∀ name declaration, schemas name declaration = none) :
    (type : FieldType) → type.resolve schemas = type
  | .optional inner => by rw [resolve, resolve_of_none h inner]
  | .list item => by rw [resolve, resolve_of_none h item]
  | .entries value => by rw [resolve, resolve_of_none h value]
  | .set item => by rw [resolve, resolve_of_none h item]
  | .tuple items => by rw [resolve, resolveAll_of_none h items]
  | .union members => by rw [resolve, resolveAll_of_none h members]
  | .record name declaration extra fields => by rw [resolve, resolveFields_of_none h fields]
  | .byName name declaration => by rw [resolve, h name declaration]; rfl
  | .text | .int | .float | .bool | .any | .timestamp | .date | .ref | .dict => by
    simp only [resolve]

theorem resolveAll_of_none (h : ∀ name declaration, schemas name declaration = none) :
    (types : List FieldType) → resolveAll schemas types = types
  | [] => rfl
  | type :: rest => by rw [resolveAll, resolve_of_none h type, resolveAll_of_none h rest]

theorem resolveFields_of_none (h : ∀ name declaration, schemas name declaration = none) :
    (fields : List (Field × FieldType)) → resolveFields schemas fields = fields
  | [] => rfl
  | (_, type) :: rest => by
    rw [resolveFields, resolve_of_none h type, resolveFields_of_none h rest]

end

/-- The stored form of a value does not ask for what is below a name. -/
theorem storing_resolve (schemas : String → Nat → Option Schema) :
    (type : FieldType) → (type.resolve schemas).storing = type.storing
  | .optional inner => by rw [resolve, storing, storing, storing_resolve schemas inner]
  | .list item => by rw [resolve, storing, storing, storing_resolve schemas item]
  | .entries value => by rw [resolve, storing, storing, storing_resolve schemas value]
  | .byName name declaration => by
    rw [resolve]
    cases schemas name declaration <;> rfl
  | .text | .int | .float | .bool | .any | .timestamp | .date | .ref | .dict | .set _ | .tuple _
  | .union _ | .record .. => by simp only [resolve, storing]

/-- Instances do not tell what is below a name. -/
theorem signatureOf_resolveFields (name : String) (declaration : Nat)
    (fields : List (Field × FieldType)) :
    signatureOf name declaration (resolveFields schemas fields) =
      signatureOf name declaration fields := by
  simp only [signatureOf, resolveFields_eq_map, List.filterMap_map, Function.comp_def,
    storing_resolve]

theorem otherMembers_resolveFields (fields : List (Field × FieldType)) (members : Dict Value) :
    otherMembers (resolveFields schemas fields) members = otherMembers fields members := by
  simp only [otherMembers, resolveFields_eq_map, List.all_map, Function.comp_def]

/-! ## What is accepted -/

/-- What is read as a value of the one type is read as the same value of the other. -/
def ReadAs (type other : FieldType) : Prop := ∀ now limits v w,
  check now limits type v = .ok w → check now limits other v = .ok w

/-- The others have a schema under each name that the schemas have one under, and it accepts as
much. -/
def Extends (others schemas : String → Nat → Option Schema) : Prop :=
  ∀ name declaration s, schemas name declaration = some s →
    ∃ s', others name declaration = some s' ∧ ReadAs s.type s'.type

theorem map_eq_of_imp {α β : Type} {f g : α → Checked β} (hfg : ∀ x y, f x = .ok y → g x = .ok y)
    {xs : List α} {ys : List β} (h : xs.map f = ys.map .ok) : xs.map g = ys.map .ok := by
  induction xs generalizing ys with
  | nil => exact h
  | cons x rest ih =>
    cases ys with
    | nil => cases h
    | cons y ys =>
      obtain ⟨hhead, htail⟩ := List.cons.inj h
      rw [List.map_cons, List.map_cons, hfg x y hhead, ih htail]

/-- A field of the one type is read as the same field of the other. -/
theorem ReadAs.checkField {type other : FieldType} (h : ReadAs type other) {now : Int} {f : Field}
    {members : Dict Value} {v : Value} (hv : checkField now f type members = .ok v) :
    FieldType.checkField now f other members = .ok v := by
  unfold FieldType.checkField at hv ⊢
  split at hv
  · exact Checked.under_eq_ok.2 (h _ _ _ _ (Checked.under_eq_ok.1 hv))
  · split at hv
    · exact hv
    · exact hv
    · exact hv
    · exact Checked.under_eq_ok.2 (h _ _ _ _ (Checked.under_eq_ok.1 hv))

mutual

/-- **With more schemas in the places of names, as much is accepted.** -/
theorem readAs_resolve (h : Extends others schemas) :
    (type : FieldType) → ReadAs (type.resolve schemas) (type.resolve others)
  | .optional inner => by
    intro now limits v w hv
    simp only [resolve] at hv ⊢
    by_cases hnull : v = .null
    · rw [hnull, check_optional_null] at hv ⊢
      exact hv
    · rw [check_optional hnull] at hv ⊢
      exact readAs_resolve h inner now limits v w hv
  | .list item => by
    intro now limits v w hv
    obtain ⟨items, values, hitems, hvalues, hw⟩ := check_list.1 hv
    exact check_list.2 ⟨items, values, hitems,
      map_eq_of_imp (readAs_resolve h item now {}) hvalues, hw⟩
  | .entries value => by
    intro now limits v w hv
    obtain ⟨members, entries, hmembers, hentries, hw⟩ := check_entries.1 hv
    refine check_entries.2 ⟨members, entries, hmembers, map_eq_of_imp (fun e e' he => ?_) hentries,
      hw⟩
    obtain ⟨s, hs, hkey, hvalue⟩ := checkEntry_eq_ok.1 he
    exact checkEntry_eq_ok.2 ⟨s, hs, hkey, readAs_resolve h value _ _ _ _ hvalue⟩
  | .record name declaration extra fields => by
    intro now limits v w hv
    simp only [resolve] at hv ⊢
    cases v with
    | dict members =>
      obtain ⟨declared, added, hdeclared, hadded, hw⟩ := check_members.1 hv
      rw [otherMembers_resolveFields] at hadded
      rw [signatureOf_resolveFields] at hw
      refine check_members.2 ⟨declared, added, readAs_resolveFields h fields hdeclared, ?_, ?_⟩
      · rwa [otherMembers_resolveFields]
      · rwa [signatureOf_resolveFields]
    | _ =>
      simp only [check, signatureOf_resolveFields] at hv ⊢
      exact hv
  | .byName name declaration => by
    intro now limits v w hv
    cases hname : schemas name declaration with
    | none => simp [resolve, hname, check, Checked.reject] at hv
    | some s =>
      obtain ⟨s', hother, hread⟩ := h name declaration s hname
      simp only [resolve, hname, hother, Option.map_some, Option.getD_some] at hv ⊢
      exact hread now limits v w hv
  | .set _ | .tuple _ | .union _ => by
    intro now limits v w hv
    simp only [resolve, check] at hv ⊢
    exact hv
  | .text | .int | .float | .bool | .any | .timestamp | .date | .ref | .dict => by
    intro now limits v w hv
    simp only [resolve] at hv ⊢
    exact hv

theorem readAs_resolveFields (h : Extends others schemas) : (fields : List (Field × FieldType)) →
    {now : Int} → {members : Dict Value} → {held : List (String × Value)} →
    checkFields now (resolveFields schemas fields) members = held.map .ok →
    checkFields now (resolveFields others fields) members = held.map .ok
  | [], _, _, _, hheld => hheld
  | (f, type) :: rest, now, members, held, hheld => by
    rw [resolveFields, checkFields_eq] at hheld ⊢
    obtain ⟨v, tail, rfl, hv, htail⟩ := hheld
    exact ⟨v, tail, rfl, (readAs_resolve h type).checkField hv,
      checkFields_eq.1 (readAs_resolveFields h rest (checkFields_eq.2 htail))⟩

end

end FieldType

/-! ## What paths lead to -/

/-- The shape with a schema in the place of its name. -/
def Shape.resolve (schemas : String → Nat → Option Schema) : Shape → Shape
  | .record name declaration fields =>
    .record name declaration (FieldType.resolveFields schemas fields)
  | .byName name declaration =>
    match schemas name declaration with
    | some s => .record s.name s.declaration s.fields
    | none => .byName name declaration
  | .ref => .ref

/-- Each schema is found under its own name and declaration. -/
def Titled (schemas : String → Nat → Option Schema) : Prop :=
  ∀ name declaration s, schemas name declaration = some s →
    s.name = name ∧ s.declaration = declaration

namespace FieldType

variable {schemas : String → Nat → Option Schema}

theorem ownShape?_resolve (type : FieldType) :
    (type.resolve schemas).ownShape? = type.ownShape?.map (Shape.resolve schemas) := by
  cases type with
  | byName name declaration =>
    simp only [resolve, ownShape?, Option.map_some, Shape.resolve]
    cases schemas name declaration <;> rfl
  | _ => simp only [resolve, ownShape?, Option.map_some, Option.map_none, Shape.resolve]

mutual

theorem alternatives_resolve (schemas : String → Nat → Option Schema) : (type : FieldType) →
    (type.resolve schemas).alternatives = type.alternatives.map (resolve schemas)
  | .optional inner => by
    rw [resolve, alternatives, alternatives, alternatives_resolve schemas inner]
  | .union members => by
    rw [resolve, alternatives, alternatives, alternativesOf_resolveAll schemas members]
  | .byName name declaration => by
    have hname : alternatives (.byName name declaration) = [.byName name declaration] := rfl
    rw [hname, List.map_singleton, resolve]
    cases schemas name declaration <;> rfl
  | .text | .int | .float | .bool | .any | .timestamp | .date | .ref | .dict | .list _
  | .entries _ | .set _ | .tuple _ | .record .. => by
    simp only [resolve, alternatives, List.map_singleton]

theorem alternativesOf_resolveAll (schemas : String → Nat → Option Schema) :
    (types : List FieldType) →
    alternativesOf (resolveAll schemas types) = (alternativesOf types).map (resolve schemas)
  | [] => rfl
  | type :: rest => by
    rw [resolveAll, alternativesOf, alternativesOf, List.map_append,
      alternatives_resolve schemas type, alternativesOf_resolveAll schemas rest]

end

/-- **A type is walked into as it was**, but for the schemas in the places of their names. -/
theorem shape?_resolve (h : Titled schemas) (type : FieldType) :
    (type.resolve schemas).shape? = type.shape?.map (Shape.resolve schemas) := by
  have hown : (type.resolve schemas).alternatives.filterMap ownShape? =
      (type.alternatives.filterMap ownShape?).map (Shape.resolve schemas) := by
    rw [alternatives_resolve, List.filterMap_map, List.map_filterMap]
    exact List.filterMap_congr fun t _ => ownShape?_resolve t
  have hname : ∀ shape : Shape, (shape.resolve schemas).name = shape.name ∧
      (shape.resolve schemas).declaration = shape.declaration := by
    intro shape
    cases shape with
    | byName name declaration =>
      rw [Shape.resolve]
      split
      · rename_i s hs
        exact h name declaration s hs
      · exact ⟨rfl, rfl⟩
    | _ => exact ⟨rfl, rfl⟩
  rw [shape?, shape?, hown]
  cases type.alternatives.filterMap ownShape? with
  | nil => rfl
  | cons shape rest =>
    simp only [List.map_cons, List.all_map, Function.comp_def, hname]
    split <;> rfl

end FieldType

/-! ## Unfoldings -/

namespace Library

open FieldType

variable {lib : Library} {depth deeper : Nat} {keys passed : List String} {fault : String → Fault}

theorem titled_schemas (lib : Library) (depth : Nat) : Titled (lib.schemas depth) := by
  intro name declaration s hs
  cases depth with
  | zero => cases hs
  | succ depth =>
    obtain ⟨s, hfind, rfl⟩ := Option.map_eq_some_iff.1 hs
    have htitle := List.find?_some hfind
    exact of_decide_eq_true htitle

/-- The schemas of a library accept more the deeper they are unfolded. -/
theorem extends_schemas (lib : Library) (h : depth ≤ deeper) :
    Extends (lib.schemas deeper) (lib.schemas depth) := by
  induction depth generalizing deeper with
  | zero => exact fun _ _ _ hs => by cases hs
  | succ depth ih =>
    obtain ⟨deeper, rfl⟩ := Nat.exists_eq_add_of_lt h
    intro name declaration s hs
    obtain ⟨s, hfind, rfl⟩ := Option.map_eq_some_iff.1 hs
    refine ⟨_, Option.map_eq_some_iff.2 ⟨s, hfind, rfl⟩, ?_⟩
    rw [← resolve_type, ← resolve_type]
    exact readAs_resolve (ih (by omega)) s.type

/-- A schema that refers to none by its name is its own unfolding. -/
@[simp] theorem unfold_nil (depth : Nat) (s : Schema) : unfold [] depth s = s := by
  have hnone : ∀ name declaration, schemas [] depth name declaration = none := by
    intro name declaration
    cases depth <;> rfl
  rw [unfold, Schema.resolve, resolveFields_of_none hnone]

/-- The input of an unfolding is taken apart alike at every depth. -/
theorem plain_unfold (lib : Library) (depth : Nat) (s : Schema) (v : Value) :
    (lib.unfold depth s).plain v = s.plain v := by
  have hsignature : (lib.unfold depth s).signature = s.signature :=
    signatureOf_resolveFields s.name s.declaration s.fields
  rw [Schema.plain, hsignature, Schema.plain]

/-- **What an unfolding accepts, every deeper one accepts**, as the same instance. -/
theorem check_unfold (h : depth ≤ deeper) {s : Schema} {now : Int} {v w : Value}
    (hv : (lib.unfold depth s).check now v = .ok w) : (lib.unfold deeper s).check now v = .ok w := by
  rw [Schema.check, unfold, ← resolve_type] at hv ⊢
  exact readAs_resolve (lib.extends_schemas h) s.type now {} v w hv

/-- What is below a field is what was there, with schemas in the places of their names. -/
theorem field?_resolveFields {schemas : String → Nat → Option Schema} (h : Titled schemas)
    (name : String) (declaration : Nat) (fields : List (Field × FieldType)) (key : String) :
    (Shape.record name declaration (resolveFields schemas fields)).field? key =
      ((Shape.record name declaration fields).field? key).map
        (Option.map (Shape.resolve schemas)) := by
  simp only [Shape.field?, resolveFields_eq_map, List.find?_map, Option.map_map, Function.comp_def,
    shape?_resolve h]

/-- A field that one unfolding declares is declared by every deeper one, and what is below it is
unfolded deeper as well. -/
theorem exists_field?_resolve (h : depth ≤ deeper) {shape : Shape} {key : String}
    {next : Option Shape} (hfield : (shape.resolve (lib.schemas depth)).field? key = some next) :
    ∃ (below : Option Shape) (depth' deeper' : Nat), depth' ≤ deeper' ∧
      next = below.map (Shape.resolve (lib.schemas depth')) ∧
      (shape.resolve (lib.schemas deeper)).field? key =
        some (below.map (Shape.resolve (lib.schemas deeper'))) := by
  cases shape with
  | record name declaration fields =>
    rw [Shape.resolve, field?_resolveFields (lib.titled_schemas depth)] at hfield
    obtain ⟨below, hbelow, rfl⟩ := Option.map_eq_some_iff.1 hfield
    refine ⟨below, depth, deeper, h, rfl, ?_⟩
    rw [Shape.resolve, field?_resolveFields (lib.titled_schemas deeper), hbelow, Option.map_some]
  | byName name declaration =>
    cases depth with
    | zero => cases hfield
    | succ depth =>
      obtain ⟨deeper, rfl⟩ := Nat.exists_eq_add_of_lt h
      cases hfind : lib.find? fun s => s.name = name ∧ s.declaration = declaration with
      | none =>
        simp only [Shape.resolve, schemas, hfind, Option.map_none, Shape.field?] at hfield
        cases hfield
      | some s =>
        simp only [Shape.resolve, schemas, hfind, Option.map_some] at hfield ⊢
        simp only [Schema.resolve, field?_resolveFields (lib.titled_schemas _)] at hfield ⊢
        obtain ⟨below, hbelow, rfl⟩ := Option.map_eq_some_iff.1 hfield
        exact ⟨below, depth, depth + deeper, by omega, rfl, by rw [hbelow, Option.map_some]⟩
  | ref =>
    have hfixed : ∀ schemas, next.map (Shape.resolve schemas) = next := by
      have hnext := hfield
      simp only [Shape.resolve, Shape.field?] at hnext
      split at hnext
      · cases hnext
        exact fun _ => rfl
      · split at hnext
        · cases hnext
          exact fun _ => rfl
        · cases hnext
    exact ⟨next, depth, deeper, h, (hfixed _).symm, by rw [hfixed]; exact hfield⟩

/-- A walk that succeeds in one unfolding succeeds in every deeper one. -/
theorem walkPath_resolve (h : depth ≤ deeper) (shape : Option Shape)
    (hwalk : walkPath fault passed (shape.map (Shape.resolve (lib.schemas depth))) keys = .ok ()) :
    walkPath fault passed (shape.map (Shape.resolve (lib.schemas deeper))) keys = .ok () := by
  induction keys generalizing depth deeper passed shape with
  | nil => rw [walkPath]
  | cons key rest ih =>
    cases shape with
    | none =>
      rw [Option.map_none, walkPath]
      simp
    | some shape =>
      rw [Option.map_some, walkPath] at hwalk ⊢
      cases hfield : (shape.resolve (lib.schemas depth)).field? key with
      | none =>
        rw [hfield] at hwalk
        cases hwalk
      | some next =>
        obtain ⟨below, depth', deeper', hdepth, rfl, hfield'⟩ := exists_field?_resolve h hfield
        rw [hfield] at hwalk
        rw [hfield']
        exact ih hdepth below hwalk

/-- **A path that an unfolding accepts is accepted by every deeper one.** -/
theorem checkPath_unfold (h : depth ≤ deeper) {s : Schema} {owner : String}
    (hpath : (lib.unfold depth s).checkPath keys owner = .ok ()) :
    (lib.unfold deeper s).checkPath keys owner = .ok () := by
  cases keys with
  | nil => cases hpath
  | cons first rest =>
    simp only [Schema.checkPath] at hpath ⊢
    split at hpath
    · rename_i hmember
      rw [if_pos hmember]
      split at hpath
      · rename_i hdata
        rw [if_pos hdata]
        exact walkPath_resolve h (some (.record s.name s.declaration s.fields)) hpath
      · rename_i hdata
        rw [if_neg hdata]
    · cases hpath

end Library

end DocMapper
