import DocMapper.Schema.Path
/-!
# Which paths are accepted

A type is walked into if there is one model that its values are instances of, null aside
(`FieldType.shape?`). Otherwise it is scalar or free-form (`FieldType.shape?_eq_none_iff`): below a
free-form value there may be anything, and below a scalar one there is nothing.

The keys of a path lead from one type to another (`FieldType.Leads`), each naming a field that is
declared on the model that the keys before it lead to. A schema admits a path (`Schema.Admits`) if
its first key is a member of the envelope and, under `data`, its keys lead to the end or to a
free-form field. The check of paths accepts all of these, and those besides that go on below a scalar
field (`Schema.Overruns`), where no document has anything (`Schema.checkPath_outcome`).
-/

namespace DocMapper

/-! ## Kinds of types -/

namespace FieldType

/-- A type of values without parts. -/
def isScalar : FieldType → Bool
  | .text | .int | .float | .bool | .timestamp | .date => true
  | .optional inner => inner.isScalar
  | _ => false

/-- A type of values with parts of any names. -/
def isFreeForm : FieldType → Bool
  | .any | .dict | .list _ | .entries _ | .set _ | .tuple _ => true
  | .union members => (FieldType.union members).shape?.isNone
  | .optional inner => inner.isFreeForm
  | _ => false

theorem shape?_optional (inner : FieldType) : (FieldType.optional inner).shape? = inner.shape? := by
  rw [shape?, alternatives, shape?]

/-- **What is not walked into is scalar or free-form.** -/
theorem shape?_eq_none_iff (type : FieldType) :
    type.shape? = none ↔ type.isScalar = true ∨ type.isFreeForm = true := by
  fun_induction isScalar type with
  | case7 inner ih => rw [shape?_optional, ih, isFreeForm]
  | case8 type =>
    cases type with
    | union members => simp [isFreeForm]
    | any | dict | list | entries | set | tuple => exact iff_of_true rfl (.inr rfl)
    | record name declaration extra fields =>
      have hshape : (record name declaration extra fields).shape? =
        some (.record name declaration fields) := rfl
      simp [hshape, isFreeForm]
    | byName name declaration =>
      have hshape : (byName name declaration).shape? = some (.byName name declaration) := rfl
      simp [hshape, isFreeForm]
    | ref =>
      have hshape : ref.shape? = some .ref := rfl
      simp [hshape, isFreeForm]
    | _ => simp_all
  | _ => exact iff_of_true rfl (.inl rfl)

/-- A scalar type is not free-form. -/
theorem isFreeForm_of_isScalar {type : FieldType} (h : type.isScalar = true) :
    type.isFreeForm = false := by
  fun_induction isScalar type with
  | case7 inner ih => exact ih h
  | case8 => cases h
  | _ => rfl

end FieldType

namespace Shape

/-- The type of the field of a name, if a model declares it. -/
def type? : Shape → String → Option FieldType
  | .record _ _ fields, key => (fields.find? fun e => e.1.name = key).map Prod.snd
  | .byName _ _, _ => none
  | .ref, key =>
    if key = "id" then some .text
    else if key = "collection" ∨ key = "database" then some (.optional .ref)
    else none

/-- What is below a field is what its type is walked into. -/
theorem field?_eq (shape : Shape) (key : String) :
    shape.field? key = (shape.type? key).map FieldType.shape? := by
  cases shape with
  | record name declaration fields => rw [field?, type?, Option.map_map]; rfl
  | byName name declaration => rfl
  | ref =>
    rw [field?, type?]
    split
    · rfl
    · split <;> rfl

end Shape

/-! ## Walks -/

/-- The keys lead from a type to a type: each names a field that is declared on the model that the
type before it is walked into. -/
inductive FieldType.Leads : FieldType → List String → FieldType → Prop
  | here (type : FieldType) : Leads type [] type
  | field {type inner target : FieldType} {shape : Shape} {key : String} {keys : List String}
    (hshape : type.shape? = some shape) (hfield : shape.type? key = some inner)
    (hkeys : Leads inner keys target) : Leads type (key :: keys) target

open FieldType

variable {type target : FieldType} {shape : Shape} {key : String} {keys front back : List String}
  {fault : String → Fault} {passed : List String}

/-- Nothing leads out of a type that is not walked into. -/
theorem FieldType.Leads.of_shape?_none (hnone : type.shape? = none) (h : Leads type keys target) :
    keys = [] ∧ target = type := by
  cases h with
  | here => exact ⟨rfl, rfl⟩
  | field hshape => cases hnone.symm.trans hshape

/-- **Where keys have led to a type that is not walked into, they lead no further**: other keys at the
beginning of the path lead there by the way. -/
theorem FieldType.Leads.of_stopped {front' back' : List String} {target' : FieldType}
    (h' : Leads type front' target') (h : Leads type front target) (hend : target.shape? = none)
    (heq : front ++ back = front' ++ back') :
    ∃ between, front = front' ++ between ∧ Leads target' between target := by
  induction h' generalizing front with
  | here type => exact ⟨front, rfl, h⟩
  | field hshape' hfield' _ ih =>
    cases h with
    | here => cases hend.symm.trans hshape'
    | field hshape hfield hkeys =>
      obtain ⟨rfl, hrest⟩ := List.cons.inj heq
      cases hshape.symm.trans hshape'
      cases hfield.symm.trans hfield'
      obtain ⟨between, rfl, hbetween⟩ := ih hkeys hrest
      exact ⟨between, rfl, hbetween⟩

/-- What is told of a key that is not declared on a model. -/
def undeclared (front : List String) (key : String) (shape : Shape) : String :=
  "'" ++ ".".intercalate (front ++ [key]) ++ "' is not declared on " ++ shape.name

/-- **A walk succeeds if its keys lead to the end**, or to a type that is not walked into. -/
theorem walkPath_of_leads (h : Leads type front target) (hend : back = [] ∨ target.shape? = none) :
    walkPath fault passed type.shape? (front ++ back) = .ok () := by
  induction h generalizing passed with
  | here type =>
    rcases hend with rfl | hnone
    · rw [List.append_nil, walkPath]
    · rw [List.nil_append, hnone]
      cases back <;> rw [walkPath]
      simp
  | field hshape hfield _ ih =>
    rw [List.cons_append, hshape, walkPath, Shape.field?_eq, hfield]
    exact ih hend

/-- **A walk fails at the first key that is not declared.** -/
theorem walkPath_of_undeclared (h : Leads type front target) (hshape : target.shape? = some shape)
    (hkey : shape.type? key = none) :
    walkPath fault passed type.shape? (front ++ key :: back) =
      .error (fault (undeclared (passed ++ front) key shape)) := by
  induction h generalizing passed with
  | here type =>
    rw [List.nil_append, hshape, walkPath, Shape.field?_eq, hkey, undeclared, List.append_nil]
    rfl
  | @field _ _ _ _ key' _ hshape' hfield _ ih =>
    rw [List.cons_append, hshape', walkPath, Shape.field?_eq, hfield]
    have hrest := @ih (passed ++ [key']) hshape
    rwa [List.append_assoc, List.singleton_append] at hrest

/-- **One of both is the case.** -/
theorem exists_leads (type : FieldType) (keys : List String) :
    (∃ front back target, keys = front ++ back ∧ Leads type front target ∧
      (back = [] ∨ target.shape? = none)) ∨
    ∃ front key back target shape, keys = front ++ key :: back ∧ Leads type front target ∧
      target.shape? = some shape ∧ shape.type? key = none := by
  induction keys generalizing type with
  | nil => exact .inl ⟨[], [], type, rfl, .here type, .inl rfl⟩
  | cons key rest ih =>
    cases hshape : type.shape? with
    | none => exact .inl ⟨[], key :: rest, type, rfl, .here type, .inr hshape⟩
    | some shape =>
      cases hfield : shape.type? key with
      | none => exact .inr ⟨[], key, rest, type, shape, rfl, .here type, hshape, hfield⟩
      | some inner =>
        rcases ih inner with ⟨front, back, target, rfl, hleads, hend⟩ |
          ⟨front, key', back, target, shape', rfl, hleads, hundeclared⟩
        · exact .inl ⟨key :: front, back, target, rfl, .field hshape hfield hleads, hend⟩
        · exact .inr ⟨key :: front, key', back, target, shape', rfl,
            .field hshape hfield hleads, hundeclared⟩

/-! ## Paths -/

namespace Schema

/-- The documents of a schema can have something at a path: its first key is a member of the envelope,
and under `data` each key is declared on the model reached so far, up to the end or to a free-form
field. -/
def Admits (s : Schema) : List String → Prop
  | [] => False
  | first :: rest => first ∈ envelopeMembers ∧ (first = "data" →
    ∃ front back target, rest = front ++ back ∧ Leads s.type front target ∧
      (back = [] ∨ target.isFreeForm = true))

/-- A path goes on below a scalar field, where the documents of a schema have nothing. -/
def Overruns (s : Schema) (keys : List String) : Prop :=
  ∃ front key back target, keys = "data" :: (front ++ key :: back) ∧ Leads s.type front target ∧
    target.isScalar = true

/-- A path comes to a key that is not declared on the model that the keys before it lead to. -/
def Misses (s : Schema) (keys front : List String) (key : String) (shape : Shape) : Prop :=
  ∃ back target, keys = "data" :: (front ++ key :: back) ∧ Leads s.type front target ∧
    target.shape? = some shape ∧ shape.type? key = none

variable {s : Schema} {owner : String}

theorem checkPath_data (s : Schema) (rest : List String) (owner : String) :
    s.checkPath ("data" :: rest) owner =
      walkPath (pathFault owner ("data" :: rest)) ["data"] s.type.shape? rest := rfl

/-- A path that goes on below a scalar field is none that a schema admits. -/
theorem not_admits_of_overruns (h : s.Overruns keys) : ¬ s.Admits keys := by
  obtain ⟨front, key, back, target, rfl, hleads, hscalar⟩ := h
  rintro ⟨-, hdata⟩
  obtain ⟨front', back', target', heq, hleads', hend⟩ := hdata rfl
  have hnone : target.shape? = none := (shape?_eq_none_iff target).2 (.inl hscalar)
  obtain ⟨between, rfl, hbetween⟩ := hleads'.of_stopped hleads hnone heq
  rcases hend with rfl | hfree
  · have hlength := congrArg List.length heq
    simp only [List.length_append, List.length_cons, List.length_nil] at hlength
    omega
  · obtain ⟨-, rfl⟩ := hbetween.of_shape?_none ((shape?_eq_none_iff target').2 (.inr hfree))
    rw [isFreeForm_of_isScalar hscalar] at hfree
    cases hfree

/-- **A path is accepted if the schema admits it.** -/
theorem checkPath_of_admits (h : s.Admits keys) (owner : String) :
    s.checkPath keys owner = .ok () := by
  cases keys with
  | nil => exact absurd h id
  | cons first rest =>
    obtain ⟨hfirst, hdata⟩ := h
    by_cases heq : first = "data"
    · subst heq
      obtain ⟨front, back, target, rfl, hleads, hend⟩ := hdata rfl
      rw [checkPath_data]
      exact walkPath_of_leads hleads (hend.imp_right fun hfree =>
        (shape?_eq_none_iff target).2 (.inr hfree))
    · rw [checkPath, if_pos (List.contains_iff_mem.2 hfirst), if_neg heq]

/-- A path is accepted as well if it goes on below a scalar field. -/
theorem checkPath_of_overruns (h : s.Overruns keys) (owner : String) :
    s.checkPath keys owner = .ok () := by
  obtain ⟨front, key, back, target, rfl, hleads, hscalar⟩ := h
  rw [checkPath_data]
  exact walkPath_of_leads hleads (.inr ((shape?_eq_none_iff target).2 (.inl hscalar)))

/-- **A path is refused if one of its keys is not declared.** -/
theorem checkPath_of_misses (h : s.Misses keys front key shape) (owner : String) :
    s.checkPath keys owner = .error (pathFault owner keys (undeclared ("data" :: front) key shape)) := by
  obtain ⟨back, target, rfl, hleads, hshape, hkey⟩ := h
  rw [checkPath_data]
  exact walkPath_of_undeclared hleads hshape hkey

/-- A path is refused if it begins at nothing that a document has. -/
theorem checkPath_of_not_mem {first : String} (h : first ∉ envelopeMembers) (rest : List String)
    (owner : String) : s.checkPath (first :: rest) owner = .error (pathFault owner (first :: rest)
      ("'" ++ first ++ "' is not a document field (expected one of ('ref', 'ts', 'ttl', 'data'))")) := by
  have hmembers : tupleText (envelopeMembers.map Text.quoted) = "('ref', 'ts', 'ttl', 'data')" := by
    decide +kernel
  rw [checkPath, if_neg (mt List.contains_iff_mem.1 h), hmembers]
  simp only [String.append_assoc]
  rfl

/-- A path begins at nothing that a document has, or is admitted, or goes on below a scalar field, or
comes to a key that is not declared. -/
theorem path_cases (s : Schema) (first : String) (rest : List String) :
    first ∉ envelopeMembers ∨ s.Admits (first :: rest) ∨ s.Overruns (first :: rest) ∨
      ∃ front key shape, s.Misses (first :: rest) front key shape := by
  by_cases hfirst : first ∈ envelopeMembers
  · by_cases heq : first = "data"
    · subst heq
      rcases exists_leads s.type rest with ⟨front, back, target, rfl, hleads, hend⟩ |
        ⟨front, key, back, target, shape, rfl, hleads, hmiss⟩
      · cases back with
        | nil => exact .inr (.inl ⟨hfirst, fun _ => ⟨front, [], target, rfl, hleads, .inl rfl⟩⟩)
        | cons key back =>
          have hnone := hend.resolve_left (List.cons_ne_nil key back)
          rcases (shape?_eq_none_iff target).1 hnone with hscalar | hfree
          · exact .inr (.inr (.inl ⟨front, key, back, target, rfl, hleads, hscalar⟩))
          · exact .inr (.inl ⟨hfirst, fun _ => ⟨front, _, target, rfl, hleads, .inr hfree⟩⟩)
      · exact .inr (.inr (.inr ⟨front, key, shape, back, target, rfl, hleads, hmiss⟩))
    · exact .inr (.inl ⟨hfirst, fun hdata => absurd hdata heq⟩)
  · exact .inl hfirst

/-- **What the check of a path comes to.** Every path that the schema admits is accepted. The only
others that are accepted are those that go on below a scalar field: such a field is passed over like
a free-form one, although there is nothing below it. All other paths are refused, for their first key
or for the first key that is not declared on the model reached so far. -/
theorem checkPath_outcome (s : Schema) (first : String) (rest : List String) (owner : String) :
    (s.checkPath (first :: rest) owner = .ok () ↔
      s.Admits (first :: rest) ∨ s.Overruns (first :: rest)) ∧
    (s.Overruns (first :: rest) → ¬ s.Admits (first :: rest)) ∧
    ∀ fault, s.checkPath (first :: rest) owner = .error fault ↔
      (first ∉ envelopeMembers ∧ fault = pathFault owner (first :: rest) ("'" ++ first ++
        "' is not a document field (expected one of ('ref', 'ts', 'ttl', 'data'))")) ∨
      ∃ front key shape, s.Misses (first :: rest) front key shape ∧
        fault = pathFault owner (first :: rest) (undeclared ("data" :: front) key shape) := by
  refine ⟨⟨fun hok => ?_, ?_⟩, not_admits_of_overruns, fun fault => ⟨fun herror => ?_, ?_⟩⟩
  · rcases s.path_cases first rest with hfirst | hadmits | hoverruns | ⟨front, key, shape, hmiss⟩
    · cases (checkPath_of_not_mem hfirst rest owner).symm.trans hok
    · exact .inl hadmits
    · exact .inr hoverruns
    · cases (checkPath_of_misses hmiss owner).symm.trans hok
  · rintro (hadmits | hoverruns)
    · exact checkPath_of_admits hadmits owner
    · exact checkPath_of_overruns hoverruns owner
  · rcases s.path_cases first rest with hfirst | hadmits | hoverruns | ⟨front, key, shape, hmiss⟩
    · cases (checkPath_of_not_mem hfirst rest owner).symm.trans herror
      exact .inl ⟨hfirst, rfl⟩
    · cases (checkPath_of_admits hadmits owner).symm.trans herror
    · cases (checkPath_of_overruns hoverruns owner).symm.trans herror
    · cases (checkPath_of_misses hmiss owner).symm.trans herror
      exact .inr ⟨front, key, shape, hmiss, rfl⟩
  · rintro (⟨hfirst, rfl⟩ | ⟨front, key, shape, hmiss, rfl⟩)
    · exact checkPath_of_not_mem hfirst rest owner
    · exact checkPath_of_misses hmiss owner

/-- A schema with a scalar field, a model that may be missing, and a free-form field. -/
def accountSchema : Schema where
  name := "User"
  fields := [({ name := "email" }, .text),
    ({ name := "address" }, .optional (.record "Address" 0 .ignored [({ name := "city" }, .text)])),
    ({ name := "settings" }, .dict)]

/-- A path below a text is accepted; one to a field that an address does not have is not. -/
theorem checkPath_outcome_sample :
    (accountSchema.checkPath ["data", "email", "domain"] "" = .ok () ∧
      ¬ accountSchema.Admits ["data", "email", "domain"]) ∧
    accountSchema.checkPath ["data", "address", "city"] "" = .ok () ∧
    accountSchema.checkPath ["data", "settings", "theme", "dark"] "" = .ok () ∧
    accountSchema.checkPath ["data", "address", "town"] "" = .error (.misconfigured "validate_path"
      "data.address.town" "'data.address.town' is not declared on Address") := by
  let address : FieldType := .record "Address" 0 .ignored [({ name := "city" }, .text)]
  have hemail : Leads accountSchema.type ["email"] .text := .field rfl rfl (.here _)
  have haddress : Leads accountSchema.type ["address"] (.optional address) :=
    .field rfl rfl (.here _)
  have hcity : Leads accountSchema.type ["address", "city"] .text :=
    .field rfl rfl (.field rfl rfl (.here _))
  have hsettings : Leads accountSchema.type ["settings"] .dict := .field rfl rfl (.here _)
  have hoverruns : accountSchema.Overruns ["data", "email", "domain"] :=
    ⟨["email"], "domain", [], .text, rfl, hemail, rfl⟩
  obtain ⟨hemailIff, hnot, -⟩ := checkPath_outcome accountSchema "data" ["email", "domain"] ""
  obtain ⟨hcityIff, -, -⟩ := checkPath_outcome accountSchema "data" ["address", "city"] ""
  obtain ⟨hthemeIff, -, -⟩ :=
    checkPath_outcome accountSchema "data" ["settings", "theme", "dark"] ""
  obtain ⟨-, -, htown⟩ := checkPath_outcome accountSchema "data" ["address", "town"] ""
  refine ⟨⟨hemailIff.2 (.inr hoverruns), hnot hoverruns⟩, hcityIff.2 (.inl ?_),
    hthemeIff.2 (.inl ?_), (htown _).2 (.inr ⟨["address"], "town", _, ⟨[], _, rfl, haddress, rfl,
      rfl⟩, rfl⟩)⟩
  · exact ⟨by simp [envelopeMembers], fun _ => ⟨_, [], _, rfl, hcity, .inl rfl⟩⟩
  · exact ⟨by simp [envelopeMembers], fun _ => ⟨["settings"], _, _, rfl, hsettings, .inr rfl⟩⟩

end Schema

end DocMapper
