import DocMapper.Proofs.Model.KeyedStore
import DocMapper.Proofs.Schema.Instances
import DocMapper.Proofs.Schema.Unfolding
/-!
# What index paths lead to

The paths of an index are checked when the index is declared. A path into the data that goes through
nested models leads to something in every document that a creation takes in, so that the index has a
term for it (`Model.index_paths_lead_to_data`). Models that refer to themselves, or to one another, are
among them: such a model is unfolded, and what it does with an input is what every unfolding does with
it that is deep enough.

Two things cut a path off (`Model.index_path_cut_off_sample`): an undeclared member that is called like
a field which is given by another name, as in the data it stands in place of the field, and an
instance among the input that no check has left.
-/

namespace DocMapper.Model

open Store FieldType

variable {m : Model} {desk : Desk Memory} {keys : List String} {owner : String}

/-- The store has taken in one document, in the model's collection, with something at a path. -/
def TakesIn (m : Model) (path : List String) (s t : Store) : Prop :=
  ∃ doc v, t.find m.name s.freshId = some doc ∧ (Value.dict doc.members).at? path = some v ∧
    ∀ c i, (c, i) ≠ (m.name, s.freshId) → t.find c i = s.find c i

/-- The data of a document is a member of it. -/
theorem at?_members (doc : StoredDocument) (keys : List String) :
    (Value.dict doc.members).at? ("data" :: keys) = doc.data.at? keys := by
  simp [Value.at?, StoredDocument.members, Dict.get?]

/-- An insertion takes in a document with something at every path at which its data has something. -/
theorem takesIn_insert (m : Model) (s : Store) {data v : Value} (hdata : data.at? keys = some v)
    (ttl : Value) : m.TakesIn ("data" :: keys) s (s.insert m.name data ttl).1 :=
  ⟨_, v, find_insert_self .., (at?_members _ keys).trans hdata,
    fun _ _ hne => find_insert_of_ne _ _ _ hne⟩

/-- A model that refers to no schema by its name is its own unfolding. -/
@[simp] theorem unfolded_nil (m : Model) (depth : Nat) : m.unfolded [] depth = m := by
  rw [unfolded, Library.unfold_nil]

/-- An unfolding builds what the less deep ones build. -/
theorem build_unfolded {lib : Library} {depth deeper : Nat} (h : depth ≤ deeper) {now : Int}
    {input operation target built : Value}
    (hbuilt : (m.unfolded lib depth).build now input operation target = .ok built) :
    (m.unfolded lib deeper).build now input operation target = .ok built := by
  have hcheck := build_eq_ok.1 hbuilt
  rw [unfolded, Library.plain_unfold] at hcheck
  refine build_eq_ok.2 ?_
  rw [unfolded, Library.plain_unfold]
  exact Library.check_unfold h hcheck

/-- **Accepted paths are not dangling.** Let a model be unfolded to some depth, which is nothing to a
model that refers to no schema by its name. Let a path into the data be accepted by the check of paths,
and let each of its keys but the last name a field that is a model by itself, with an instance for
its default if it has one. Whatever a creation is given, if an instance is built from it, then the path
is accepted and the instance is built however much deeper the model is unfolded. The creation does the
same each time: either nothing is taken in or one document that has something at the path. It is taken
in if the instance has a stored form, the collection of the model is there and no unique index refuses
the document.

The instances among the input, if any, are ones that checks have left. Where the path goes through a
field that is given by another name, on a schema that keeps undeclared members, none of these has
taken the place of the instance in the field with anything but an instance. -/
theorem index_paths_lead_to_data (m : Model) (lib : Library) {depth : Nat}
    (hpath : (m.unfolded lib depth).schema.checkPath ("data" :: keys) owner = .ok ())
    (hnests : Nests (m.unfolded lib depth).schema.type keys) (h : desk.Ready)
    {input built ttl : Value} (hinput : Sound IsWhole (m.unfolded lib depth).schema.type input)
    (hbuilt : (m.unfolded lib depth).build desk.logging.ambient.now input "create" .null = .ok built)
    (hfree : Unhidden (m.unfolded lib depth).schema.type keys built) (httl : ttl.isPlain = true) :
    ∃ calls t,
      (∀ deeper, depth ≤ deeper →
        (m.unfolded lib deeper).schema.checkPath ("data" :: keys) owner = .ok () ∧
        (m.unfolded lib deeper).build desk.logging.ambient.now input "create" .null = .ok built ∧
        ∃ out, desk.Runs ((m.unfolded lib deeper).create Memory.executor input ttl) out calls t) ∧
      (t = desk.remote.store ∨ m.TakesIn ("data" :: keys) desk.remote.store t) ∧
      ∀ data, built.stored = .ok data → desk.remote.store.collections.has m.name = true →
        desk.remote.store.checkUnique m.name data none = .ok () →
        m.TakesIn ("data" :: keys) desk.remote.store t := by
  have hwhole : IsWhole (m.unfolded lib depth).schema.type built :=
    isWhole_of_check _ (Schema.sound_plain fun _ => hinput) (build_eq_ok.1 hbuilt)
  obtain ⟨v, hv⟩ := exists_at?_jsonDump hnests rfl hpath hwhole hfree .plain
  obtain ⟨fields, rfl⟩ := exists_record_of_build hbuilt
  cases hstored : (Value.record (m.unfolded lib depth).schema.signature fields).stored with
  | error fault =>
    have hunfit : ∀ deeper, depth ≤ deeper → ((m.unfolded lib deeper).build
        desk.logging.ambient.now input "create" .null >>= stored) = .error fault := by
      intro deeper hdeeper
      rw [build_unfolded hdeeper hbuilt]
      exact hstored
    exact ⟨[], desk.remote.store, fun deeper hdeeper => ⟨Library.checkPath_unfold hdeeper hpath,
      build_unfolded hdeeper hbuilt, _, runs_create_unfit desk ttl (hunfit deeper hdeeper)⟩,
      .inl rfl, by rintro data ⟨⟩⟩
  | ok data =>
    have hsettled := Value.isSettled_of_stored hstored
    obtain rfl := Value.stored_record hstored
    have htaken := m.takesIn_insert desk.remote.store hv ttl.settled
    refine ⟨[.query (m.createQuery _ ttl)], (desk.remote.store.createIn m.name _ ttl.settled).2,
      fun deeper hdeeper => ⟨Library.checkPath_unfold hdeeper hpath, build_unfolded hdeeper hbuilt, _,
        runs_create h (build_unfolded hdeeper hbuilt) hstored hsettled.1 httl⟩, ?_⟩
    rw [hsettled.settled_eq]
    unfold createIn
    split
    · split
      · rename_i fault hunique
        refine ⟨.inl rfl, fun data hdata _ hpasses => ?_⟩
        cases hdata
        cases hunique.symm.trans hpasses
      · exact ⟨.inr htaken, fun _ _ _ _ => htaken⟩
    · rename_i hmissing
      exact ⟨.inl rfl, fun _ _ hthere _ => absurd hthere hmissing⟩

/-! ## Employees and their bosses -/

/-- An employee has an office and may have a boss, who is an employee. -/
def employeeSchema : Schema where
  name := "Employee"
  declaration := 2
  fields := [({ name := "office" }, .byName "Office" 3),
    ({ name := "boss", default := .value .null }, .optional (.byName "Employee" 2))]

/-- An office is in a city and may have a head, who is an employee. -/
def officeSchema : Schema where
  name := "Office"
  declaration := 3
  fields := [({ name := "city" }, .text),
    ({ name := "head", default := .value .null }, .optional (.byName "Employee" 2))]

/-- The schemas of employees and offices, which refer to one another. -/
def staffLibrary : Library := [employeeSchema, officeSchema]

/-- A model of employees. -/
def staffModel : Model where
  name := "staff"
  schema := employeeSchema
  indexes := {}

/-- A desk over a collection without employees. -/
def staffDesk : Desk Memory where
  remote := { store := { collections := [(.text "staff", [])] } }
  bound := true
  logging := ⟨staffModel.newLog, {}⟩

/-- An employee in a city, with a boss. -/
def employeeIn (city : String) (boss : Value) : Value :=
  .dict [(.text "office", .dict [(.text "city", .text city)]), (.text "boss", boss)]

/-- The office of an employee in Rome, whose boss is in Oslo, has a city in what is stored, to
whatever depth employees may have bosses. -/
theorem index_paths_lead_to_data_sample :
    ∃ calls t, (∀ deeper, 2 ≤ deeper → ∃ out, staffDesk.Runs
        ((staffModel.unfolded staffLibrary deeper).create Memory.executor
          (employeeIn "Rome" (employeeIn "Oslo" .null)) .null) out calls t) ∧
      staffModel.TakesIn ["data", "office", "city"] staffDesk.remote.store t := by
  have hpath : (staffModel.unfolded staffLibrary 2).schema.checkPath ["data", "office", "city"]
      "staff-by_city" = .ok () := rfl
  have hnests : Nests (staffModel.unfolded staffLibrary 2).schema.type ["office", "city"] :=
    .field rfl rfl trivial (.last _ _)
  have hinput : Sound IsWhole (staffModel.unfolded staffLibrary 2).schema.type
      (employeeIn "Rome" (employeeIn "Oslo" .null)) :=
    sound_dump _ (employeeIn "Rome" (employeeIn "Oslo" .null))
  have hbuilt : (staffModel.unfolded staffLibrary 2).build staffDesk.logging.ambient.now
      (employeeIn "Rome" (employeeIn "Oslo" .null)) "create" .null =
      .ok (.record employeeSchema.signature [
        ("office", .record officeSchema.signature [("city", .text "Rome"), ("head", .null)]),
        ("boss", .record employeeSchema.signature [
          ("office", .record officeSchema.signature [("city", .text "Oslo"), ("head", .null)]),
          ("boss", .null)])]) := rfl
  have hfree : ∀ held, Unhidden (staffModel.unfolded staffLibrary 2).schema.type
      ["office", "city"] (.record employeeSchema.signature held) := by
    intro held d u hd _
    cases hd
    refine ⟨fun h => absurd h.1 (by decide), ?_⟩
    cases u <;> trivial
  have hnull : Value.null.isPlain = true := rfl
  obtain ⟨calls, t, hruns, -, htaken⟩ := index_paths_lead_to_data staffModel staffLibrary hpath
    hnests ⟨rfl, _, rfl⟩ hinput hbuilt (hfree _) hnull
  exact ⟨calls, t, fun deeper hdeeper => (hruns deeper hdeeper).2.2, htaken _ rfl rfl rfl⟩

/-! ## People and their homes -/

/-- An address. -/
def addressType : FieldType := .record "Address" 1 .ignored
  [({ name := "city", default := .value (.text "Tashkent") }, .text)]

/-- An address in a city. -/
def addressIn (city : String) : Value :=
  .record (signatureOf "Address" 1 [({ name := "city" }, .text)]) [("city", .text city)]

/-- An instance of an address without a city, as no check leaves one. -/
def hollowAddress : Value := .record (signatureOf "Address" 1 [({ name := "city" }, .text)]) []

/-- A home, which is given by another name than its own and has an address for its default. -/
def homeField : Field where
  name := "home"
  givenAs := some "Home"
  default := .value (addressIn "Tashkent")

/-- A model of people with homes. Undeclared members are kept. -/
def personModel : Model where
  name := "people"
  schema :=
    { name := "Person"
      extra := .kept
      fields := [(homeField, addressType)] }
  indexes := {}

/-- A desk over a collection without people. -/
def personDesk : Desk Memory where
  remote := { store := { collections := [(.text "people", [])] } }
  bound := true
  logging := ⟨personModel.newLog, {}⟩

theorem personDesk_ready : personDesk.Ready := ⟨rfl, _, rfl⟩

/-- A home, and what else is given for a person. -/
def personInput (others : Dict Value) : Value :=
  .dict ((.text "Home", .dict [(.text "city", .text "Rome")]) :: others)

theorem sound_personInput (others : Dict Value) :
    Sound IsWhole personModel.schema.type (personInput others) := by
  refine ⟨fun v hv => ?_, trivial⟩
  have hhome : v = .dict [(.text "city", .text "Rome")] := (Option.some.inj hv).symm
  rw [hhome]
  exact ⟨fun _ _ => trivial, trivial⟩

/-- The path of the city leads through a model whose default is an instance. -/
theorem nests_personModel : Nests personModel.schema.type ["home", "city"] := by
  have hdefault : addressType.default 0 (.dict []) = .ok (.value (addressIn "Tashkent")) := rfl
  exact .field rfl rfl (hasInstance_of_default rfl (by simp) (sound_empty addressType) hdefault)
    (.last _ _)

theorem checkPath_personModel :
    personModel.schema.checkPath ["data", "home", "city"] "people-by_city" = .ok () := rfl

/-- An instance is built from the input, and the document that a creation takes in has the data, in
which there is no city. -/
def LeavesOutCity (input : Value) (data : Dict Value) : Prop :=
  (∃ built, personModel.build personDesk.logging.ambient.now input "create" .null = .ok built) ∧
  ∃ out calls t doc, personDesk.Runs (personModel.create Memory.executor input .null) out calls t ∧
    t.find "people" personDesk.remote.store.freshId = some doc ∧ doc.data = .dict data ∧
    (Value.dict doc.members).at? ["data", "home", "city"] = none

/-- **Paths that are cut off**: an undeclared member that is called like the field stands in its place,
or an instance that no check has left is without the field. -/
theorem index_path_cut_off_sample :
    personModel.schema.checkPath ["data", "home", "city"] "people-by_city" = .ok () ∧
    Nests personModel.schema.type ["home", "city"] ∧
    Sound IsWhole personModel.schema.type (personInput [(.text "home", .int 5)]) ∧
    LeavesOutCity (personInput [(.text "home", .int 5)]) [(.text "home", .int 5)] ∧
    LeavesOutCity (.dict [(.text "Home", hollowAddress)]) [(.text "home", .dict [])] := by
  have hnull : Value.null.isPlain = true := rfl
  have hmember : personModel.build personDesk.logging.ambient.now
      (personInput [(.text "home", .int 5)]) "create" .null =
      .ok (.record personModel.schema.signature [("home", .int 5)]) := rfl
  obtain ⟨_, t, _, rfl, hruns, hfind, -⟩ :=
    (createsIn_create personDesk_ready hmember rfl hnull).created rfl rfl
  have hhollow : personModel.build personDesk.logging.ambient.now
      (.dict [(.text "Home", hollowAddress)]) "create" .null =
      .ok (.record personModel.schema.signature [("home", hollowAddress)]) := rfl
  obtain ⟨_, t', _, rfl, hruns', hfind', -⟩ :=
    (createsIn_create personDesk_ready hhollow rfl hnull).created rfl rfl
  exact ⟨checkPath_personModel, nests_personModel, sound_personInput _,
    ⟨⟨_, hmember⟩, _, _, t, _, hruns, hfind, rfl, rfl⟩,
    ⟨_, hhollow⟩, _, _, t', _, hruns', hfind', rfl, rfl⟩

end DocMapper.Model
