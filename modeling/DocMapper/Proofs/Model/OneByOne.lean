import DocMapper.Proofs.Model.Batches
import DocMapper.Proofs.Model.KeyedStore
import DocMapper.Proofs.Model.Updating
/-!
# Bulk operations one by one

A bulk operation does what its single operations do one after another (`Model.GoesOneByOne`). As
long as the engine rejects none of them, it leaves the store that they leave; where all of them give
their documents, it gives the same. It ends at the first single operation that the engine rejects,
with the store as this one finds it.

A single operation is described by the one change of the store that it makes (`Model.Makes`), so
that the bulk operation and the single ones are compared by their changes.

The items of a bulk operation are compiled and evaluated before the first change. So an item whose
data lacks a stored form, or is a query that reads the store, makes a difference.
-/

namespace DocMapper.Model

open Store Action

/-! ## One by one -/

/-- The fault of the engine that an outcome passes on, if it does. -/
def rejection? {α : Type} : Except Fault α → Option Fault
  | .error (.transport _ _ _ cause _ _ _) => cause
  | _ => none

/-- Operations one after another, with what each of them comes to. One that fails does not keep the
others from being carried out. -/
def oneByOne (ops : List (Op Memory (Option Document))) :
    Op Memory (List (Except Fault (Option Document))) :=
  ops.mapM Action.attempt

/-- A bulk operation does what single operations do one after another, up to the first that the
engine rejects. -/
structure GoesOneByOne (desk : Desk Memory) (bulk : Op Memory (List Document))
    (singles : List (Op Memory (Option Document))) : Prop where
  /-- if none is rejected, the store is the same, and so are the documents if there are all -/
  accepted : ∀ outs after, (oneByOne singles).perform desk = (.ok outs, after) →
    (∀ out ∈ outs, rejection? out = none) →
    (bulk.perform desk).2.remote.store = after.remote.store ∧
      ∀ docs : List (Option Document), outs = docs.map .ok →
        (bulk.perform desk).1 = .ok (docs.filterMap id)
  /-- the first that is rejected ends the bulk operation, with the store that it finds -/
  rejected : ∀ before op others, singles = before ++ op :: others →
    ∀ outs mid, (oneByOne before).perform desk = (.ok outs, mid) →
      (∀ out ∈ outs, rejection? out = none) →
      ∀ cause, rejection? (op.perform mid).1 = some cause →
        (bulk.perform desk).2.remote.store = mid.remote.store ∧
          rejection? (bulk.perform desk).1 = some cause

variable {m : Model} {now : Int} {desk : Desk Memory}

theorem perform_oneByOne_cons (op : Op Memory (Option Document))
    (others : List (Op Memory (Option Document))) (desk : Desk Memory) :
    (oneByOne (op :: others)).perform desk =
      (((oneByOne others).perform (op.perform desk).2).1.map ((op.perform desk).1 :: ·),
        ((oneByOne others).perform (op.perform desk).2).2) := by
  rw [oneByOne, perform_mapM_cons, perform_attempt, oneByOne]

/-- Operations one by one always come to an end. -/
theorem exists_oneByOne (ops : List (Op Memory (Option Document))) (desk : Desk Memory) :
    ∃ outs after, (oneByOne ops).perform desk = (.ok outs, after) := by
  induction ops generalizing desk with
  | nil => exact ⟨[], desk, rfl⟩
  | cons op others ih =>
    obtain ⟨outs, after, h⟩ := ih (op.perform desk).2
    exact ⟨(op.perform desk).1 :: outs, after, by rw [perform_oneByOne_cons, h]; rfl⟩

/-! ## Operations that make one change -/

/-- The operation makes a change of the store and opens the document that it is about. -/
def Makes (m : Model) (now : Int) (op : Op Memory (Option Document)) (change : Change) : Prop :=
  ∀ desk : Desk Memory, desk.Ready → desk.logging.ambient.now = now → ∃ operation target calls,
    desk.Runs op (m.answered now operation target (change.apply.perform desk.remote.store).1) calls
      (change.apply.perform desk.remote.store).2

/-- Opening a document rejects nothing. -/
theorem rejection?_opened (m : Model) (now : Int) (found : Option StoredDocument) :
    rejection? (m.opened now found) = none := by
  cases found with
  | none => rfl
  | some doc =>
    rw [opened, opening, build, Schema.parse, Schema.concluded]
    rcases m.schema.check now (m.schema.plain doc.data) with (_ | _) | _ <;> rfl

/-! ## Their changes one by one -/

variable {ops : List (Op Memory (Option Document))} {changes : List Change}

/-- Operations that are not rejected make their changes one after another. -/
theorem oneByOne_spec (hops : List.Forall₂ (m.Makes now) ops changes) (h : desk.Ready)
    (hnow : desk.logging.ambient.now = now) {outs : List (Except Fault (Option Document))}
    {after : Desk Memory} (hrun : (oneByOne ops).perform desk = (.ok outs, after))
    (houts : ∀ out ∈ outs, rejection? out = none) :
    after.Ready ∧ after.logging.ambient.now = now ∧ ∃ found,
      (changes.mapM Change.apply).perform desk.remote.store = (.ok found, after.remote.store) ∧
        outs = found.map (m.opened now) := by
  induction hops generalizing desk outs with
  | nil =>
    cases hrun
    exact ⟨h, hnow, [], rfl, rfl⟩
  | @cons op change others rest hop _ ih =>
    obtain ⟨operation, target, calls, mid, hmid, hbecomes⟩ := hop desk h hnow
    obtain ⟨outs', after', hothers⟩ := exists_oneByOne others mid
    rw [perform_oneByOne_cons, hmid, hothers] at hrun
    cases hrun
    obtain ⟨hout, houts⟩ := List.forall_mem_cons.1 houts
    obtain ⟨hready, hnow', found, hfound, rfl⟩ :=
      ih (hbecomes.ready h) (hbecomes.now.trans hnow) hothers houts
    rw [hbecomes.store] at hfound
    have hchange : ∃ doc, (change.apply.perform desk.remote.store).1 = .ok doc := by
      cases hfirst : (change.apply.perform desk.remote.store).1 with
      | ok doc => exact ⟨doc, rfl⟩
      | error cause =>
        rw [hfirst] at hout
        cases hout
    obtain ⟨doc, hdoc⟩ := hchange
    refine ⟨hready, hnow', doc :: found, ?_, ?_⟩
    · rw [perform_mapM_cons]
      generalize change.apply.perform desk.remote.store = outcome at hdoc hfound
      obtain ⟨_, t⟩ := outcome
      cases hdoc
      simp only [hfound]
      rfl
    · rw [hdoc]
      rfl

/-- The documents of results that are all opened are those that are opened one by one. -/
theorem mapM_opening_of_opened {found : List (Option StoredDocument)} {docs : List (Option Document)}
    (h : found.map (m.opened now) = docs.map .ok) :
    (found.filterMap id).mapM (m.opening now) = .ok (docs.filterMap id) := by
  induction found generalizing docs with
  | nil =>
    cases docs with
    | nil => rfl
    | cons doc docs => cases h
  | cons stored found ih =>
    cases docs with
    | nil => cases h
    | cons doc docs =>
      obtain ⟨hfirst, hrest⟩ := List.cons.inj h
      cases stored with
      | none =>
        cases hfirst
        have htail := ih hrest
        exact htail
      | some stored =>
        obtain ⟨opened, hopened, rfl⟩ := Except.map_eq_ok.1 hfirst
        exact Except.mapM_eq_ok.2 (.cons hopened (Except.mapM_eq_ok.1 (ih hrest)))

/-- **A bulk operation that makes the changes of its single operations** goes one by one. -/
theorem goesOneByOne_of_makes (h : desk.Ready) {bulk : Op Memory (List Document)}
    {operation target : Value} {calls : List Value}
    (hops : List.Forall₂ (m.Makes desk.logging.ambient.now) ops changes)
    (hbulk : desk.Runs bulk (m.answeredMany desk.logging.ambient.now operation target
        ((changes.mapM Change.apply).perform desk.remote.store).1) calls
      ((changes.mapM Change.apply).perform desk.remote.store).2) :
    GoesOneByOne desk bulk ops := by
  obtain ⟨done, hdone, hbecomes⟩ := hbulk
  constructor
  case accepted =>
    intro outs after hrun houts
    obtain ⟨-, -, found, hfound, rfl⟩ := oneByOne_spec hops h rfl hrun houts
    rw [hfound] at hdone hbecomes
    rw [hdone]
    exact ⟨hbecomes.store, fun docs hdocs => mapM_opening_of_opened hdocs⟩
  case rejected =>
    rintro before op others rfl outs mid hrun houts cause hcause
    have hearlier := (List.forall₂_take_append _ _ _ hops.flip).flip
    have hlater := (List.forall₂_drop_append _ _ _ hops.flip).flip
    rw [← List.take_append_drop before.length changes] at hdone hbecomes
    generalize changes.take before.length = earlier at hearlier hdone hbecomes
    generalize changes.drop before.length = later at hlater hdone hbecomes
    cases hlater with
    | @cons _ change _ rest hop _ =>
      obtain ⟨hready, hnow, found, hfound, -⟩ := oneByOne_spec hearlier h rfl hrun houts
      obtain ⟨_, _, _, after, hafter, -⟩ := hop mid hready hnow
      rw [hafter] at hcause
      have hchange : change.apply.perform mid.remote.store = (.error cause, mid.remote.store) := by
        cases hfirst : (change.apply.perform mid.remote.store).1 with
        | ok doc =>
          rw [hfirst, answered, rejection?_opened] at hcause
          cases hcause
        | error fault =>
          rw [hfirst] at hcause
          cases hcause
          exact Prod.ext hfirst (Change.apply_of_error hfirst)
      have hall : ((earlier ++ change :: rest).mapM Change.apply).perform desk.remote.store =
          (.error cause, mid.remote.store) := by
        rw [List.mapM_append, perform_bind, hfound]
        simp only [perform_bind, perform_mapM_cons, hchange]
      rw [hall] at hdone hbecomes
      rw [hdone]
      exact ⟨hbecomes.store, rfl⟩

/-! ## The bulk operations -/

/-- The single write of an item of a bulk write. -/
def writeOne (m : Model) (w : Writing) (item : Value) : Op Memory (Option Document) := do
  let (id, data) ← pairOf item
  m.write Memory.executor w id data

/-- The removal of the document of an id, if it still exists. -/
def deleteExisting (m : Model) (id : Value) : Op Memory (Option Document) := do
  let desk : Desk Memory ← MonadState.get
  if (m.place? id).any fun p => (desk.remote.store.find p.1 p.2).isSome then
    m.delete Memory.executor id
  else return none

theorem makes_writeOne {w : Writing} {item : Value} {p : Parcel} (h : m.Brings item p) :
    m.Makes now (m.writeOne w item) (p.change w) := by
  intro desk hready hnow
  obtain ⟨id, data, e, hpair, hplace, hstored, hsteady⟩ := h
  obtain ⟨q, -, hruns⟩ := runs_write_steady hready hplace w hstored hsteady
  rw [hnow] at hruns
  exact ⟨_, _, _, Desk.Runs.lift_bind hpair hruns⟩

theorem makes_deleteExisting {id : Value} {p : String × String} (h : m.place? id = some p) :
    m.Makes now (m.deleteExisting id) (.take p.1 p.2) := by
  rintro desk hready rfl
  have hperform : (m.deleteExisting id).perform desk =
      if (desk.remote.store.find p.1 p.2).isSome then (m.delete Memory.executor id).perform desk
      else (.ok none, desk) := by
    rw [deleteExisting, perform_bind]
    simp only [perform_get, h, Option.any_some]
    split <;> rfl
  rw [Change.apply, perform_of, takeAt]
  cases hfind : desk.remote.store.find p.1 p.2 with
  | none =>
    rw [hfind] at hperform
    exact ⟨.null, .null, [], desk, hperform, .refl desk⟩
  | some doc =>
    rw [hfind] at hperform
    obtain ⟨q, -, after, hafter, hbecomes⟩ := runs_delete hready h
    rw [removeAt, hfind] at hafter hbecomes
    exact ⟨_, _, _, after, hperform.trans hafter, hbecomes⟩

theorem makes_create {input built data : Value}
    (hbuilt : m.build now input "create" .null = .ok built) (hstored : stored built = .ok data) :
    m.Makes now (some <$> m.create Memory.executor input .null) (.create m.name data .null) := by
  rintro desk hready rfl
  obtain ⟨fields, rfl⟩ := exists_record_of_build hbuilt
  have hsettled := Value.isSettled_of_stored hstored
  obtain rfl := Value.stored_record hstored
  have hplain : Value.null.isPlain = true := rfl
  have hnull : Value.null.settled = .null := rfl
  obtain ⟨after, hafter, hbecomes⟩ := runs_create hready hbuilt hstored hsettled.1 hplain
  rw [hsettled.settled_eq, hnull] at hafter hbecomes
  refine ⟨"create", .text m.name, _, after, ?_, hbecomes⟩
  rw [perform_map, hafter, Change.apply, perform_of]
  cases (desk.remote.store.createIn m.name _ Value.null).1 <;> rfl

/-- **A bulk write goes one by one**, as long as each item brings steady data for the place of an
id. -/
theorem goesOneByOne_writeMany (h : desk.Ready) (w : Writing) {items : List Value}
    (hitems : ∀ item ∈ items, ∃ p, m.Brings item p) :
    GoesOneByOne desk (m.writeMany Memory.executor w (.list items)) (items.map (m.writeOne w)) := by
  obtain ⟨parcels, hparcels⟩ := exists_forall₂ hitems
  have hsource : (Value.list items).items = .ok items := rfl
  obtain ⟨q, -, hruns⟩ := runs_writeMany h w hsource hparcels
  refine goesOneByOne_of_makes h ?_ hruns
  rw [List.forall₂_map_left_iff, List.forall₂_map_right_iff]
  exact hparcels.imp fun _ _ hbrings => makes_writeOne hbrings

/-- What is built and stored input by input is built and stored as a whole. -/
theorem exists_built_of_forall₂ {inputs data : List Value}
    (h : List.Forall₂ (fun input data => ∃ built, m.build now input "create" .null = .ok built ∧
      stored built = .ok data) inputs data) :
    ∃ built : List Value, inputs.map (fun v => m.schema.check now (m.schema.plain v)) = built.map .ok ∧
      built.mapM stored = .ok data ∧ ∀ v ∈ data, v.IsSettled ∧ ∃ entries, v = .dict entries := by
  induction h with
  | nil => exact ⟨[], rfl, rfl, by simp⟩
  | @cons input v inputs data hv _ ih =>
    obtain ⟨w, hw, hv⟩ := hv
    obtain ⟨built, hbuilt, hdata, hsettled⟩ := ih
    obtain ⟨fields, rfl⟩ := exists_record_of_build hw
    refine ⟨_ :: built, by rw [List.map_cons, List.map_cons, build_eq_ok.1 hw, hbuilt],
      Except.mapM_eq_ok.2 (.cons hv (Except.mapM_eq_ok.1 hdata)),
      List.forall_mem_cons.2 ⟨⟨Value.isSettled_of_stored hv, _, Value.stored_record hv⟩, hsettled⟩⟩

/-- **A bulk creation goes one by one**, as long as each input has a stored form once it is built. -/
theorem goesOneByOne_createMany (h : desk.Ready) {inputs : List Value}
    (hinputs : ∀ input ∈ inputs, ∃ data built,
      m.build desk.logging.ambient.now input "create" .null = .ok built ∧
        stored built = .ok data) :
    GoesOneByOne desk (m.createMany Memory.executor (.list inputs))
      (inputs.map fun input => some <$> m.create Memory.executor input .null) := by
  obtain ⟨data, hdata⟩ := exists_forall₂ hinputs
  obtain ⟨built, hbuilt, hstored, hsettled⟩ := exists_built_of_forall₂ hdata
  have hbulk : m.buildBulk desk.logging.ambient.now (.list inputs) "create_many" .null =
      .ok built := buildBulk_eq_ok.2 ⟨inputs, rfl, hbuilt⟩
  refine goesOneByOne_of_makes h ?_ (runs_createMany h hbulk hstored hsettled)
  rw [List.forall₂_map_left_iff, List.forall₂_map_right_iff]
  exact hdata.imp fun input data ⟨built, hbuilt, hstored⟩ => makes_create hbuilt hstored

/-- **A bulk removal goes one by one**, over the documents that still exist. -/
theorem goesOneByOne_deleteMany (h : desk.Ready) {ids : List Value}
    (hids : ∀ id ∈ ids, (m.place? id).isSome = true) :
    GoesOneByOne desk (m.deleteMany Memory.executor (.list ids)) (ids.map m.deleteExisting) := by
  obtain ⟨places, hplaces⟩ := exists_forall₂ fun id hid => Option.isSome_iff_exists.1 (hids id hid)
  have hsource : (Value.list ids).items = .ok ids := rfl
  obtain ⟨q, -, hruns⟩ := runs_deleteMany h hsource hplaces
  refine goesOneByOne_of_makes h ?_ hruns
  rw [List.forall₂_map_left_iff, List.forall₂_map_right_iff]
  exact hplaces.imp fun _ _ hplace => makes_deleteExisting hplace

/-- **Bulk operations go one by one**: over every store, a bulk write, creation or removal of a model
that has an executor does what its single operations do one after another. The items of a write
bring data to ids that are texts or references, the inputs of a creation fit the schema, and what is
written is steady and has a stored form: then compiling and evaluating it in advance makes no
difference. -/
theorem bulk_operations_go_one_by_one (m : Model) (desk : Desk Memory) (h : desk.Ready) :
    (∀ w items, (∀ item ∈ items, ∃ p, m.Brings item p) →
      GoesOneByOne desk (m.writeMany Memory.executor w (.list items))
        (items.map (m.writeOne w))) ∧
    (∀ inputs, (∀ input ∈ inputs, ∃ data built,
        m.build desk.logging.ambient.now input "create" .null = .ok built ∧
          stored built = .ok data) →
      GoesOneByOne desk (m.createMany Memory.executor (.list inputs))
        (inputs.map fun input => some <$> m.create Memory.executor input .null)) ∧
    ∀ ids, (∀ id ∈ ids, (m.place? id).isSome = true) →
      GoesOneByOne desk (m.deleteMany Memory.executor (.list ids)) (ids.map m.deleteExisting) :=
  ⟨fun w _ => goesOneByOne_writeMany h w, fun _ => goesOneByOne_createMany h,
    fun _ => goesOneByOne_deleteMany h⟩

/-- What three bulk operations come to over `sampleStore`, where `users/8` is not there. -/
theorem bulk_operations_go_one_by_one_sample :
    GoesOneByOne sampleDesk
      (sampleModel.writeMany Memory.executor .update (.list [
        .tuple [.text "7", .dict [(.text "age", .int 41)]],
        .object [("id", .text "8"), ("data", .dict [])],
        .tuple [.ref (documentRef "staff" "7"), .dict [(.text "name", .text "Eve")]]]))
      ([.tuple [.text "7", .dict [(.text "age", .int 41)]],
        .object [("id", .text "8"), ("data", .dict [])],
        .tuple [.ref (documentRef "staff" "7"), .dict [(.text "name", .text "Eve")]]].map
        (sampleModel.writeOne .update)) ∧
    GoesOneByOne sampleDesk
      (sampleModel.createMany Memory.executor (.list [.dict (samplePerson "Eve" (.int 36))]))
      ([.dict (samplePerson "Eve" (.int 36))].map fun input =>
        some <$> sampleModel.create Memory.executor input .null) ∧
    GoesOneByOne sampleDesk (sampleModel.deleteMany Memory.executor (.list [.text "7", .text "7"]))
      ([.text "7", .text "7"].map sampleModel.deleteExisting) := by
  obtain ⟨hwrites, hcreates, hdeletes⟩ :=
    bulk_operations_go_one_by_one sampleModel sampleDesk sampleDesk_ready
  refine ⟨hwrites .update _ ?_, hcreates _ ?_, hdeletes _ (by simp)⟩
  · simp only [List.forall_mem_cons, List.not_mem_nil, false_implies, implies_true, and_true]
    exact ⟨⟨⟨"users", "7", _⟩, _, _, _, rfl, rfl, rfl, Steady.plain rfl⟩,
      ⟨⟨"users", "8", _⟩, _, _, _, rfl, rfl, rfl, Steady.plain rfl⟩,
      ⟨⟨"staff", "7", _⟩, _, _, _, rfl, rfl, rfl, Steady.plain rfl⟩⟩
  · intro input hinput
    rw [List.mem_singleton] at hinput
    subst hinput
    exact ⟨_, _, rfl, rfl⟩

/-! ## Items that make a difference -/

/-- Where a check of the store tells a bulk operation from its single ones, it does not go one by
one. -/
theorem not_goesOneByOne {desk : Desk Memory} {bulk : Op Memory (List Document)}
    {ops : List (Op Memory (Option Document))} (check : Store → Bool)
    (hsingle : ((oneByOne ops).perform desk).1.toOption.all (fun outs =>
      outs.all fun out => (rejection? out).isNone) = true)
    (hafter : check ((oneByOne ops).perform desk).2.remote.store = true)
    (hbulk : check (bulk.perform desk).2.remote.store = false) : ¬ GoesOneByOne desk bulk ops := by
  intro h
  obtain ⟨outs, after, hrun⟩ := exists_oneByOne ops desk
  rw [hrun] at hsingle hafter
  have houts : ∀ out ∈ outs, rejection? out = none := by
    simpa [Except.toOption, List.all_eq_true] using hsingle
  rw [(h.accepted outs after hrun houts).1, hafter] at hbulk
  cases hbulk

/-- The name that the document `users/7` has when it is looked up. -/
def sampleName : Value :=
  .query (.select [.text "data", .text "name"]
    (.query (.get (.query (.ref (.query (.collection (.text "users") none)) (.text "7"))))) none)

/-- Items of a bulk write: a new name for one document, and the name of this one for another. -/
def sampleItems : List Value :=
  [.tuple [.text "7", .dict [(.text "name", .text "Eve")]],
    .tuple [.ref (documentRef "staff" "7"), .dict [(.text "name", sampleName)]]]

/-- A model of notes, which are anything. -/
def noteModel : Model where
  name := "notes"
  schema := { name := "Note", declaration := 0, fields := [({ name := "text" }, .any)] }
  indexes := {}

/-- A desk of `noteModel` without any notes. -/
def noteDesk : Desk Memory where
  remote := { store := { collections := [(.text "notes", [])] } }
  bound := true
  logging := ⟨noteModel.newLog, {}⟩

/-- Two notes, of which the second is no text in any encoding and so has no stored form. -/
def sampleNotes : List Value :=
  [.dict [(.text "text", .text "a")], .dict [(.text "text", .bytes [0xff])]]

/-- The bulk update reads the name before it is changed, and the bulk creation stores no note. -/
theorem bulk_not_one_by_one_sample :
    ¬ GoesOneByOne sampleDesk
      (sampleModel.writeMany Memory.executor .update (.list sampleItems))
      (sampleItems.map (sampleModel.writeOne .update)) ∧
    (∀ input ∈ sampleNotes, ∃ built, noteModel.build 0 input "create" .null = .ok built) ∧
    ¬ GoesOneByOne noteDesk (noteModel.createMany Memory.executor (.list sampleNotes))
      (sampleNotes.map fun input => some <$> noteModel.create Memory.executor input .null) := by
  refine ⟨not_goesOneByOne
      (fun s => (s.find "staff" "7").any fun doc =>
        doc.data.same (.dict (samplePerson "Eve" (.int 40)))) ?_ ?_ ?_, ?_,
    not_goesOneByOne (fun s => (s.find "notes" "101").isSome) ?_ ?_ ?_⟩
  case refine_4 =>
    simp only [sampleNotes, List.forall_mem_cons, List.not_mem_nil, false_implies, implies_true,
      and_true]
    exact ⟨⟨_, rfl⟩, ⟨_, rfl⟩⟩
  all_goals decide +kernel

end DocMapper.Model
