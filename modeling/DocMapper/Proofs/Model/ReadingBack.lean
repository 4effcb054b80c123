import DocMapper.Proofs.Model.Updating
/-!
# Values that are written whole

A creation stores an instance as a whole, and so does a replacement of a document that was read
before. What is stored is the JSON form of the instance, which is checked again whenever it is read,
at whatever the clock says by then. That gives the instance back, except for the seconds of offsets,
which the JSON form of a timestamp leaves out (`Model.writes_read_back_iff`,
`Model.offset_not_read_back_sample`).
-/

namespace DocMapper.Model

open Store FieldType

variable {m : Model} {desk : Desk Memory} {op : Op Memory (Option Document)} {v : Value} {i : String}

/-- The operation gives a document that has a value for its data and is stored under an id, and so
does every later read of the id for as long as the document is stored as it was left. -/
def ReadsBack (m : Model) (desk : Desk Memory) (op : Op Memory (Option Document)) (i : String)
    (v : Value) : Prop :=
  ∃ new calls t, desk.Runs op (.ok (some new)) calls t ∧ new.data.same v = true ∧
    t.find m.name i = some new.stored ∧
    ∀ later : Desk Memory, later.Ready → later.remote.store.find m.name i = some new.stored →
      ∃ found calls', later.Runs (m.get Memory.executor (.text i)) (.ok (some found)) calls'
        later.remote.store ∧ found.data.same v = true

/-- **A value that is stored as a whole is read back exactly if its offsets are whole minutes.** -/
theorem readsBack_iff (hs : m.schema.type.IsStorable) (hfits : Fits {} m.schema.type v)
    {stored : StoredDocument} (hdata : stored.data = v.jsonDump m.schema.type.storing)
    {calls : List Value} {t : Store}
    (hruns : desk.Runs op (m.opened desk.logging.ambient.now (some stored)) calls t)
    (hfind : t.find m.name i = some stored) : m.ReadsBack desk op i v ↔ v.IsMinutely := by
  have hplain : stored.data.isPlain = true := by
    rw [hdata]
    exact (Value.isSettled_of_stored (stored_of_fits hs hfits)).1
  have hiff : ∀ now, (∃ w, m.schema.type.check now {} stored.data = .ok w ∧ w.same v = true) ↔
      v.IsMinutely := by
    intro now
    rw [hdata]
    exact check_jsonDump_same_iff hs hfits
  constructor
  · rintro ⟨new, calls', t', hruns', hsame, -⟩
    obtain ⟨-, hcheck⟩ := check_of_opened hplain (hruns.unique hruns').1
    exact (hiff _).1 ⟨_, hcheck, hsame⟩
  · intro hminutely
    obtain ⟨w, hcheck, hsame⟩ := (hiff desk.logging.ambient.now).2 hminutely
    rw [opened_of_check hplain hcheck] at hruns
    refine ⟨_, _, t, hruns, hsame, hfind, fun later hlater hthere => ?_⟩
    obtain ⟨w', hcheck', hsame'⟩ := (hiff later.logging.ambient.now).2 hminutely
    obtain ⟨q, -, hread⟩ := runs_get hlater (m.place?_text i)
    rw [hthere, opened_of_check hplain hcheck'] at hread
    exact ⟨_, _, hread, hsame'⟩

section Built

variable (hs : m.schema.type.IsStorable) {input operation target : Value}
  (hinput : Sound (Fits {}) m.schema.type input) (h : desk.Ready)
  (hbuilt : m.build desk.logging.ambient.now input operation target = .ok v)

include hs hinput h hbuilt

/-- What a creation takes in under the next id. -/
theorem readsBack_create_iff {ttl : Value} (httl : ttl.isPlain = true)
    (hcollection : desk.remote.store.collections.has (.text m.name) = true)
    (hunique : desk.remote.store.checkUnique m.name (v.jsonDump m.schema.type.storing) none =
      .ok ()) :
    m.ReadsBack desk (some <$> m.create Memory.executor input ttl) desk.remote.store.freshId v ↔
      v.IsMinutely := by
  have hfits := fits_of_sound hs (Schema.sound_plain fun _ => hinput) (build_eq_ok.1 hbuilt)
  obtain ⟨q, t, new, hnew, hruns, hfind, -⟩ :=
    (createsIn_create h (build_eq_ok.2 (build_eq_ok.1 hbuilt)) (stored_of_fits hs hfits)
      httl).created hcollection hunique
  exact readsBack_iff hs hfits (by rw [hnew]) (hruns.map some) hfind

/-- What replaces the data of a document that is there. -/
theorem readsBack_replaceDocument_iff {doc : Document} {old : StoredDocument}
    (hthere : desk.remote.store.find m.name doc.id = some old)
    (hunique : desk.remote.store.checkUnique m.name (v.jsonDump m.schema.type.storing)
      (some doc.id) = .ok ()) :
    m.ReadsBack desk (m.replaceDocument Memory.executor doc input) doc.id v ↔ v.IsMinutely := by
  have hfits := fits_of_sound hs (Schema.sound_plain fun _ => hinput) (build_eq_ok.1 hbuilt)
  obtain ⟨q, hreplace⟩ :=
    runs_replaceDocument h (build_eq_ok.2 (build_eq_ok.1 hbuilt)) (stored_of_fits hs hfits)
  obtain ⟨q, t, new, hnew, hruns, hfind, -⟩ :=
    (writesAt_of_runs hreplace).written old hthere hunique
  exact readsBack_iff hs hfits (by rw [hnew]; rfl) hruns hfind

end Built

/-- **What is created or replaced through a check reads back unchanged**, exactly if the offsets of
its timestamps are whole minutes: in the document that the operation gives and in every later read of
its id, as long as nothing else is written to it. The instances among the input, if any, are ones
whose fields were checked. -/
theorem writes_read_back_iff (m : Model) (hs : m.schema.type.IsStorable) {input : Value}
    (hinput : Sound (Fits {}) m.schema.type input) {desk : Desk Memory} (h : desk.Ready)
    {operation target v : Value}
    (hbuilt : m.build desk.logging.ambient.now input operation target = .ok v) :
    (∀ ttl, ttl.isPlain = true → desk.remote.store.collections.has (.text m.name) = true →
      desk.remote.store.checkUnique m.name (v.jsonDump m.schema.type.storing) none = .ok () →
      (m.ReadsBack desk (some <$> m.create Memory.executor input ttl) desk.remote.store.freshId v ↔
        v.IsMinutely)) ∧
    ∀ doc old, desk.remote.store.find m.name doc.id = some old →
      desk.remote.store.checkUnique m.name (v.jsonDump m.schema.type.storing) (some doc.id) =
        .ok () →
      (m.ReadsBack desk (m.replaceDocument Memory.executor doc input) doc.id v ↔ v.IsMinutely) := by
  refine ⟨fun ttl httl hcollection hunique => ?_, fun doc old hthere hunique => ?_⟩
  · exact readsBack_create_iff hs hinput h hbuilt httl hcollection hunique
  · exact readsBack_replaceDocument_iff hs hinput h hbuilt hthere hunique

/-! ## Visits -/

/-- A model of visits, each at a time and perhaps to a place. -/
def visitModel : Model where
  name := "visits"
  schema :=
    { name := "Visit"
      fields := [({ name := "at" }, .timestamp),
        ({ name := "place", default := .value .null },
          .optional (.record "Place" 1 .ignored [({ name := "city" }, .text)]))] }
  indexes := {}

/-- A time of day at a place with some offset. -/
def visitTime (o : Offset) : Value :=
  .timestamp ⟨⟨2024, 1, 1, by decide⟩, 3, 4, 5, 0, some o, by decide⟩

/-- A place, as an instance of its own. -/
def visitPlace : Value :=
  .record (signatureOf "Place" 1 [({ name := "city" }, .text)]) [("city", "Tashkent")]

/-- The input for a visit. -/
def visitInput (o : Offset) : Value := .object [("at", visitTime o), ("place", visitPlace)]

/-- The visit that is built from it. -/
def visitOf (o : Offset) : Value :=
  .record visitModel.schema.signature [("at", visitTime o), ("place", visitPlace)]

/-- A desk over a collection without visits. -/
def visitDesk : Desk Memory where
  remote := { store := { collections := [(.text "visits", [])] } }
  bound := true
  logging := ⟨visitModel.newLog, {}⟩

theorem visitDesk_ready : visitDesk.Ready := ⟨rfl, _, rfl⟩

theorem visitModel_isStorable : visitModel.schema.type.IsStorable :=
  ⟨by decide, by simp [visitModel], rfl, trivial, trivial, rfl, .inl rfl,
    ⟨by decide, by simp, rfl, trivial, trivial, trivial⟩, trivial⟩

/-- The place among the input has fields that fit. -/
theorem sound_visitInput (o : Offset) :
    Sound (Fits {}) visitModel.schema.type (visitInput o) := by
  refine ⟨fun v _ => trivial, fun v hv => ?_, trivial⟩
  have hplace : v = visitPlace := (Option.some.inj hv).symm
  subst hplace
  exact fun _ => ⟨_, rfl, ⟨"Tashkent", [], rfl, ⟨"Tashkent", rfl, rfl, rfl⟩, rfl⟩, rfl⟩

theorem build_visitInput (o : Offset) :
    visitModel.build visitDesk.logging.ambient.now (visitInput o) .null .null = .ok (visitOf o) :=
  rfl

theorem writes_read_back_iff_sample :
    visitModel.ReadsBack visitDesk
      (some <$> visitModel.create Memory.executor (visitInput .utc) .null)
      visitDesk.remote.store.freshId (visitOf .utc) := by
  refine ((writes_read_back_iff visitModel visitModel_isStorable (sound_visitInput .utc)
    visitDesk_ready (build_visitInput .utc)).1 .null rfl rfl rfl).2 ?_
  exact ⟨fun o ho => by cases ho; rfl, ⟨trivial, trivial⟩, trivial⟩

/-- An offset of half a minute is not stored, so that a time with it is read back as another one. -/
theorem offset_not_read_back_sample :
    visitModel.build visitDesk.logging.ambient.now (visitInput ⟨30000000, false, by decide⟩) .null
      .null = .ok (visitOf ⟨30000000, false, by decide⟩) ∧
    visitDesk.remote.store.indexes.length = 0 ∧
    ¬ visitModel.ReadsBack visitDesk
      (some <$> visitModel.create Memory.executor (visitInput ⟨30000000, false, by decide⟩) .null)
      visitDesk.remote.store.freshId (visitOf ⟨30000000, false, by decide⟩) := by
  have hbuilt := build_visitInput ⟨30000000, false, by decide⟩
  refine ⟨hbuilt, rfl, fun hreads => ?_⟩
  have hminutely := (readsBack_create_iff visitModel_isStorable (sound_visitInput _)
    visitDesk_ready hbuilt rfl rfl rfl).1 hreads
  exact absurd (hminutely.1 _ rfl) (by decide)

end DocMapper.Model
