import DocMapper.Proofs.Model.Identity
import DocMapper.Proofs.Model.ReadingBack
import DocMapper.Proofs.Schema.Dated
/-!
# Reads that repeat

A read checks what is stored, at whatever the clock says by then, and a field that is left out may
take its default from the clock. So two reads of one id with no write to it between them need not come
to the same data. They do so if the clock has not moved, or if what is stored gives all such fields
(`FieldType.Dated`), and in no other case (`Model.reads_repeat`).

What is stored as a whole value gives them all. A replacement with other data may leave some out, and
then each read fills them in anew (`Model.profile_reads_differ`).
-/

namespace DocMapper.Model

open Store FieldType

/-- A read of an id, as a deed. -/
def reading (m : Model) (place : Workplace) (id : Value) : Deed := .act m place (.get id)

/-- What the clock says at a workplace. -/
def Workplace.now (place : Workplace) : Int := place.logging.ambient.now

/-- The document that a read comes to, if it comes to one. -/
def Deed.found? (deed : Deed) (memory : Memory) : Option Document :=
  (deed.perform memory).1.toOption.bind List.head?

variable {m : Model} {place place' : Workplace} {memory memory' : Memory} {id v : Value} {c i : String}
  {now later : Int} {doc first second : Document} {stored : StoredDocument}

/-! ## Single reads -/

/-- A read of an id opens the document of its place and leaves the store as it is. -/
theorem perform_reading (hid : m.place? id = some (c, i)) (hbound : place.bound = true) :
    ((m.reading place id).perform memory).1 =
        (m.opened place.now (memory.store.find c i)).map Option.toList ∧
      ((m.reading place id).perform memory).2.store = memory.store := by
  obtain ⟨q, -, hruns⟩ := runs_get (place.ready memory hbound) hid
  obtain ⟨desk, hperform, hdesk⟩ := hruns.map Option.toList
  have hdeed : (m.reading place id).perform memory =
      ((m.opened place.now (memory.store.find c i)).map Option.toList, desk.remote) := by
    simp only [reading, Deed.perform, Act.op, hperform]
    rfl
  rw [hdeed]
  exact ⟨rfl, hdesk.store⟩

/-- **What a read finds** is stored at its place, and its data is what a check makes of it. -/
theorem found?_reading (hid : m.place? id = some (c, i)) (hbound : place.bound = true) :
    (m.reading place id).found? memory = some doc ↔ memory.store.find c i = some doc.stored ∧
      m.schema.type.check place.now {} (m.schema.plain doc.stored.data) = .ok doc.data := by
  rw [Deed.found?, (perform_reading hid hbound).1]
  constructor
  · intro hfound
    cases hfind : memory.store.find c i with
    | none =>
      rw [hfind] at hfound
      cases hfound
    | some stored =>
      rw [hfind, opened, opening] at hfound
      cases hbuild : m.build place.now stored.data "build_doc" (.text stored.ref.path) with
      | error fault =>
        rw [hbuild] at hfound
        cases hfound
      | ok data =>
        rw [hbuild] at hfound
        cases hfound
        exact ⟨rfl, build_eq_ok.1 hbuild⟩
  · rintro ⟨hfind, hcheck⟩
    rw [hfind, opened, opening, build_eq_ok.2 hcheck]
    rfl

/-! ## Reads with something between them -/

/-- What is done between a read and the next one leaves the place as it is. -/
theorem find_eq_of_untouched {deeds deeds' : List Deed}
    (h : Untouched c i (after deeds).store (after deeds').store) :
    (after deeds').store.find c i = (after deeds).store.find c i := by
  obtain ⟨history, hannals⟩ := exists_annals deeds
  obtain ⟨moves, hmoves, hothers⟩ := h
  exact hannals.moves.find_eq hmoves hothers

/-- A read touches no document. -/
theorem untouched_reading (hid : m.place? id = some (c, i)) (hbound : place.bound = true)
    {deeds : List Deed} {c' i' : String} : Untouched c' i' (after deeds).store
      (after (deeds ++ [m.reading place id])).store := by
  refine ⟨[], ?_, by simp⟩
  rw [after_append, (perform_reading hid hbound).2]
  exact .nil

/-- Whole values that were stored are read alike at any two times. -/
theorem eq_of_whole (hs : m.schema.type.IsStorable) (hfits : Fits {} m.schema.type v)
    (hdata : stored.data = v.jsonDump m.schema.type.storing) {w w' : Value}
    (h : m.schema.type.check now {} (m.schema.plain stored.data) = .ok w)
    (h' : m.schema.type.check later {} (m.schema.plain stored.data) = .ok w') : w = w' := by
  have hplain : stored.data.isPlain = true := by
    rw [hdata]
    exact (Value.isSettled_of_stored (stored_of_fits hs hfits)).1
  rw [plain_of_isPlain hplain, hdata] at h h'
  rw [eq_reread_of_check hs hfits h, eq_reread_of_check hs hfits h']

/-- **When reads repeat.** After any deeds over an empty store, an id is read, and after any more deeds
that do not touch its document it is read again. Both reads come to the same stored document. Its data
comes out the same exactly if the clock says the same at both, or if what is stored gives every field
that is taken from the clock. It does so in a schema without such fields, and so does a whole value
that was stored. -/
theorem reads_repeat (m : Model) (hu : m.schema.type.Unaliased) (hid : m.place? id = some (c, i))
    (deeds between : List Deed) (hbound : place.bound = true) (hbound' : place'.bound = true)
    (hfirst : (m.reading place id).found? (after deeds) = some first)
    (hbetween : Untouched c i (after (deeds ++ [m.reading place id])).store
      (after (deeds ++ [m.reading place id] ++ between)).store)
    (hsecond : (m.reading place' id).found? (after (deeds ++ [m.reading place id] ++ between)) =
      some second) :
    second.stored = first.stored ∧
    ((place.now = place'.now ∨ Dated m.schema.type (m.schema.plain first.stored.data)) →
      second.data = first.data) ∧
    (second.data.same first.data = true →
      place.now = place'.now ∨ Dated m.schema.type (m.schema.plain first.stored.data)) ∧
    (m.schema.type.Clockless → second.data = first.data) ∧
    (m.schema.type.IsStorable → ∀ v, Fits {} m.schema.type v →
      first.stored.data = v.jsonDump m.schema.type.storing → second.data = first.data) := by
  obtain ⟨hfind, hcheck⟩ := (found?_reading hid hbound).1 hfirst
  obtain ⟨hfind', hcheck'⟩ := (found?_reading hid hbound').1 hsecond
  have hstored : second.stored = first.stored := by
    rw [find_eq_of_untouched hbetween, after_append, (perform_reading hid hbound).2, hfind] at hfind'
    exact (Option.some.inj hfind').symm
  rw [hstored] at hcheck'
  have hdated : Dated m.schema.type (m.schema.plain first.stored.data) →
      second.data = first.data := fun h => eq_of_dated _ h hcheck' hcheck
  refine ⟨hstored, ?_, fun hsame => ?_, fun h => hdated (dated_of_clockless _ h _),
    fun hs v hfits hdata => eq_of_whole hs hfits hdata hcheck' hcheck⟩
  · rintro (hnow | h)
    · rw [hnow] at hcheck
      exact Except.ok.inj (hcheck'.symm.trans hcheck)
    · exact hdated h
  · by_cases hnow : place.now = place'.now
    · exact Or.inl hnow
    · exact Or.inr (dated_of_same (Ne.symm hnow) _ hu hcheck' hcheck hsame)

/-! ## Profiles -/

/-- The model of profiles, which have a handle and the bookkeeping block. -/
def profiles : Model where
  name := "profiles"
  schema := Schema.withMeta { name := "Profile", fields := [({ name := "handle" }, .text)] }
  indexes := {}

theorem unaliased_profiles : profiles.schema.type.Unaliased := by
  simp [profiles, Schema.withMeta, Schema.type, Schema.documentMeta, putFields, putField, Unaliased,
    AreUnaliased, Field.member]

/-- Where profiles are kept, at some reading of the clock. -/
def profilePlace (now : Int) : Workplace := ⟨true, ⟨profiles.newLog, { now := now }⟩, ⟨_, rfl⟩⟩

/-- The data of a profile without its bookkeeping block. -/
def bareProfile : Value := .dict [(.text "handle", .text "abc")]

/-- Profiles are set up, and one of them is created. -/
def profileDeeds : List Deed :=
  [.setUp ⟨Setup.newLog false, {}⟩ [{ model := profiles, log := profiles.newLog }] false true,
    .act profiles (profilePlace 0) (.create bareProfile .null)]

/-- The profile is replaced by data without the bookkeeping block. -/
def bareReplacement : Deed :=
  .act profiles (profilePlace 0) (.write .replace (.text "101") bareProfile)

/-- A read of the profile. -/
def profileReading (now : Int) : Deed := profiles.reading (profilePlace now) (.text "101")

/-- After some deeds, the profile is read at one time and, with some more deeds between, at another
one. -/
def AreRead (deeds between : List Deed) (now later : Int) (first second : Document) : Prop :=
  (profileReading now).found? (after deeds) = some first ∧
    (profileReading later).found? (after (deeds ++ [profileReading now] ++ between)) = some second

/-- Two reads of the profile, and whether they come to the same data. -/
theorem exists_areRead {deeds between : List Deed} {same : Bool}
    (h : ((profileReading now).found? (after deeds)).bind (fun first =>
      ((profileReading later).found? (after (deeds ++ [profileReading now] ++ between))).map
        fun second => second.data.same first.data) = some same) :
    ∃ first second, AreRead deeds between now later first second ∧
      second.data.same first.data = same := by
  obtain ⟨first, hfirst, hsecond⟩ := Option.bind_eq_some_iff.1 h
  obtain ⟨second, hsecond, hsame⟩ := Option.map_eq_some_iff.1 hsecond
  exact ⟨first, second, ⟨hfirst, hsecond⟩, hsame⟩

/-- A profile that was created reads the same at different times. -/
theorem reads_repeat_sample : ∃ first second,
    AreRead profileDeeds [profileReading 70] 0 5000 first second ∧
      Dated profiles.schema.type (profiles.schema.plain first.stored.data) ∧
      second.data = first.data := by
  have hreads : ∃ first second, AreRead profileDeeds [profileReading 70] 0 5000 first second ∧
      second.data.same first.data = true := exists_areRead (by decide +kernel)
  obtain ⟨first, second, ⟨hfirst, hsecond⟩, hsame⟩ := hreads
  obtain ⟨-, hequal, hdated, -⟩ := reads_repeat profiles unaliased_profiles
    (profiles.place?_text "101") profileDeeds [profileReading 70] rfl rfl hfirst
    (untouched_reading (profiles.place?_text "101") rfl) hsecond
  have hdated := hdated hsame
  exact ⟨first, second, ⟨hfirst, hsecond⟩, hdated.resolve_left (by decide), hequal hdated⟩

/-- **A profile that was replaced without its bookkeeping block** reads differently at different
times, with nothing done between the reads. -/
theorem profile_reads_differ : profiles.schema.type.Unaliased ∧ ∃ first second,
    AreRead (profileDeeds ++ [bareReplacement]) [] 0 5000 first second ∧
      second.data.same first.data = false :=
  ⟨unaliased_profiles, exists_areRead (by decide +kernel)⟩

end DocMapper.Model
