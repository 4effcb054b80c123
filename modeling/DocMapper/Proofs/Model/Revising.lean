import DocMapper.Proofs.Execution.Performing
import DocMapper.Proofs.Schema.Revising
import DocMapper.Session.Operations
/-!
# Candidates of documents

A candidate is the data of a document with changes laid over it, checked anew. Making one sends
nothing and changes nothing. It differs from the data of the document only where the changes reach,
and if they are refused, then for flaws in members that they name
(`Session.candidate_touches_only_changes`).

There is one more way to fail: what a change gives its field may be of a kind that cannot be held
against a limit of the field.
-/

namespace DocMapper

open FieldType

namespace Model

variable {m : Model} {doc : Document} {changes : Dict Value} {now : Int}

/-- A document of a model: it was built from what is stored. Instances inside the stored data, if
there are any, are such as a check leaves them. -/
def IsDocument (m : Model) (doc : Document) : Prop :=
  (∃ now raw, m.buildDocument now raw = .ok doc) ∧
    (doc.stored.data.isInstance m.schema.signature = false →
      Sound (Fits {}) m.schema.type doc.stored.data)

theorem IsDocument.fits (hs : m.schema.type.IsStorable) (h : m.IsDocument doc) :
    Fits {} m.schema.type doc.data := by
  obtain ⟨⟨now, raw, hbuilt⟩, hsound⟩ := h
  obtain ⟨stored, -, hdata⟩ := Except.bind_eq_ok.1 hbuilt
  obtain ⟨data, hbuild, hdoc⟩ := Except.bind_eq_ok.1 hdata
  cases hdoc
  exact fits_of_sound hs (Schema.sound_plain hsound) (build_eq_ok.1 hbuild)

/-- A candidate is what is read of the data of the document with the changes laid over it. -/
theorem candidate_eq {held : List (String × Value)}
    (hdata : doc.data = .record m.schema.signature held) :
    m.candidate now doc (.dict changes) =
      Schema.concluded "build_update" ("parse:" ++ m.schema.name) (m.aim (.text doc.id))
        (m.schema.type.check now {}
          (.dict (Value.mergeEntries (Value.dumpFields held) changes))) := by
  have hmerged : doc.merged (.dict changes) =
      .ok (.dict (Value.mergeEntries (Value.dumpFields held) changes)) := by
    rw [Document.merged, hdata, Value.dump]
    rfl
  rw [candidate, hmerged]
  rfl

end Model

namespace Session

/-- Making a candidate is no action: it leaves the session as it is. -/
theorem perform_build_update {s : Session} {handle : String} {number : Nat} {doc : Document}
    {mem : Member} (hhandle : s.document handle = .ok (number, doc))
    (hmember : s.member number = .ok mem) {call : Call}
    (hname : call.name ∈ ["build_update", "build_update_sync"]) {given : Value}
    (hdata : call.only "data" = .ok given) :
    (callDocument handle call).perform s =
      ((mem.model.candidate s.ambient.now doc given).map Answer.value, s) := by
  have hcandidate : Action.perform (do
      return Answer.value (← mem.model.candidate s.ambient.now doc (← call.only "data"))) s =
        ((mem.model.candidate s.ambient.now doc given).map Answer.value, s) := by
    rw [hdata, Action.perform_bind_ok (Action.perform_liftM ..), bind_pure_comp,
      Action.perform_map, Action.perform_liftM]
  rw [callDocument, Action.perform_bind_ok (Action.perform_get s),
    Action.perform_bind_ok (by rw [Action.perform_liftM, hhandle]),
    Action.perform_bind_ok (by rw [Action.perform_liftM, hmember])]
  rcases List.mem_cons.1 hname with hname | hname
  · rw [hname]
    exact hcandidate
  · rw [List.mem_singleton.1 hname]
    exact hcandidate

/-- **A candidate touches only what its changes name.** Making it leaves the session as it is, so
nothing is sent and the document keeps its data. What comes of it is the data with the changes laid
over it: a field that they do not name is as it was, at every depth that they reach. It cannot be
checked exactly if what one of them gives its field cannot be held against the limits of the field.
Otherwise it is refused, if at all, for flaws in members that they name. -/
theorem candidate_touches_only_changes (s : Session) {handle : String} {number : Nat}
    {doc : Document} {mem : Member} (hhandle : s.document handle = .ok (number, doc))
    (hmember : s.member number = .ok mem) (hs : mem.model.schema.type.IsStorable)
    (hdoc : mem.model.IsDocument doc) {changes : Dict Value}
    (hchanges : (Value.dict changes).WellKeyed) {call : Call}
    (hname : call.name ∈ ["build_update", "build_update_sync"])
    (hdata : call.only "data" = .ok (.dict changes)) :
    let m := mem.model
    let outcome := m.candidate s.ambient.now doc (.dict changes)
    (callDocument handle call).perform s = (outcome.map Answer.value, s) ∧
    (∀ c, outcome = .ok c →
      RevisedTo s.ambient.now {} m.schema.type doc.data changes c) ∧
    (outcome = .error (.misuse .wrongKind) ↔ ∃ held, doc.data = .record m.schema.signature held ∧
      Unheld s.ambient.now m.schema.fields held changes) ∧
    ∀ fault, outcome = .error fault → fault ≠ .misuse .wrongKind → ∃ flaws : List Flaw,
      fault = .invalid "build_update" (flaws.map Flaw.toNamedIssue) (m.aim (.text doc.id)) ∧
      ∀ flaw ∈ flaws, flaw.InMember changes := by
  intro m outcome
  have hfits := hdoc.fits hs
  obtain ⟨held, hheld, hfields, -⟩ := id hfits
  obtain ⟨hd, -⟩ := Value.wellKeyed_dict.1 hchanges
  have houtcome : outcome = _ := Model.candidate_eq hheld
  refine ⟨perform_build_update hhandle hmember hname hdata, fun c hc => ?_, ?_,
    fun fault hfault hother => ?_⟩
  · refine revisedTo_of_check hs hchanges hfits ?_
    rw [houtcome, Schema.concluded, Except.mapError_eq_ok] at hc
    rw [hheld, Value.dump, Value.mergeAt_dict]
    exact hc
  · rw [houtcome, Schema.concluded_eq_misuse, Schema.type,
      check_merged_eq_incomparable hs hfields hd]
    constructor
    · exact fun h => ⟨held, hheld, h⟩
    · rintro ⟨held', hheld', h⟩
      cases hheld.symm.trans hheld'
      exact h
  · rw [houtcome] at hfault
    obtain ⟨rfl, -⟩ := (Schema.concluded_eq_error hfault).resolve_left fun h => hother h.1
    exact ⟨_, rfl, inMember_of_flaw hs hfields hd⟩

/-! ## A document with an instance inside -/

/-- Residents with homes, and notes of which a limit is asked that no text can be held against. -/
def residentModel : Model where
  name := "residents"
  schema :=
    { name := "Resident"
      fields := [({ name := "name" }, .text),
        ({ name := "note", default := .value .null, limits := { atLeast := some (.int 1) } },
          .optional .text),
        ({ name := "home" }, .record "Home" 0 .ignored [({ name := "city" }, .text),
          ({ name := "zip", default := .value .null }, .optional .text)])] }
  indexes := {}

/-- The data of a resident, as the model reads it. -/
def residentData (zip : Value) : Value :=
  .record residentModel.schema.signature [("name", "Ada"), ("note", .null),
    ("home", .record (signatureOf "Home" 0 [({ name := "city" }, .text),
      ({ name := "zip", default := .value .null }, .optional .text)])
        [("city", "Tashkent"), ("zip", zip)])]

/-- A stored resident. -/
def resident : Document where
  stored :=
    { ref := ⟨"1", some ⟨"residents", none, none⟩, none⟩
      ts := 1
      data := .object [("name", "Ada"), ("home", .object [("city", "Tashkent")])] }
  data := residentData .null

/-- A session in which a resident is kept. -/
def residentSession : Session where
  members := [{ attached := { model := residentModel, log := residentModel.newLog }
                relations := {} }]
  names := [(.text "residents", 0)]
  remote := .memory {}
  ambient := {}
  keptDocuments := [("ada", 0, resident)]

theorem residentModel_isStorable : residentModel.schema.type.IsStorable := by
  refine ⟨by decide, by simp [residentModel], rfl, trivial, trivial, rfl, Or.inl rfl, trivial, rfl,
    trivial, ⟨by decide, by simp, rfl, trivial, trivial, rfl, Or.inl rfl, trivial, trivial⟩, trivial⟩

theorem isDocument_resident : residentModel.IsDocument resident :=
  ⟨⟨0, resident.stored.toValue, rfl⟩, fun _ => sound_of_isPlain residentModel_isStorable rfl⟩

/-- A new zip. -/
def newZip : Dict Value := [(.text "home", .dict [(.text "zip", "100000")])]

/-- A new zip leaves the name and the city alone, and a home that is none is refused as the home. -/
theorem candidate_touches_only_changes_sample :
    (callDocument "ada" ⟨"build_update", [.dict newZip], []⟩).perform residentSession =
      (.ok (.value (residentData "100000")), residentSession) ∧
    RevisedTo 0 {} residentModel.schema.type (residentData .null) newZip (residentData "100000") ∧
    ∃ flaws : List Flaw, residentModel.candidate 0 resident (.dict [(.text "home", .int 5)]) =
        .error (.invalid "build_update" (flaws.map Flaw.toNamedIssue) "1") ∧
      ∀ flaw ∈ flaws, flaw.InMember [(.text "home", .int 5)] := by
  have hzip : (Value.dict newZip).WellKeyed := by
    simp [newZip, Value.WellKeyed, Value.AreWellKeyedEntries, Dict.Distinct]
  have hhome : (Value.dict [(.text "home", .int 5)]).WellKeyed := by
    simp [Value.WellKeyed, Value.AreWellKeyedEntries, Dict.Distinct]
  have hhandle : residentSession.document "ada" = .ok (0, resident) := rfl
  have hgiven : ∀ name changes,
      Call.only ⟨name, [.dict changes], []⟩ "data" = .ok (.dict changes) := fun _ _ => rfl
  obtain ⟨hperform, hrevised, -⟩ := candidate_touches_only_changes residentSession hhandle rfl
    residentModel_isStorable isDocument_resident hzip (by simp) (hgiven "build_update" newZip)
  obtain ⟨-, -, -, hrefused⟩ := candidate_touches_only_changes residentSession hhandle rfl
    residentModel_isStorable isDocument_resident hhome (by simp) (hgiven "build_update_sync" _)
  obtain ⟨flaws, hfault, hflaws⟩ := hrefused _ rfl fun h => by cases h
  exact ⟨hperform, hrevised _ rfl, flaws, congrArg Except.error hfault, hflaws⟩

/-- A note cannot be held against its limit, which is no refusal of the note. -/
theorem candidate_unheld_sample :
    residentModel.schema.type.IsStorable ∧ residentModel.IsDocument resident ∧
    (callDocument "ada" ⟨"build_update", [.object [("note", "vip")]], []⟩).perform residentSession =
      (.error (.misuse .wrongKind), residentSession) :=
  ⟨residentModel_isStorable, isDocument_resident, rfl⟩

end Session

end DocMapper
