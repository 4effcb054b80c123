import DocMapper.Http.Client
import DocMapper.Proofs.Execution.Performing
import DocMapper.Proofs.Wire.JsonData
/-!
# Responses that report a failure

A response reports a failure by its status or by errors in its body (`Response.IsFailed`). Every such
response makes the query fail, but the fault tells the status only if the body is one that a failure
can be told from (`Response.Tells`): no JSON at all, or an object whose errors, if it has any, are an
array that begins with an object. Any other body is taken for such an object all the same, and the
query fails with the misuse that this is (`Client.failed_exchange_iff`).
-/

namespace DocMapper

/-- The fault is one of transport. -/
def Fault.IsTransport : Fault → Prop
  | .transport .. => True
  | _ => False

namespace Http

namespace Response

variable {r : Response} {members : Dict Wire} {fault : Fault}

/-- The errors in a body, null if there are none. -/
def errorsIn (members : Dict Wire) : Wire := (members.get? "errors").getD .null

/-- The response reports a failure, by its status or by errors in its body. -/
def IsFailed (r : Response) : Prop :=
  400 ≤ r.status ∨ ∃ (members : Dict Wire) (errors : List Wire), r.json = .ok (.object members) ∧
    members.get? "errors" = some (.array errors) ∧ errors ≠ []

/-- A failure can be told from a body. -/
inductive Tells : Except Fault Wire → Prop
  /-- it is no JSON -/
  | unreadable (cause : Fault) : Tells (.error cause)
  /-- it has no errors -/
  | plain {members : Dict Wire} (h : (errorsIn members).toValue.truthy = false) :
    Tells (.ok (.object members))
  /-- the first of its errors is an object -/
  | listed {members first : Dict Wire} {rest : List Wire}
    (h : errorsIn members = .array (.object first :: rest)) : Tells (.ok (.object members))

/-! ## Reading a response -/

theorem read_unreadable {cause : Fault} (h : r.json = .error cause) :
    r.read = .error (r.unreadable cause) := by
  rw [read, h]
  rfl

theorem read_of_not_object {body : Wire} (h : r.json = .ok body)
    (hbody : ∀ members, body ≠ .object members) : r.read = .error noMember := by
  rw [read, h]
  cases body with
  | object members => exact absurd rfl (hbody members)
  | _ => rfl

theorem read_object (h : r.json = .ok (.object members)) : r.read =
    if 400 ≤ r.status ∨ (errorsIn members).toValue.truthy = true then
      (r.refusal (errorsIn members).toValue).bind .error
    else ((members.get? "resource").getD .null).decode := by
  have hread : r.read = (do
      if 400 ≤ r.status ∨ (errorsIn members).toValue.truthy = true then
        throw (← r.refusal (errorsIn members).toValue)
      ((members.get? "resource").getD .null).decode) := by
    rw [read, h]
    rfl
  rw [hread]
  split
  · cases r.refusal (errorsIn members).toValue <;> rfl
  · rfl

/-! ## Errors in a body -/

/-- The first element of a sequence. -/
theorem element_first (v : Value) (items : List Value) :
    Value.element (v :: items) (.int 0) = .ok v := by
  have hposition : position? (items.length + 1) 0 = some 0 := by
    have hlength : (0 : Int) < (items.length + 1 : Nat) := by omega
    simp only [position?, Int.lt_irrefl, if_false, Int.le_refl, hlength, true_and, if_true]
    rfl
  simp only [Value.element, Value.asPosition, List.length_cons, bind, Except.bind, hposition]
  rfl

/-- A dictionary whose keys are texts has nothing at a position. -/
theorem subscript_of_texts {members : Dict Wire} (h : ∀ e ∈ members, e.1.isText = true) :
    ∃ shown, (Wire.object members).toValue.subscript (.int 0) = .error (.missingKey shown) := by
  have hnone : ∀ entries : Dict Value, (∀ e ∈ entries, e.1.isText = true) →
      Dict.get? entries (.int 0) = none := by
    intro entries hentries
    refine Dict.get?_eq_none_of_forall fun e he => ?_
    obtain ⟨k, v⟩ := e
    cases k with
    | text s => rfl
    | _ => cases hentries _ he
  have hkeys : ∀ members : List (Key × Wire), (∀ e ∈ members, e.1.isText = true) →
      ∀ e ∈ Wire.toEntries members, e.1.isText = true := by
    intro members hmembers
    induction members with
    | nil => simp [Wire.toEntries]
    | cons e rest ih =>
      obtain ⟨hhead, htail⟩ := List.forall_mem_cons.1 hmembers
      exact List.forall_mem_cons.2 ⟨hhead, ih htail⟩
  have hfind : Value.find (Wire.toEntries members) (.int 0) = .ok none := by
    rw [Value.find]
    exact congrArg Except.ok (hnone _ (hkeys members h))
  exact ⟨(Value.int 0).inspect, by rw [Wire.toValue, Value.subscript, hfind]; rfl⟩

/-- An array that begins with an object is reported from. -/
theorem refusal_listed (r : Response) (first : Dict Wire) (rest : List Wire) : ∃ message errors,
    r.refusal (Wire.array (.object first :: rest)).toValue =
      .ok (.transport (.text operation) message .null none (.int r.status) (.list errors) false) := by
  obtain ⟨message, hmessage⟩ : ∃ message,
      description (Wire.array (.object first :: rest)).toValue = .ok message := by
    rw [description, Wire.toValue, Wire.toValues, Value.subscript, element_first]
    exact ⟨_, rfl⟩
  rw [refusal, hmessage]
  exact ⟨_, _, rfl⟩

/-- Without errors the status is reported. -/
theorem refusal_plain (r : Response) {errors : Value} (h : errors.truthy = false) :
    r.refusal errors = .ok (.transport (.text operation) (.text (reason r.status)) .null none
      (.int r.status) (.list []) false) := by
  rw [refusal, h]
  rfl

/-- Errors of any other form cannot be described. -/
theorem description_error {w : Wire} (hw : w.IsJson)
    (hlisted : ∀ first rest, w ≠ .array (.object first :: rest)) :
    ∃ fault, description w.toValue = .error fault ∧ ¬ fault.IsTransport := by
  rw [description]
  cases hw with
  | @array items hitems =>
    cases items with
    | nil => exact ⟨_, rfl, id⟩
    | cons w rest =>
      rw [Wire.toValue, Wire.toValues, Value.subscript, element_first]
      cases w with
      | object first => exact absurd rfl (hlisted first rest)
      | foreign => cases hitems _ List.mem_cons_self
      | _ => exact ⟨_, rfl, id⟩
  | object hkeys hvalues =>
    obtain ⟨shown, hshown⟩ := subscript_of_texts hkeys
    rw [hshown]
    exact ⟨_, rfl, id⟩
  | text s =>
    rw [Wire.toValue, Value.subscript]
    cases s.toList with
    | nil => exact ⟨_, rfl, id⟩
    | cons c rest =>
      rw [List.map_cons, element_first]
      exact ⟨_, rfl, id⟩
  | _ => exact ⟨_, rfl, id⟩

/-- A body is JSON data. -/
theorem isJson_of_json {body : Wire} (h : r.json = .ok body) : body.IsJson := by
  rw [json] at h
  split at h
  · cases h
  · exact Wire.isJson_of_ofJson h

/-- The errors in a body that is JSON data are JSON data. -/
theorem isJson_errorsIn (h : (Wire.object members).IsJson) : (errorsIn members).IsJson := by
  cases h with
  | object hkeys hvalues =>
    rw [errorsIn]
    cases hget : members.get? "errors" with
    | none => exact .null
    | some w =>
      obtain ⟨k, hmem, -⟩ := Dict.exists_mem_of_get? hget
      exact hvalues _ hmem

/-! ## Failures -/

/-- The query fails, with a fault of transport exactly if the body is one that a failure can be told
from, and such a fault tells the status. -/
def Fails (r : Response) : Prop :=
  ∃ fault, r.read = .error fault ∧ (fault.IsTransport ↔ Tells r.json) ∧
    (fault.IsTransport → fault.status = .int r.status)

theorem fails_of_unreadable {cause : Fault} (h : r.json = .error cause) : r.Fails :=
  ⟨_, read_unreadable h, ⟨fun _ => h ▸ .unreadable cause, fun _ => trivial⟩, fun _ => rfl⟩

theorem fails_of_not_object {body : Wire} (h : r.json = .ok body)
    (hbody : ∀ members, body ≠ .object members) : r.Fails := by
  refine ⟨_, read_of_not_object h hbody, ⟨False.elim, fun htells => ?_⟩, False.elim⟩
  rw [h] at htells
  cases htells with
  | plain => exact absurd rfl (hbody _)
  | listed => exact absurd rfl (hbody _)

/-- A response that is refused for its status or its errors. -/
theorem fails_of_refused (h : r.json = .ok (.object members))
    (hrefused : 400 ≤ r.status ∨ (errorsIn members).toValue.truthy = true) : r.Fails := by
  have hread := read_object h
  rw [if_pos hrefused] at hread
  rw [Fails, hread, h]
  cases hplain : (errorsIn members).toValue.truthy with
  | false =>
    rw [refusal_plain r hplain]
    exact ⟨_, rfl, ⟨fun _ => .plain hplain, fun _ => trivial⟩, fun _ => rfl⟩
  | true =>
    by_cases hlisted : ∃ first rest, errorsIn members = .array (.object first :: rest)
    · obtain ⟨first, rest, hlisted⟩ := hlisted
      obtain ⟨message, errors, hrefusal⟩ := refusal_listed r first rest
      rw [hlisted, hrefusal]
      exact ⟨_, rfl, ⟨fun _ => .listed hlisted, fun _ => trivial⟩, fun _ => rfl⟩
    · obtain ⟨fault, hdescription, hfault⟩ := description_error (isJson_errorsIn (isJson_of_json h))
        fun first rest heq => hlisted ⟨first, rest, heq⟩
      refine ⟨fault, ?_, ⟨fun htransport => absurd htransport hfault, fun htells => ?_⟩,
        fun htransport => absurd htransport hfault⟩
      · rw [refusal, hplain, if_pos rfl, hdescription]
        rfl
      · cases htells with
        | plain h => rw [hplain] at h; cases h
        | listed h => exact absurd ⟨_, _, h⟩ hlisted

/-- Errors in an array that is not empty count. -/
theorem IsFailed.refused (hfailed : r.IsFailed) (h : r.json = .ok (.object members)) :
    400 ≤ r.status ∨ (errorsIn members).toValue.truthy = true := by
  refine hfailed.imp id ?_
  rintro ⟨members', errors, hjson, herrors, hne⟩
  cases h.symm.trans hjson
  cases errors with
  | nil => exact absurd rfl hne
  | cons w rest =>
    rw [errorsIn, herrors]
    rfl

/-- **A response makes the query fail, or it reports no failure and its result is decoded.** -/
theorem fails_or_decoded (r : Response) : r.Fails ∨ ¬ r.IsFailed ∧ ∃ w : Wire, r.read = w.decode := by
  cases hjson : r.json with
  | error cause => exact .inl (fails_of_unreadable hjson)
  | ok body =>
    by_cases hobject : ∃ members, body = .object members
    · obtain ⟨members, rfl⟩ := hobject
      by_cases hrefused : 400 ≤ r.status ∨ (errorsIn members).toValue.truthy = true
      · exact .inl (fails_of_refused hjson hrefused)
      · have hread := read_object hjson
        rw [if_neg hrefused] at hread
        exact .inr ⟨fun hfailed => hrefused (hfailed.refused hjson), _, hread⟩
    · exact .inl (fails_of_not_object hjson fun members heq => hobject ⟨members, heq⟩)

end Response

namespace Client

variable {c : Client} {e options : Value} {line line' : Line} {r : Response}

/-- A query is run by reading the response to it. -/
theorem perform_run (hsend : (c.send e options).perform line = (.ok r, line')) :
    (c.run e options).perform line = (r.read, line') := by
  rw [run, Action.perform_bind_ok hsend]
  rfl

/-- With metrics it is the same reading. -/
theorem perform_runWithMetrics (hsend : (c.send e options).perform line = (.ok r, line')) :
    (c.runWithMetrics e options).perform line = (r.read.map fun v => (v, r.metrics), line') := by
  rw [runWithMetrics, Action.perform_bind_ok hsend, Action.perform_bind]
  cases r.read <;> rfl

/-- **Every failed exchange fails the query**, run alone or for its metrics. The fault is one of
transport, and then tells the status, exactly if the body is one that a failure can be told from. The
other faults that escape from a response come from a body of which that is not so, or from the
decoding of a result. -/
theorem failed_exchange_iff (hsend : (c.send e options).perform line = (.ok r, line')) :
    (r.IsFailed → ∃ fault, (c.run e options).perform line = (.error fault, line') ∧
      (c.runWithMetrics e options).perform line = (.error fault, line') ∧
      (fault.IsTransport ↔ Response.Tells r.json) ∧
      (fault.IsTransport → fault.status = .int r.status)) ∧
    ∀ fault, (c.run e options).perform line = (.error fault, line') ∨
        (c.runWithMetrics e options).perform line = (.error fault, line') →
      fault.IsTransport ∧ fault.status = .int r.status ∨ ¬ Response.Tells r.json ∨
        ¬ r.IsFailed ∧ Wire.IsDecodingFault fault := by
  rw [perform_run hsend, perform_runWithMetrics hsend]
  refine ⟨fun hfailed => ?_, fun fault hfault => ?_⟩
  · obtain ⟨fault, hread, htells, hstatus⟩ :=
      r.fails_or_decoded.resolve_right fun hdecoded => hdecoded.1 hfailed
    rw [hread]
    exact ⟨fault, rfl, rfl, htells, hstatus⟩
  · have hread : r.read = .error fault := by
      rcases hfault with h | h
      · exact congrArg Prod.fst h
      · cases hread : r.read with
        | error fault' => rw [hread] at h; cases h; rfl
        | ok v => rw [hread] at h; cases h
    rcases r.fails_or_decoded with ⟨fault', hfails, htells, hstatus⟩ | ⟨hfailed, w, hdecode⟩
    · cases hread.symm.trans hfails
      by_cases htransport : fault.IsTransport
      · exact .inl ⟨htransport, hstatus htransport⟩
      · exact .inr (.inl (mt htells.2 htransport))
    · exact .inr (.inr ⟨hfailed, w.isDecoded_decode fault (hdecode.symm.trans hread)⟩)

/-- A client to run queries with, and a response to them. -/
def sampleClient : Client where
  secret := "s3cret"
  endpoint := "https://db.test/"
  timeout := .int 60
  debug := .bool false

def sampleResponse (status : Int) (body : String) : Response where
  status := status
  body := body.toUTF8.toList

/-- Whether the response to a query arrives as it is. -/
def arrives (r : Response) : Bool :=
  match (sampleClient.send (.query (.var "x")) .null).perform { replies := [.response r] } with
  | (.ok r', _) => r'.status = r.status ∧ r'.body = r.body
  | _ => false

theorem exists_sent {r : Response} (h : arrives r = true) : ∃ r' line',
    (sampleClient.send (.query (.var "x")) .null).perform { replies := [.response r] } =
      (.ok r', line') ∧ r'.status = r.status ∧ r'.json = r.json := by
  unfold arrives at h
  split at h
  · rename_i r' line' hsend
    obtain ⟨hstatus, hbody⟩ := of_decide_eq_true h
    exact ⟨r', line', hsend, hstatus, by rw [Response.json, Response.json, hbody]⟩
  · cases h

/-- Whether the body of a response is a JSON text. -/
def saysText (r : Response) : Bool :=
  match r.json with
  | .ok (.text _) => true
  | _ => false

theorem exists_of_saysText {r : Response} (h : saysText r = true) :
    ∃ s, r.json = .ok (.text s) := by
  unfold saysText at h
  split at h
  · exact ⟨_, ‹_›⟩
  · cases h

/-- A page that is no JSON tells the status, and a body that is a JSON text does not. -/
theorem failed_exchange_iff_sample :
    (∃ fault line', (sampleClient.run (.query (.var "x")) .null).perform
        { replies := [.response (sampleResponse 502 "<html>")] } = (.error fault, line') ∧
      fault.status = .int 502) ∧
    ∃ fault line', (sampleClient.run (.query (.var "x")) .null).perform
        { replies := [.response (sampleResponse 502 "\"Bad Gateway\"")] } = (.error fault, line') ∧
      ¬ fault.IsTransport := by
  refine ⟨?_, ?_⟩
  · obtain ⟨r, line', hsend, hstatus, hjson⟩ := exists_sent
      (r := sampleResponse 502 "<html>") (by decide +kernel)
    obtain ⟨fault, hrun, -, htells, hfault⟩ :=
      (failed_exchange_iff hsend).1 (.inl (by rw [hstatus]; decide))
    have hpage : (sampleResponse 502 "<html>").json.toBool = false := by decide +kernel
    rw [hstatus] at hfault
    refine ⟨fault, line', hrun, hfault (htells.2 ?_)⟩
    rw [hjson]
    cases hbody : (sampleResponse 502 "<html>").json with
    | error cause => exact .unreadable cause
    | ok body => rw [hbody] at hpage; cases hpage
  · obtain ⟨r, line', hsend, hstatus, hjson⟩ := exists_sent
      (r := sampleResponse 502 "\"Bad Gateway\"") (by decide +kernel)
    obtain ⟨fault, hrun, -, htells, -⟩ :=
      (failed_exchange_iff hsend).1 (.inl (by rw [hstatus]; decide))
    have htext : saysText (sampleResponse 502 "\"Bad Gateway\"") = true := by decide +kernel
    obtain ⟨s, hread⟩ := exists_of_saysText htext
    refine ⟨fault, line', hrun, mt htells.1 fun hbody => ?_⟩
    rw [hjson, hread] at hbody
    cases hbody

end Client

end Http

end DocMapper
