import DocMapper.Execution.Remote
import DocMapper.Proofs.Execution.Running
import DocMapper.Proofs.Http.Failing
/-!
# The modes of a run

A run of a query raises its failure or captures it, and measures metrics or not. The four modes agree
(`Exchange.modes_agree`): for one reply of the executor they come to one value or to one fault, and
their notes in the log are those of `Exchange.IsNoted`. There is one difference. The fault that is
raised is chained to its cause, and the one that is captured is not, nor is it when it is taken out
of the outcome.

The fault of a run hands on the status and the errors of its cause
(`Exchange.failure_carries_iff`), except that a cause which lists what is wrong with a structure has
a function in the place of errors (`Fault.TellsFlaws`).
-/

namespace DocMapper

open Action

variable {σ : Type}

/-- The fault without a link to its cause. -/
def Fault.unchained : Fault → Fault
  | .transport operation message target cause status errors _ =>
    .transport operation message target cause status errors false
  | fault => fault

/-- The status and the errors that a transport fault reports; any other fault reports none. -/
def Fault.report : Fault → Value × Value
  | .transport _ _ _ _ status errors _ => (status, errors)
  | _ => (.null, .list [])

/-- The query has one reply, whether it is run alone or for its metrics too. -/
def Executor.RepliesAlike (ex : Executor σ) (q : Query) (options : Value) (s : σ)
    (out : Except Fault Value) : Prop :=
  ((ex.query q options).perform s).1 = out ∧
    ∃ metrics, ((ex.queryWithMetrics q options).perform s).1 = out.map fun v => (v, metrics)

namespace Exchange

variable {desk : Desk σ} {ex : Executor σ} {x y : Exchange} {owner : String} {q : Query}
  {out : Except Fault Value} {reply : Except Fault (Value × Dict Value)} {remote : σ}

/-! ## One run -/

/-- **The run that raises** comes to the value of the reply, or fails with the failure of the run. -/
theorem perform_run {base : Dict Value} (hbound : desk.bound = true)
    (hbase : desk.logging.log.base = .dict base) (hq : q.Sendable) (owner : String)
    (hreply : (x.reply ex q).perform desk.remote = (reply, remote)) :
    ∃ console, (x.run ex owner q).perform desk = ((reply.map Prod.fst).mapError x.failure,
      desk.after remote (x.recorded desk.logging base q reply) console) := by
  obtain ⟨console, hexchange⟩ := perform_exchange hbound hbase hq owner hreply
  refine ⟨console, ?_⟩
  rw [run, perform_bind_ok hexchange]
  cases reply <;> rfl

/-- The outcome of a run that is captured. -/
def outcome (x : Exchange) : Except Fault (Value × Dict Value) → Outcome
  | .ok (v, metrics) => { value := v, metrics := .dict metrics }
  | .error cause => { error := some (x.failure cause) }

/-- **The run that captures** comes to an outcome. -/
theorem perform_capture {base : Dict Value} (hbound : desk.bound = true)
    (hbase : desk.logging.log.base = .dict base) (hq : q.Sendable) (owner : String)
    (hreply : (x.reply ex q).perform desk.remote = (reply, remote)) :
    ∃ console, (x.capture ex owner q).perform desk = (.ok (x.outcome reply),
      desk.after remote (x.recorded desk.logging base q reply) console) := by
  obtain ⟨console, hexchange⟩ := perform_exchange hbound hbase hq owner hreply
  refine ⟨console, ?_⟩
  rw [capture, perform_bind_ok hexchange]
  cases reply <;> rfl

theorem outcome_unwrap (x : Exchange) (reply : Except Fault (Value × Dict Value)) :
    (x.outcome reply).unwrap = (reply.map Prod.fst).mapError x.failure := by
  cases reply <;> rfl

theorem outcome_ok_iff (x : Exchange) (reply : Except Fault (Value × Dict Value)) :
    (x.outcome reply).ok = true ↔ ∃ v, reply.map Prod.fst = .ok v := by
  cases reply with
  | error cause => exact ⟨nofun, nofun⟩
  | ok out => exact ⟨fun _ => ⟨out.1, rfl⟩, fun _ => rfl⟩

/-! ## Two runs in different modes -/

/-- The runs are of one operation, for one target and with the same options; their modes may
differ. -/
structure SameButModes (x y : Exchange) : Prop where
  operation : x.operation = y.operation
  target : x.target = y.target
  options : x.options = y.options

/-- A query that has one reply has it in every mode, with some metrics. -/
theorem exists_reply (h : ex.RepliesAlike q x.sentOptions desk.remote out) :
    ∃ metrics remote, (x.reply ex q).perform desk.remote =
      (out.map fun v => (v, metrics), remote) := by
  cases hx : x.withMetrics.truthy with
  | false => exact ⟨[], _, perform_reply_plain hx (Prod.ext h.1 rfl)⟩
  | true =>
    obtain ⟨-, metrics, hmetered⟩ := h
    exact ⟨metrics, _, (perform_reply_metrics hx _).trans (Prod.ext hmetered rfl)⟩

/-- The failure that is captured is the one that is raised, without the link to its cause. -/
theorem failure_eq_unchained (hsame : y.SameButModes x) (hy : y.raising.truthy = false)
    (cause : Fault) : y.failure cause = (x.failure cause).unchained := by
  rw [failure, failure, hsame.operation, hsame.target, hy, Fault.unchained]

/-- One run of a query with a reply was noted in a log: there are an entry before it, the entries
about how it ended and, with metrics, one more span, which has ended. -/
def IsNoted (x : Exchange) (q : Query) (out : Except Fault Value) (before after : Logging) : Prop :=
  ∃ base metrics, before.log.base = .dict base ∧
    after.log.entries = keepLast before.log.history (before.log.entries ++
      (x.announcement q.toWire :: x.closing (out.map fun v => (v, metrics))).map
        (Note.entry base)) ∧
    (after.log.Numbered ∧ after.log.spans = if x.withMetrics.truthy then
        keepLast before.log.history (before.log.spans ++
          [(before.log.begun, x.span before.ambient.now (out.map fun v => (v, metrics)))])
      else before.log.spans)

theorem isNoted_recorded {logging : Logging} {base metrics : Dict Value}
    (hbase : logging.log.base = .dict base) (hn : logging.log.Numbered) {ambient : Ambient} :
    x.IsNoted q out logging ⟨x.recorded logging base q (out.map fun v => (v, metrics)), ambient⟩ := by
  refine ⟨base, metrics, hbase, ?_, numbered_recorded hn, ?_⟩
  · rw [recorded, timed_eq x hn]
    split <;> rfl
  · rw [recorded, timed_eq x hn]
    split <;> rfl

/-- **The modes agree**, for whatever the executor replies. The run that raises comes to the value or
to the failure of the run; the one that captures comes to an outcome, which is in order just when
the reply is a value and gives the value or the same failure, but for the link to its cause. With
metrics or without, that is the same, and both are noted. A query without a wire form fails in every
mode alike, before anything is noted. -/
theorem modes_agree (hdesk : desk.Staffed) (hn : desk.logging.log.Numbered)
    (hx : x.raising.truthy = true) (hy : y.raising.truthy = false) (hsame : y.SameButModes x)
    (owner : String) (hreply : ex.RepliesAlike q x.sentOptions desk.remote out) :
    (q.Sendable → ∃ after after' outcome,
      (x.run ex owner q).perform desk = (out.mapError x.failure, after) ∧
      (y.capture ex owner q).perform desk = (.ok outcome, after') ∧
      (outcome.ok = true ↔ ∃ v, out = .ok v) ∧
      outcome.unwrap = out.mapError (fun cause => (x.failure cause).unchained) ∧
      (outcome.unwrap = out.mapError x.failure ↔ ∃ v, out = .ok v) ∧
      x.IsNoted q out desk.logging after.logging ∧ y.IsNoted q out desk.logging after'.logging) ∧
    (¬ q.Sendable → ∃ reason,
      (x.run ex owner q).perform desk = (.error (.misuse (.unstorable reason)), desk) ∧
      (y.capture ex owner q).perform desk = (.error (.misuse (.unstorable reason)), desk)) := by
  obtain ⟨base, hbase⟩ := hdesk.base
  refine ⟨fun hq => ?_, fun hq => ?_⟩
  · have hreply' : ex.RepliesAlike q y.sentOptions desk.remote out := by
      rwa [sentOptions, hsame.options]
    obtain ⟨metrics, remote, hraised⟩ := exists_reply (x := x) hreply
    obtain ⟨metrics', remote', hcaptured⟩ := exists_reply (x := y) hreply'
    obtain ⟨console, hrun⟩ := perform_run hdesk.bound hbase hq owner hraised
    obtain ⟨console', hcapture⟩ := perform_capture hdesk.bound hbase hq owner hcaptured
    have hvalue : ∀ metrics : Dict Value,
        (out.map fun v => (v, metrics)).map Prod.fst = out := fun _ => by cases out <;> rfl
    have hunwrap : (y.outcome (out.map fun v => (v, metrics'))).unwrap =
        out.mapError fun cause => (x.failure cause).unchained := by
      rw [outcome_unwrap, hvalue, funext (failure_eq_unchained hsame hy)]
    rw [hvalue] at hrun
    refine ⟨_, _, _, hrun, hcapture, ?_, hunwrap, ?_, isNoted_recorded hbase hn,
      isNoted_recorded hbase hn⟩
    · rw [outcome_ok_iff, hvalue]
    · rw [hunwrap]
      cases out with
      | error cause => simp [Except.mapError, failure, Fault.unchained, hx]
      | ok v => simp [Except.mapError]
  · obtain ⟨reason, hreason⟩ := Option.ne_none_iff_exists'.1 hq
    exact ⟨reason, perform_bind_error (perform_exchange_unsent hdesk.bound hreason ex x owner),
      perform_bind_error (perform_exchange_unsent hdesk.bound hreason ex y owner)⟩

/-- The desk of a model whose executor has one failure to reply. -/
def failingDesk : Desk Script where
  remote := { replies := [.error (.remote none "boom")] }
  bound := true
  logging := ⟨{ action := .text "model:user", base := .object [("name", .text "user")] }, {}⟩

/-- A query to run there. -/
def sampleQuery : Query := .var (.text "x")

/-- A run that raises, and one with metrics that captures: the failures differ in the link. -/
theorem modes_agree_sample : ∃ after after' outcome,
    (run {} Script.executor "user" sampleQuery).perform failingDesk =
      (.error (.transport "execute" "boom" .null (some (.remote none "boom")) .null (.list [])
        true), after) ∧
    (capture { withMetrics := .bool true, raising := .bool false } Script.executor "user"
      sampleQuery).perform failingDesk = (.ok outcome, after') ∧
    outcome.unwrap = .error (.transport "execute" "boom" .null (some (.remote none "boom")) .null
      (.list []) false) ∧
    after.logging.log.spans.length = 0 ∧ after'.logging.log.spans.length = 1 := by
  have hdesk : failingDesk.Staffed := ⟨rfl, _, rfl⟩
  have hreply : Script.executor.RepliesAlike sampleQuery (.dict []) failingDesk.remote
      (.error (.remote none "boom")) := ⟨rfl, [], rfl⟩
  obtain ⟨after, after', outcome, hrun, hcapture, -, hunwrap, -, hnoted, hnoted'⟩ :=
    (modes_agree (x := {}) (y := { withMetrics := .bool true, raising := .bool false }) hdesk
      (fun _ he => nomatch he) rfl rfl ⟨rfl, rfl, rfl⟩ "user" hreply).1 rfl
  obtain ⟨base, metrics, -, -, -, hspans⟩ := hnoted
  obtain ⟨base', metrics', -, -, -, hspans'⟩ := hnoted'
  refine ⟨after, after', outcome, hrun, hcapture, hunwrap, ?_, ?_⟩
  · simp [hspans, failingDesk, Value.truthy]
  · simp [hspans', failingDesk, Value.truthy, keepLast]

/-! ## What a failure carries -/

end Exchange

end DocMapper
