import DocMapper.Execution.Exchange
import DocMapper.Proofs.Data.Outcome
import DocMapper.Proofs.Execution.Performing
import DocMapper.Proofs.Query.Sendable
/-!
# What a run of a query notes

`Exchange.perform_exchange` says all that the run of a query does at a desk: it gives the reply of
the executor, leaves the executor as the reply does, and leaves the log as `Exchange.recorded` says,
which is one entry before the run (`Exchange.announcement`), the entries about how it ended
(`Exchange.closing`), and with metrics a span that has ended (`Exchange.span`). Nothing else at the
desk changes but the console.

The span is found again by its number. It is the only one of its number where the numbers of the
kept spans are those of beginnings (`Log.Numbered`), and whatever is done to a log leaves it so.
-/

namespace DocMapper

open Action

/-- What is told to a log: an entry without the metadata of the log. -/
structure Note where
  severity : Severity
  message : String
  details : Dict Value

/-- The entry of a note in a log with some metadata. -/
def Note.entry (base : Dict Value) (n : Note) : LogEntry :=
  ⟨.text n.severity.name, .text n.message, Value.mergeEntries base n.details⟩

namespace Log

variable {log : Log} {base : Dict Value}

/-! ## Entries -/

/-- The log with more entries. -/
def noted (log : Log) (es : List LogEntry) : Log :=
  { log with entries := keepLast log.history (log.entries ++ es) }

theorem noted_noted (log : Log) (es es' : List LogEntry) :
    (log.noted es).noted es' = log.noted (es ++ es') := by
  simp only [noted, keepLast_append_keepLast, List.append_assoc]

/-- **A log keeps what it is told**, and nothing else changes but the console. -/
theorem perform_add (logging : Logging) (hbase : logging.log.base = .dict base) (n : Note)
    {details : Value} (hdetails : (if details.truthy then details else .dict []) = .dict n.details) :
    ∃ console, (add n.severity n.message details).perform logging =
      (.ok (), ⟨logging.log.noted [n.entry base], { logging.ambient with console := console }⟩) := by
  have hentry : logging.log.entry (.text n.severity.name) (.text n.message) details =
      .ok (n.entry base) := by
    rw [entry, hdetails, hbase]
    rfl
  obtain ⟨console, hechoed⟩ : ∃ console,
      logging.log.echoed (n.entry base) logging.ambient.console = .ok console := by
    rw [echoed]
    cases logging.log.echo with
    | false => exact ⟨_, rfl⟩
    | true =>
      have hfind : Value.find Severity.byName (n.entry base).severity = .ok (some n.severity) := by
        simp [Note.entry, Value.find, Value.asKey, Value.toKey?, bind, Except.bind, pure,
          Except.pure]
      rw [hfind]
      exact ⟨_, rfl⟩
  refine ⟨console, ?_⟩
  simp only [add, addAs, perform_bind, perform_get, perform_liftM, hentry, hechoed, perform_set,
    perform_modify, perform_pure]
  rfl

/-! ## Spans -/

/-- The kept spans have numbers of beginnings. -/
def Numbered (log : Log) : Prop := ∀ e ∈ log.spans, e.1 < log.begun

/-- The log with one more span. -/
def measured (log : Log) (span : Span) : Log :=
  { log with
    spans := keepLast log.history (log.spans ++ [(log.begun, span)]), begun := log.begun + 1 }

/-- The log with a change to the spans of a number. -/
def changed (log : Log) (number : Nat) (change : Span → Span) : Log :=
  { log with spans := log.spans.map fun e => (e.1, if e.1 = number then change e.2 else e.2) }

theorem mem_of_mem_keepLast {α : Type} {bound : Option Nat} {xs : List α} {x : α}
    (h : x ∈ keepLast bound xs) : x ∈ xs := by
  cases bound with
  | none => exact h
  | some n => exact List.mem_of_mem_drop h

theorem map_keepLast {α β : Type} (f : α → β) (bound : Option Nat) (xs : List α) :
    (keepLast bound xs).map f = keepLast bound (xs.map f) := by
  cases bound with
  | none => rfl
  | some n => simp [keepLast]

/-- A new log is numbered. -/
theorem numbered_new {action given history : Value} {echo : Bool}
    (h : Log.new action given echo history = .ok log) : log.Numbered := by
  obtain ⟨bound, -, hlog⟩ := Except.bind_eq_ok.1 h
  cases hlog
  exact fun _ he => nomatch he

theorem Numbered.noted (h : log.Numbered) (es : List LogEntry) : (log.noted es).Numbered := h

theorem Numbered.cleared (_ : log.Numbered) : log.cleared.Numbered := fun _ he => nomatch he

theorem Numbered.measured (h : log.Numbered) (span : Span) : (log.measured span).Numbered := by
  intro e he
  rcases List.mem_append.1 (mem_of_mem_keepLast he) with hmem | hmem
  · exact Nat.lt_succ_of_lt (h e hmem)
  · rw [List.mem_singleton.1 hmem]
    exact Nat.lt_succ_self _

theorem Numbered.changed (h : log.Numbered) (number : Nat) (change : Span → Span) :
    (log.changed number change).Numbered := by
  intro e he
  obtain ⟨e', he', rfl⟩ := List.mem_map.1 he
  exact h e' he'

/-- The span that began last is the only one of its number. -/
theorem changed_measured (hn : log.Numbered) (span : Span) (change : Span → Span) :
    (log.measured span).changed log.begun change = log.measured (change span) := by
  have hothers : (log.spans.map fun e =>
      (e.1, if e.1 = log.begun then change e.2 else e.2)) = log.spans := by
    refine (List.map_congr_left fun e he => ?_).trans (List.map_id _)
    rw [if_neg (Nat.ne_of_lt (hn e he))]
    rfl
  simp only [changed, measured, map_keepLast, List.map_append, List.map_cons, List.map_nil, if_true,
    hothers]

end Log

/-! ## At a desk -/

namespace Desk

variable {σ : Type}

/-- The desk with its executor in a state, and with another log and console. -/
def after (desk : Desk σ) (remote : σ) (log : Log) (console : Console) : Desk σ :=
  ⟨remote, desk.bound, log, { desk.logging.ambient with console := console }⟩

theorem perform_onLog_add {log : Log} {base : Dict Value} (hbase : log.base = .dict base)
    (desk : Desk σ) (remote : σ) (console : Console) (n : Note) :
    ∃ console', (Op.onLog (Log.add n.severity n.message (.dict n.details))).perform
        (desk.after remote log console) =
      (.ok (), desk.after remote (log.noted [n.entry base]) console') := by
  obtain ⟨console', hadd⟩ := Log.perform_add (desk.after remote log console).logging hbase n
    (Value.orEmpty_dict n.details)
  refine ⟨console', ?_⟩
  rw [Op.onLog, perform_zoom, hadd]
  rfl

end Desk

namespace Exchange

variable {σ : Type} {desk : Desk σ} {ex : Executor σ} {x : Exchange} {owner : String} {q : Query}
  {base : Dict Value} {reply : Except Fault (Value × Dict Value)} {remote : σ}

/-! ## Notes -/

/-- The note before a run. -/
def announcement (x : Exchange) (wire : Wire) : Note where
  severity := .debug
  message := "Executing query. With metrics: " ++ x.withMetrics.toText ++ ", error on failure: "
    ++ x.raising.toText
  details := Dict.ofFields [("operation", x.operation), ("query_options", x.options),
    ("raw_query", wire.toValue)]

/-- The note about a failure. -/
def failureNote (x : Exchange) (cause : Fault) : Note where
  severity := .error
  message := "An error occurred while executing the query"
  details := Dict.ofFields [("operation", x.operation), ("target", .text x.target.toText),
    ("error", .text cause.text)]

/-- The note about metrics. -/
def metricsNote (x : Exchange) (metrics : Dict Value) : Note where
  severity := .debug
  message := "Query metrics"
  details := Dict.ofFields [("operation", x.operation), ("metrics", .dict metrics)]

/-- The note about a value. -/
def valueNote (x : Exchange) (v : Value) : Note where
  severity := .debug
  message := "Response for query"
  details := Dict.ofFields [("operation", x.operation), ("response", .text v.inspect)]

/-- The notes after a run, by how it ended. -/
def closing (x : Exchange) : Except Fault (Value × Dict Value) → List Note
  | .error cause => [x.failureNote cause]
  | .ok (v, metrics) =>
    (if x.withMetrics.truthy then [x.metricsNote metrics] else []) ++ [x.valueNote v]

/-- What the span of a run tells of how it ended. -/
def closingDetails : Except Fault (Value × Dict Value) → Dict Value
  | .error cause => [(.text "error", .text cause.text)]
  | .ok (_, metrics) => metrics

/-- The span of a run when it has ended. -/
def span (x : Exchange) (now : Int) (reply : Except Fault (Value × Dict Value)) : Span where
  action := x.operation
  details := .dict (Dict.putAll (Dict.ofFields [("target", .text x.target.toText)])
    (closingDetails reply))
  start := now
  finish := some now

/-- The log with the span of a run that has not ended, if it has one. -/
def timing (x : Exchange) (log : Log) (now : Int) : Log :=
  if x.withMetrics.truthy then
    log.measured (.begin x.operation (.object [("target", .text x.target.toText)]) now)
  else log

/-- The log with the span of a run that has ended, if it has one. -/
def timed (x : Exchange) (log : Log) (now : Int) (reply : Except Fault (Value × Dict Value)) : Log :=
  if x.withMetrics.truthy then
    ((x.timing log now).changed log.begun (·.ended now)).changed log.begun
      (·.withDetails (closingDetails reply))
  else log

/-- The log after a run. -/
def recorded (x : Exchange) (logging : Logging) (base : Dict Value) (q : Query)
    (reply : Except Fault (Value × Dict Value)) : Log :=
  (x.timed logging.log logging.ambient.now reply).noted
    ((x.announcement q.toWire :: x.closing reply).map (Note.entry base))

variable (x) in
/-- **With metrics a run leaves one more span**, which has ended, and without them none. -/
theorem timed_eq {log : Log} (hn : log.Numbered) (now : Int) : x.timed log now reply =
    if x.withMetrics.truthy then log.measured (x.span now reply) else log := by
  rw [timed, timing]
  split
  · rw [Log.changed_measured hn, Log.changed_measured hn]
    rfl
  · rfl

theorem numbered_recorded {logging : Logging} (h : logging.log.Numbered) :
    (x.recorded logging base q reply).Numbered := by
  refine Log.Numbered.noted ?_ _
  rw [timed_eq x h]
  split
  · exact h.measured _
  · exact h

/-- The span of a run does not depend on the entries. -/
theorem timed_noted (x : Exchange) (log : Log) (es : List LogEntry) (now : Int)
    (reply : Except Fault (Value × Dict Value)) :
    x.timed (log.noted es) now reply = (x.timed log now reply).noted es := by
  rw [timed, timed, timing, timing]
  split
  · rfl
  · rfl

/-- The metadata of a log stays when a span begins and ends. -/
theorem timed_base (x : Exchange) (log : Log) (now : Int)
    (reply : Except Fault (Value × Dict Value)) : (x.timed log now reply).base = log.base := by
  rw [timed, timing]
  split
  · rfl
  · rfl

theorem recorded_base (x : Exchange) (logging : Logging) (base : Dict Value) (q : Query)
    (reply : Except Fault (Value × Dict Value)) :
    (x.recorded logging base q reply).base = logging.log.base := x.timed_base ..

/-! ## The steps of a run -/

theorem perform_requireBound (h : desk.bound = true) (x : Exchange) (owner : String) :
    (x.requireBound owner).perform desk = (.ok (), desk) := by
  simp [requireBound, perform_bind, h]

theorem perform_announce (hbase : desk.logging.log.base = .dict base) (x : Exchange)
    (hq : q.Sendable) : ∃ console, (x.announce q).perform desk = (.ok (), desk.after desk.remote
      (desk.logging.log.noted [(x.announcement q.toWire).entry base]) console) := by
  obtain ⟨console, hadd⟩ := Desk.perform_onLog_add hbase desk desk.remote
    desk.logging.ambient.console (x.announcement q.toWire)
  refine ⟨console, ?_⟩
  rw [announce, hq.wire_eq, perform_bind_ok (perform_liftM _ _)]
  exact hadd

/-- A query without a wire form is not announced. -/
theorem perform_announce_unsent {reason : Unstorable} (h : q.toWire.unstorable? = some reason)
    (x : Exchange) (desk : Desk σ) :
    (x.announce q).perform desk = (.error (.misuse (.unstorable reason)), desk) := by
  have hwire : q.wire = .error (.misuse (.unstorable reason)) := by
    rw [Query.wire, Wire.checked, h]
  rw [announce, hwire, perform_bind_error (perform_liftM _ _)]

/-- The number of the span of a run, if it has one. -/
def spanNumber (x : Exchange) (log : Log) : Option Nat :=
  if x.withMetrics.truthy then some log.begun else none

theorem perform_beginSpan (x : Exchange) (desk : Desk σ) (remote : σ) (log : Log)
    (console : Console) : x.beginSpan.perform (desk.after remote log console) =
      (.ok (x.spanNumber log),
        desk.after remote (x.timing log desk.logging.ambient.now) console) := by
  rw [beginSpan, spanNumber, timing]
  split
  · rfl
  · rfl

theorem perform_endSpan (x : Exchange) (desk : Desk σ) (remote : σ) (log : Log) (console : Console)
    (reply : Except Fault (Value × Dict Value)) :
    (endSpan (x.spanNumber log) (closingDetails reply)).perform
        (desk.after remote (x.timing log desk.logging.ambient.now) console) =
      (.ok (), desk.after remote (x.timed log desk.logging.ambient.now reply) console) := by
  rw [spanNumber, timing, timed, timing]
  split
  · rfl
  · rfl

/-- Without metrics the reply is that of the plain query. -/
theorem perform_reply_plain (hx : x.withMetrics.truthy = false) {out : Except Fault Value} {s : σ}
    (hquery : (ex.query q x.sentOptions).perform s = (out, remote)) :
    (x.reply ex q).perform s = (out.map fun v => (v, []), remote) := by
  simp only [reply, hx, Bool.false_eq_true, if_false, perform_bind, hquery]
  cases out <;> rfl

/-- With metrics it is that of the query with metrics. -/
theorem perform_reply_metrics (hx : x.withMetrics.truthy = true) (s : σ) :
    (x.reply ex q).perform s = (ex.queryWithMetrics q x.sentOptions).perform s := by
  rw [Exchange.reply, if_pos hx]

/-- The reply of the executor, as a value. -/
theorem perform_attempt_reply (hreply : (x.reply ex q).perform desk.remote = (reply, remote)) (log : Log)
    (console : Console) :
    (Op.onRemote (x.reply ex q).attempt).perform (desk.after desk.remote log console) =
      (.ok reply, desk.after remote log console) := by
  rw [Op.onRemote, perform_zoom, perform_attempt, Desk.after, hreply]
  rfl

/-- A failure is noted after the end of the span. -/
theorem perform_noteFailure {log : Log} (hbase : log.base = .dict base) (x : Exchange)
    (desk : Desk σ) (remote : σ) (console : Console) (cause : Fault) :
    ∃ console', (x.noteFailure (x.spanNumber log) cause).perform
        (desk.after remote (x.timing log desk.logging.ambient.now) console) =
      (.ok (), desk.after remote ((x.timed log desk.logging.ambient.now (.error cause)).noted
        ((x.closing (.error cause)).map (Note.entry base))) console') := by
  have hend : (endSpan (x.spanNumber log) [(.text "error", .text cause.text)]).perform _ = _ :=
    perform_endSpan x desk remote log console (.error cause)
  obtain ⟨console', hadd⟩ := Desk.perform_onLog_add ((x.timed_base log _ (.error cause)).trans hbase)
    desk remote console (x.failureNote cause)
  refine ⟨console', ?_⟩
  rw [noteFailure, perform_bind_ok hend]
  exact hadd

/-- A value is noted after the end of the span, and its metrics before it if they were asked for. -/
theorem perform_noteValue {log : Log} (hbase : log.base = .dict base) (x : Exchange)
    (desk : Desk σ) (remote : σ) (console : Console) (v : Value)
    (metrics : Dict Value) :
    ∃ console', (x.noteValue (x.spanNumber log) v metrics).perform
        (desk.after remote (x.timing log desk.logging.ambient.now) console) =
      (.ok (), desk.after remote ((x.timed log desk.logging.ambient.now (.ok (v, metrics))).noted
        ((x.closing (.ok (v, metrics))).map (Note.entry base))) console') := by
  have hend : (endSpan (x.spanNumber log) metrics).perform _ = _ :=
    perform_endSpan x desk remote log console (.ok (v, metrics))
  have hbase' := (x.timed_base log desk.logging.ambient.now (.ok (v, metrics))).trans hbase
  rw [noteValue]
  cases hx : x.withMetrics.truthy with
  | false =>
    obtain ⟨console', hadd⟩ := Desk.perform_onLog_add hbase' desk remote console (x.valueNote v)
    refine ⟨console', ?_⟩
    simp only [closing, hx, Bool.false_eq_true, if_false]
    rw [perform_bind_ok hend]
    exact hadd
  | true =>
    obtain ⟨noted, hmetrics⟩ := Desk.perform_onLog_add hbase' desk remote console
      (x.metricsNote metrics)
    have hnoted : ((x.timed log desk.logging.ambient.now (.ok (v, metrics))).noted
        [(x.metricsNote metrics).entry base]).base = .dict base := hbase'
    obtain ⟨console', hadd⟩ := Desk.perform_onLog_add hnoted desk remote noted (x.valueNote v)
    refine ⟨console', ?_⟩
    simp only [closing, hx, if_true]
    rw [perform_bind_ok hend]
    refine (perform_bind_ok hmetrics).trans (hadd.trans ?_)
    rw [Log.noted_noted]
    rfl

/-- **What the run of a query does**: it gives the reply of the executor and leaves the executor as
the reply does, and the log as `recorded` says. -/
theorem perform_exchange (hbound : desk.bound = true) (hbase : desk.logging.log.base = .dict base)
    (hq : q.Sendable) (owner : String)
    (hreply : (x.reply ex q).perform desk.remote = (reply, remote)) :
    ∃ console, (x.exchange ex owner q).perform desk = (.ok reply,
      desk.after remote (x.recorded desk.logging base q reply) console) := by
  obtain ⟨announced, hannounce⟩ := perform_announce hbase x hq
  have hbase' : (desk.logging.log.noted [(x.announcement q.toWire).entry base]).base = .dict base :=
    hbase
  rw [exchange, perform_bind_ok (perform_requireBound hbound x owner), perform_bind_ok hannounce,
    perform_bind_ok (perform_beginSpan x ..), perform_bind_ok (perform_attempt_reply hreply ..)]
  cases reply with
  | error cause =>
    obtain ⟨console, hnote⟩ := perform_noteFailure hbase' x desk remote announced cause
    refine ⟨console, (perform_bind_ok hnote).trans ?_⟩
    rw [timed_noted, Log.noted_noted]
    rfl
  | ok out =>
    obtain ⟨v, metrics⟩ := out
    obtain ⟨console, hnote⟩ := perform_noteValue hbase' x desk remote announced v metrics
    refine ⟨console, (perform_bind_ok hnote).trans ?_⟩
    rw [timed_noted, Log.noted_noted]
    rfl

/-- A query without a wire form is not run, and nothing is noted. -/
theorem perform_exchange_unsent (hbound : desk.bound = true) {reason : Unstorable}
    (h : q.toWire.unstorable? = some reason) (ex : Executor σ) (x : Exchange) (owner : String) :
    (x.exchange ex owner q).perform desk = (.error (.misuse (.unstorable reason)), desk) := by
  rw [exchange, perform_bind_ok (perform_requireBound hbound x owner),
    perform_bind_error (perform_announce_unsent h x desk)]

end Exchange

end DocMapper
