import DocMapper.Execution.Scripted
import DocMapper.Proofs.Setup.Completing
/-!
# What setting up submits

Whatever an executor does with the queries that it receives, setting models up takes one of a few
courses (`Setup.Course`): it submits the creations of the collections as one query, and the creations
of the indexes as one more only when there are any and the first query came back with a value. It
stops at the query that fails, with a fault that names the batch and the models
(`Setup.setup_submits_in_order`).

The log counts the spans that have begun. A log is closed (`Log.Closed`) if all of those that it
keeps have ended, and setting up leaves it so on every course.
-/

namespace DocMapper

open Action

variable {σ : Type}

/-! ## Executors that are listened to -/

/-- The executor, which keeps the queries that it received along with its own state. -/
def Executor.tapped (ex : Executor σ) : Executor (σ × List Query) where
  query q options := .of fun s =>
    (((ex.query q options).perform s.1).1, ((ex.query q options).perform s.1).2, s.2 ++ [q])
  queryWithMetrics q options := .of fun s =>
    (((ex.queryWithMetrics q options).perform s.1).1,
      ((ex.queryWithMetrics q options).perform s.1).2, s.2 ++ [q])

namespace Log

variable {log : Log}

/-- A log whose metadata is a dictionary and whose spans have all ended. -/
structure Closed (log : Log) : Prop where
  base : ∃ entries, log.base = .dict entries
  numbered : log.Numbered
  ended : ∀ e ∈ log.spans, e.2.finish.isSome = true

theorem Closed.noted (h : log.Closed) (es : List LogEntry) : (log.noted es).Closed :=
  ⟨h.base, h.numbered.noted es, h.ended⟩

theorem Closed.measured (h : log.Closed) {span : Span} (hspan : span.finish.isSome = true) :
    (log.measured span).Closed := by
  refine ⟨h.base, h.numbered.measured span, fun e he => ?_⟩
  rcases List.mem_append.1 (mem_of_mem_keepLast he) with hmem | hmem
  · exact h.ended e hmem
  · rw [List.mem_singleton.1 hmem]
    exact hspan

end Log

namespace Batches

/-- The query that creates the collections. -/
def first (b : Batches) : Query := .sequence (b.collections.map Value.query)

/-- The query that creates the indexes. -/
def second (b : Batches) : Query := .sequence (b.indexes.map Value.query)

end Batches

/-- The state with its executor in a state, and with another log and console. -/
def SetupState.withLog (state : SetupState σ) (remote : σ) (log : Log) (console : Console) :
    SetupState σ :=
  ⟨remote, ⟨log, { state.logging.ambient with console := console }⟩, state.members⟩

namespace Setup

variable {ex : Executor σ}

theorem closed_newLog (echo : Bool) : (newLog echo).Closed :=
  ⟨⟨_, rfl⟩, by simp [Log.Numbered, newLog], by simp [newLog]⟩

/-! ## Courses -/

/-- A query that was submitted, and the reply to it. -/
structure Submission where
  query : Query
  reply : Except Fault Value

/-- An executor receives queries one after another, gives the replies, and comes from one state to
another. -/
inductive Submitted (ex : Executor σ) : σ → List Submission → σ → Prop
  | nil (s : σ) : Submitted ex s [] s
  | cons {s t u : σ} {q : Query} {reply : Except Fault Value} {rest : List Submission} :
    (ex.query q (.dict [])).perform s = (reply, t) → Submitted ex t rest u →
    Submitted ex s (⟨q, reply⟩ :: rest) u

/-- **A tapped executor replies as the executor does**, and keeps what was submitted. -/
theorem Submitted.tapped {s t : σ} {trace : List Submission} (h : Submitted ex s trace t)
    (received : List Query) :
    Submitted ex.tapped (s, received) trace (t, received ++ trace.map Submission.query) := by
  induction h generalizing received with
  | nil s =>
    rw [List.map_nil, List.append_nil]
    exact .nil _
  | cons hquery _ ih =>
    rw [List.map_cons, List.append_cons]
    refine .cons ?_ (ih _)
    rw [Executor.tapped, perform_of, hquery]

/-- The fault of a batch whose query an executor fails. -/
def failed (operation : String) (names : List String) (cause : Fault) : Fault :=
  .transport operation cause.text (namesValue names) (some cause) .null (.list []) true

/-- What setting up submits, and what it comes to. Index metadata may hold data that no executor can
be sent; then the indexes are not submitted. -/
inductive Course (b : Batches) (names : List String) :
    List Submission → Except Fault SetupSummary → Prop
  | collectionsFailed (cause : Fault) :
    Course b names [⟨b.first, .error cause⟩] (.error (failed "setup:collections" names cause))
  | onlyCollections (v : Value) (hnone : b.indexes = []) :
    Course b names [⟨b.first, .ok v⟩] (.ok ⟨names, v, .null⟩)
  | indexesUnsent (v : Value) (reason : Unstorable) (hsome : b.indexes ≠ [])
    (hunsent : b.second.toWire.unstorable? = some reason) :
    Course b names [⟨b.first, .ok v⟩] (.error (.misuse (.unstorable reason)))
  | indexesFailed (v : Value) (cause : Fault) (hsome : b.indexes ≠ []) (hsend : b.second.Sendable) :
    Course b names [⟨b.first, .ok v⟩, ⟨b.second, .error cause⟩]
      (.error (failed "setup:indexes" names cause))
  | done (v w : Value) (hsome : b.indexes ≠ []) (hsend : b.second.Sendable) :
    Course b names [⟨b.first, .ok v⟩, ⟨b.second, .ok w⟩] (.ok ⟨names, v, w⟩)

/-- **Every executor makes setting up take one of the courses.** -/
theorem exists_course (ex : Executor σ) (b : Batches) (names : List String) (s : σ) :
    ∃ trace t out, Submitted ex s trace t ∧ Course b names trace out := by
  rcases hfirst : (ex.query b.first (.dict [])).perform s with ⟨cause | v, t⟩
  · exact ⟨_, t, _, .cons hfirst (.nil t), .collectionsFailed cause⟩
  by_cases hnone : b.indexes = []
  · exact ⟨_, t, _, .cons hfirst (.nil t), .onlyCollections v hnone⟩
  cases hsend : b.second.toWire.unstorable? with
  | some reason => exact ⟨_, t, _, .cons hfirst (.nil t), .indexesUnsent v reason hnone hsend⟩
  | none =>
    rcases hsecond : (ex.query b.second (.dict [])).perform t with ⟨cause | w, u⟩
    · exact ⟨_, u, _, .cons hfirst (.cons hsecond (.nil u)), .indexesFailed v cause hnone hsend⟩
    · exact ⟨_, u, _, .cons hfirst (.cons hsecond (.nil u)), .done v w hnone hsend⟩

/-! ## The steps of setting up -/

variable {state : SetupState σ} {remote : σ} {reply : Except Fault Value} {queries : List Query}
  {names : List String}

theorem perform_onLog_add {log : Log} {base : Dict Value} (hbase : log.base = .dict base)
    (state : SetupState σ) (remote : σ) (console : Console) (n : Note) :
    ∃ console', (onLog (Log.add n.severity n.message (.dict n.details))).perform
        (state.withLog remote log console) =
      (.ok (), state.withLog remote (log.noted [n.entry base]) console') := by
  obtain ⟨console', hadd⟩ := Log.perform_add (state.withLog remote log console).logging hbase n
    (Value.orEmpty_dict n.details)
  refine ⟨console', ?_⟩
  rw [onLog, perform_zoom, hadd]
  rfl

/-- The note before a batch. -/
def announcement (operation : String) (queries : List Query) (wire : Wire) : Note where
  severity := .debug
  message := "Running " ++ operation ++ " with " ++ toString queries.length ++ " queries"
  details := Dict.ofFields [("operation", .text operation), ("raw_query", wire.toValue)]

/-- The note about a batch whose query failed. -/
def failureNote (operation : String) (names : List String) (cause : Fault) : Note where
  severity := .error
  message := operation ++ " failed"
  details := Dict.ofFields [("operation", .text operation), ("models", namesValue names),
    ("error", .text cause.text)]

/-- The note about a batch whose query had a value. -/
def doneNote (operation : String) (v : Value) : Note where
  severity := .debug
  message := operation ++ " done"
  details := Dict.ofFields [("operation", .text operation), ("response", .text v.inspect)]

/-- The span of a batch when it has ended. -/
def batchSpan (operation : String) (names : List String) (now : Int) : Span where
  action := .text operation
  details := .object [("models", namesValue names)]
  start := now
  finish := some now

theorem perform_beginSpan (state : SetupState σ) (remote : σ) (log : Log) (console : Console)
    (action details : Value) :
    (onLog (Log.beginSpan action details)).perform (state.withLog remote log console) =
      (.ok log.begun, state.withLog remote
        (log.measured (.begin action details state.logging.ambient.now)) console) := rfl

theorem perform_endSpan (state : SetupState σ) (remote : σ) (log : Log) (console : Console)
    (number : Nat) : (onLog (Log.endSpan number)).perform (state.withLog remote log console) =
      (.ok (), state.withLog remote (log.changed number (·.ended state.logging.ambient.now))
        console) := rfl

/-- The reply of the executor, as a value. -/
theorem perform_submit {q : Query} (hreply : (ex.query q (.dict [])).perform state.remote =
    (reply, remote)) (log : Log) (console : Console) :
    (onRemote (ex.query q (.dict [])).attempt).perform (state.withLog state.remote log console) =
      (.ok reply, state.withLog remote log console) := by
  rw [onRemote, perform_zoom, perform_attempt, SetupState.withLog, hreply]
  rfl

/-- **A batch submits its query and comes to the reply.** The log has one more span afterwards, which
has ended, however the reply came out. -/
theorem perform_runBatch {base : Dict Value} (hbase : state.logging.log.base = .dict base)
    (hn : state.logging.log.Numbered) (hne : queries ≠ [])
    (hsend : (Query.sequence (queries.map Value.query)).Sendable)
    (hreply : (ex.query (.sequence (queries.map Value.query)) (.dict [])).perform state.remote =
      (reply, remote)) (operation : String) (names : List String) :
    ∃ before later console, (runBatch ex operation queries names).perform state =
      (reply.mapError (failed operation names), state.withLog remote
        (((state.logging.log.noted before).measured
          (batchSpan operation names state.logging.ambient.now)).noted later) console) := by
  let note := announcement operation queries (Query.sequence (queries.map Value.query)).toWire
  obtain ⟨log, hlog⟩ : ∃ log, state.logging.log.noted [note.entry base] = log := ⟨_, rfl⟩
  have hmeasured : ∀ span, (log.measured span).base = .dict base := by
    intro span
    rw [← hlog]
    exact hbase
  have hnumbered : log.Numbered := by rw [← hlog]; exact hn.noted _
  obtain ⟨announced, hannounce⟩ :=
    perform_onLog_add hbase state state.remote state.logging.ambient.console note
  rw [hlog] at hannounce
  have hended : (log.measured (.begin (.text operation) (.object [("models", namesValue names)])
      state.logging.ambient.now)).changed log.begun (·.ended state.logging.ambient.now) =
      log.measured (batchSpan operation names state.logging.ambient.now) :=
    Log.changed_measured hnumbered _ _
  rw [runBatch, inOrder_queries hne, perform_bind_ok (perform_liftM _ _), hsend.wire_eq,
    perform_bind_ok (perform_liftM _ _)]
  cases reply with
  | error cause =>
    obtain ⟨console, hnote⟩ := perform_onLog_add (hmeasured _) state remote
      announced (failureNote operation names cause)
    refine ⟨[note.entry base], [(failureNote operation names cause).entry base], console,
      (perform_bind_ok hannounce).trans ((perform_bind_ok (perform_beginSpan ..)).trans
        ((perform_bind_ok (perform_submit hreply ..)).trans ((perform_bind_ok hnote).trans ?_)))⟩
    rw [hlog, ← hended]
    exact perform_bind_ok (perform_endSpan ..)
  | ok v =>
    obtain ⟨console, hnote⟩ := perform_onLog_add (hmeasured _) state remote
      announced (doneNote operation v)
    refine ⟨[note.entry base], [(doneNote operation v).entry base], console,
      (perform_bind_ok hannounce).trans ((perform_bind_ok (perform_beginSpan ..)).trans
        ((perform_bind_ok (perform_submit hreply ..)).trans
          ((perform_bind_ok (perform_endSpan ..)).trans ?_)))⟩
    rw [hlog, hended]
    exact perform_bind_ok hnote

/-- A batch without a wire form is not submitted, and nothing is noted. -/
theorem perform_runBatch_unsent (hne : queries ≠ []) {reason : Unstorable}
    (h : (Query.sequence (queries.map Value.query)).toWire.unstorable? = some reason)
    (ex : Executor σ) (state : SetupState σ) (operation : String) (names : List String) :
    (runBatch ex operation queries names).perform state =
      (.error (.misuse (.unstorable reason)), state) := by
  have hwire : (Query.sequence (queries.map Value.query)).wire =
      .error (.misuse (.unstorable reason)) := by
    rw [Query.wire, Wire.checked, h]
  rw [runBatch, inOrder_queries hne, perform_bind_ok (perform_liftM _ _), hwire,
    perform_bind_error (perform_liftM _ _)]

/-! ## What setting up comes to -/

/-- What a state has become by the time that its executor is in a state: some spans have begun, and if
the log was closed, it is. -/
structure Reaches (state : SetupState σ) (remote : σ) (begun : Nat) (after : SetupState σ) :
    Prop where
  remote : after.remote = remote
  members : after.members = state.members
  closed : after.logging.log.Closed
  begun : after.logging.log.begun = state.logging.log.begun + begun

theorem Reaches.trans {mid after : SetupState σ} {remote' : σ} {n k : Nat}
    (h : Reaches state remote n mid) (h' : Reaches mid remote' k after) :
    Reaches state remote' (n + k) after :=
  ⟨h'.remote, h'.members.trans h.members, h'.closed, by rw [h'.begun, h.begun, Nat.add_assoc]⟩

theorem perform_note (hclosed : state.logging.log.Closed) (message : String)
    (names : List String) : ∃ after, (note message names).perform state = (.ok (), after) ∧
      Reaches state state.remote 0 after := by
  obtain ⟨base, hbase⟩ := hclosed.base
  obtain ⟨console, hnote⟩ := perform_onLog_add hbase state state.remote state.logging.ambient.console
    ⟨.info, message, Dict.ofFields [("models", namesValue names)]⟩
  exact ⟨_, hnote, rfl, rfl, hclosed.noted _, rfl⟩

/-- A batch reaches the state of the executor after its query, in one span. -/
theorem reaches_runBatch (hclosed : state.logging.log.Closed) (hne : queries ≠ [])
    (hsend : (Query.sequence (queries.map Value.query)).Sendable)
    (hreply : (ex.query (.sequence (queries.map Value.query)) (.dict [])).perform state.remote =
      (reply, remote)) (operation : String) (names : List String) :
    ∃ after, (runBatch ex operation queries names).perform state =
        (reply.mapError (failed operation names), after) ∧ Reaches state remote 1 after := by
  obtain ⟨base, hbase⟩ := hclosed.base
  obtain ⟨before, later, console, hrun⟩ :=
    perform_runBatch hbase hclosed.numbered hne hsend hreply operation names
  exact ⟨_, hrun, rfl, rfl, ((hclosed.noted before).measured rfl).noted later, rfl⟩

/-- **Provisioning comes to what its course says.** -/
theorem perform_provision (state : SetupState σ) {models : List Model} {b : Batches}
    (hbatches : prepare models = .ok b) (hne : b.collections ≠ []) (hsend : b.first.Sendable)
    {trace : List Submission} {out : Except Fault SetupSummary} (hcourse : Course b names trace out)
    (hsubmitted : Submitted ex state.remote trace remote) (hclosed : state.logging.log.Closed) :
    ∃ after, (provision ex models names).perform state = (out, after) ∧
      Reaches state remote trace.length after := by
  obtain ⟨noted, hnote, hnoted⟩ := perform_note hclosed ("Prepared " ++
    toString b.collections.length ++ " collection queries and " ++ toString b.indexes.length ++
    " index queries") names
  rw [provision, hbatches, perform_bind_ok (perform_liftM _ _), perform_bind_ok hnote]
  obtain ⟨t, reply, rest, hquery, hrest, rfl⟩ : ∃ t reply rest,
      (ex.query b.first (.dict [])).perform noted.remote = (reply, t) ∧ Submitted ex t rest remote ∧
        trace = ⟨b.first, reply⟩ :: rest := by
    rw [hnoted.remote]
    cases hcourse <;> cases hsubmitted with | cons hquery hrest => exact ⟨_, _, _, hquery, hrest, rfl⟩
  obtain ⟨mid, hfirst, hmid⟩ := reaches_runBatch hnoted.closed hne hsend hquery "setup:collections"
    names
  have hboth := hnoted.trans hmid
  rw [Nat.zero_add] at hboth
  cases hcourse with
  | collectionsFailed cause =>
    cases hrest
    exact ⟨mid, perform_bind_error hfirst, hboth⟩
  | onlyCollections v hnone =>
    cases hrest
    obtain ⟨after, hdone, hafter⟩ := perform_note hmid.closed "Setup done" names
    refine ⟨after, (perform_bind_ok hfirst).trans ?_, hmid.remote ▸ hboth.trans hafter⟩
    rw [hnone]
    exact perform_bind_ok hdone
  | indexesUnsent v reason hsome hunsent =>
    cases hrest
    refine ⟨mid, (perform_bind_ok hfirst).trans ?_, hboth⟩
    rw [if_neg (mt List.isEmpty_iff.1 hsome)]
    exact perform_bind_error (perform_runBatch_unsent hsome hunsent ex mid "setup:indexes" names)
  | indexesFailed v cause hsome hsecond =>
    cases hrest with | cons hquery hrest => ?_
    cases hrest
    rw [← hmid.remote] at hquery
    obtain ⟨after, hrun, hafter⟩ :=
      reaches_runBatch hmid.closed hsome hsecond hquery "setup:indexes" names
    refine ⟨after, (perform_bind_ok hfirst).trans ?_, hboth.trans hafter⟩
    rw [if_neg (mt List.isEmpty_iff.1 hsome)]
    exact perform_bind_error hrun
  | done v w hsome hsecond =>
    cases hrest with | cons hquery hrest => ?_
    cases hrest
    rw [← hmid.remote] at hquery
    obtain ⟨last, hrun, hlast⟩ :=
      reaches_runBatch hmid.closed hsome hsecond hquery "setup:indexes" names
    obtain ⟨after, hdone, hafter⟩ := perform_note hlast.closed "Setup done" names
    refine ⟨after, (perform_bind_ok hfirst).trans ?_,
      hlast.remote ▸ hboth.trans (hlast.trans hafter)⟩
    rw [if_neg (mt List.isEmpty_iff.1 hsome)]
    exact (perform_bind_ok hrun).trans (perform_bind_ok hdone)

/-- The batches of declared models can be made. There are indexes to create if some model has any. -/
theorem exists_prepare {models : List Model} (hdeclared : ∀ m ∈ models, m.Declared) :
    ∃ b, prepare models = .ok b ∧ b.collections = models.map collectionQuery ∧
      indexQueries models = .ok b.indexes ∧
      (b.indexes = [] ↔ ∀ m ∈ models, m.indexes.definitions = []) := by
  have hcreations : ∀ m ∈ models, ∃ queries,
      m.indexes.creations (.query m.collection) = .ok queries ∧
        (queries = [] ↔ m.indexes.definitions = []) := by
    intro m hm
    obtain ⟨queries, hqueries⟩ := exists_forall₂ fun (name : Value) (hname : name ∈ m.indexes.names) =>
      (hdeclared m hm).exists_guardedCreation hname
    refine ⟨queries, Except.mapM_eq_ok.2 hqueries, ?_⟩
    rw [← List.length_eq_zero_iff, ← hqueries.length_eq, List.length_eq_zero_iff,
      IndexCatalog.names, List.map_eq_nil_iff, Dict.keys, List.map_eq_nil_iff]
  obtain ⟨batches, hbatches⟩ := exists_forall₂ hcreations
  have hindexes : indexQueries models = .ok batches.flatten :=
    Except.bind_eq_ok.2 ⟨batches, Except.mapM_eq_ok.2 (hbatches.imp fun _ _ h => h.1), rfl⟩
  refine ⟨⟨models.map collectionQuery, batches.flatten⟩,
    Except.bind_eq_ok.2 ⟨_, hindexes, rfl⟩, rfl, hindexes, ?_⟩
  rw [List.flatten_eq_nil_iff]
  refine ⟨fun hempty m hm => ?_, fun hempty queries hqueries => ?_⟩
  · obtain ⟨queries, hqueries, -, hiff⟩ := exists_mem_of_forall₂ hbatches.flip hm
    exact hiff.1 (hempty queries hqueries)
  · obtain ⟨m, hm, -, hiff⟩ := exists_mem_of_forall₂ hbatches hqueries
    exact hiff.2 (hempty m hm)

/-- The creations of collections can always be sent. -/
theorem sendable_first (models : List Model) :
    (Query.sequence ((models.map collectionQuery).map Value.query)).Sendable := by
  refine Query.sendable_sequence.2 fun e he => ?_
  obtain ⟨q, hq, rfl⟩ := List.mem_map.1 he
  obtain ⟨m, -, rfl⟩ := List.mem_map.1 hq
  exact Value.sendable_query.2 (answers_collectionQuery m).sendable

/-- **Setting up comes to what its course says**, with its models attached whatever the course. -/
theorem perform_run (ex : Executor σ) (state : SetupState σ) {b : Batches} (hne : state.members ≠ [])
    (hbatches : prepare (state.members.map Attached.model) = .ok b)
    (hcollections : b.collections = (state.members.map Attached.model).map collectionQuery)
    {trace : List Submission} {out : Except Fault SetupSummary}
    (hcourse : Course b ((state.members.map Attached.model).map Model.name) trace out)
    (hsubmitted : Submitted ex state.remote trace remote) (hclosed : state.logging.log.Closed)
    (echo : Bool) :
    ∃ after, (run ex echo true).perform state = (out, after) ∧
      Reaches { state with members := state.members.map (attach echo) } remote trace.length
        after := by
  have hmodels : (state.members.map (attach echo)).map Attached.model =
      state.members.map Attached.model := by
    rw [List.map_map]
    rfl
  have hsome : b.collections ≠ [] := by
    rw [hcollections]
    simpa using hne
  have hsend : b.first.Sendable := by
    rw [Batches.first, hcollections]
    exact sendable_first _
  obtain ⟨after, hprovision, hafter⟩ := perform_provision { state with
    members := state.members.map (attach echo) } hbatches hsome hsend hcourse hsubmitted hclosed
  refine ⟨after, Eq.trans ?_ hprovision, hafter⟩
  rw [run, perform_bind_ok (perform_modify _ _), perform_bind_ok (perform_get _), hmodels]
  rw [if_pos (by simpa using hne)]

/-- **Setting up submits its batches in order, whatever the executor does.** It takes one of the
courses of `Course`: at most two queries are submitted, the first of which makes the creations of the
collections of all models, and the second, once the first came back with a value, those of the
indexes, if some model has any. A query that fails is the last, and setting up fails with a fault that
names its batch and the models and has the fault of the executor as its cause. On every course all
models have the executor in the end, and as many spans have begun as queries were submitted, all of
which have ended.

That nothing else is submitted shows in the executor with a tap, which replies as the executor
does. -/
theorem setup_submits_in_order (ex : Executor σ) (echo : Bool) (state : SetupState σ)
    (hne : state.members ≠ []) (hdeclared : ∀ a ∈ state.members, a.model.Declared)
    (hclosed : state.logging.log.Closed) :
    ∃ b trace out t after, b.collections = (state.members.map Attached.model).map collectionQuery ∧
      indexQueries (state.members.map Attached.model) = .ok b.indexes ∧
      (b.indexes = [] ↔ ∀ a ∈ state.members, a.model.indexes.definitions = []) ∧
      Course b ((state.members.map Attached.model).map Model.name) trace out ∧
      Submitted ex state.remote trace t ∧
      (run ex echo true).perform state = (out, after) ∧ after.remote = t ∧
      after.members = state.members.map (attach echo) ∧ (∀ a ∈ after.members, a.bound = true) ∧
      after.logging.log.Closed ∧
      after.logging.log.begun = state.logging.log.begun + trace.length ∧
      ∃ heard, (run ex.tapped echo true).perform
          ⟨(state.remote, []), state.logging, state.members⟩ = (out, heard) ∧
        heard.remote = (t, trace.map Submission.query) := by
  have hmodels : ∀ m ∈ state.members.map Attached.model, m.Declared := by
    simpa using hdeclared
  obtain ⟨b, hbatches, hcollections, hindexes, hnone⟩ := exists_prepare hmodels
  obtain ⟨trace, t, out, hsubmitted, hcourse⟩ :=
    exists_course ex b ((state.members.map Attached.model).map Model.name) state.remote
  obtain ⟨after, hrun, hafter⟩ :=
    perform_run ex state hne hbatches hcollections hcourse hsubmitted hclosed echo
  obtain ⟨heard, hlistened, hheard⟩ := perform_run ex.tapped
    ⟨(state.remote, []), state.logging, state.members⟩ hne hbatches hcollections hcourse
    (hsubmitted.tapped []) hclosed echo
  refine ⟨b, trace, out, t, after, hcollections, hindexes, ?_, hcourse, hsubmitted, hrun,
    hafter.remote, hafter.members, ?_, hafter.closed, hafter.begun, heard, hlistened, hheard.remote⟩
  · rw [hnone]
    simp
  · rw [hafter.members]
    simp [attach]

/-- Replies of an executor that creates the collections and then breaks down. -/
def breakingScript : Script where
  replies := [.ok .null, .error (.remote (some "Broken") "broken")]

/-- The state in which three models are to be set up by an executor that breaks down. -/
def breakingState : SetupState Script where
  remote := breakingScript
  logging := ⟨newLog false, {}⟩
  members := twinModels.map fun m => { model := m, log := m.newLog }

theorem setup_submits_in_order_sample :
    ∃ b after, (run Script.executor false true).perform breakingState =
        (.error (failed "setup:indexes" ["a", "a-b", "a"] (.remote (some "Broken") "broken")),
          after) ∧
      after.remote.calls = [.query (Batches.first b), .query b.second] ∧
      b.collections = twinModels.map collectionQuery ∧
      (∀ a ∈ after.members, a.bound = true) ∧ after.logging.log.begun = 2 ∧
      ∀ e ∈ after.logging.log.spans, e.2.finish.isSome = true := by
  have hdeclared : ∀ a ∈ breakingState.members, a.model.Declared := by
    intro a ha
    obtain ⟨m, hm, rfl⟩ := List.mem_map.1 ha
    exact twinModels_declared m hm
  have hsend : (indexQueries twinModels).toOption.all (fun queries =>
      (Query.sequence (queries.map Value.query)).toWire.unstorable?.isNone) = true := by
    decide +kernel
  obtain ⟨b, trace, out, t, after, hcollections, hindexes, hnone, hcourse, hsubmitted, hrun,
    hremote, -, hbound, hclosed, hbegun, -⟩ := setup_submits_in_order Script.executor false breakingState
      (by simp [breakingState, twinModels]) hdeclared (closed_newLog false)
  cases hcourse with
  | collectionsFailed cause => cases hsubmitted with | cons hquery _ => cases hquery
  | onlyCollections v hempty =>
    have hdefinitions := hnone.1 hempty { model := noteModel "a" "b-c" none, log := _ }
      List.mem_cons_self
    cases hdefinitions
  | indexesUnsent v reason hsome hunsent =>
    have hmodels : breakingState.members.map Attached.model = twinModels := rfl
    rw [← hmodels, hindexes, Except.toOption, Option.all_some, ← Batches.second, hunsent] at hsend
    cases hsend
  | indexesFailed v cause hsome hsecond =>
    cases hsubmitted with | cons hquery hrest => ?_
    cases hrest with | cons hquery' hrest => ?_
    cases hquery
    cases hrest
    cases hquery'
    exact ⟨b, after, hrun, by rw [hremote]; rfl, hcollections, hbound, hbegun, hclosed.ended⟩
  | done v w hsome hsecond =>
    cases hsubmitted with | cons hquery hrest => ?_
    cases hrest with | cons hquery' hrest => ?_
    cases hquery
    cases hquery'

end Setup

end DocMapper
