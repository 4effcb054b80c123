import DocMapper.Execution.Memory
import DocMapper.Proofs.Execution.Noting
/-!
# Operations over the executor in memory

`Desk.Runs desk op out calls t` says what an operation amounts to at a desk: it comes to `out`, the
executor receives `calls` on the way and is left with the store `t`. The log, which operations write
to and never read, is not part of it, so that an operation is as good as the queries that it runs.
There is one rule for each way in which operations are composed, and `Desk.Runs.exchange` is the
rule for the run of a query.

All this is for a desk that is ready (`Desk.Ready`): its model has an executor, and the log its
metadata. Operations leave it so.

Of any other executor less is said: `Desk.ComesTo desk op out remote` says what an operation comes to at
a desk and in which state it leaves the executor. The rules are those of the executor in memory without
the store: a run of a query comes to the reply of the executor (`Desk.ComesTo.run`), whatever the reply
is.
-/

namespace DocMapper.Desk

open Action

section InMemory

/-- The model has an executor, and the metadata of its log is a dictionary. -/
structure Ready (desk : Desk Memory) : Prop where
  bound : desk.bound = true
  base : ∃ entries, desk.logging.log.base = .dict entries

/-- What a desk has become: the executor has received some more and has a store by now, and all
else that operations can see is as before. -/
structure Becomes (desk : Desk Memory) (calls : List Value) (t : Store) (after : Desk Memory) :
    Prop where
  ready : desk.Ready → after.Ready
  calls : after.remote.calls = desk.remote.calls ++ calls
  store : after.remote.store = t
  now : after.logging.ambient.now = desk.logging.ambient.now

theorem Becomes.refl (desk : Desk Memory) : Becomes desk [] desk.remote.store desk :=
  ⟨id, by simp, rfl, rfl⟩

theorem Becomes.trans {desk mid after : Desk Memory} {calls calls' : List Value} {s t : Store}
    (h : Becomes desk calls s mid) (h' : Becomes mid calls' t after) :
    Becomes desk (calls ++ calls') t after where
  ready := h'.ready ∘ h.ready
  calls := by rw [h'.calls, h.calls, List.append_assoc]
  store := h'.store
  now := h'.now.trans h.now

/-- The operation comes to an outcome; the executor receives calls and is left with a store. -/
def Runs {α : Type} (desk : Desk Memory) (op : Op Memory α) (out : Except Fault α)
    (calls : List Value) (t : Store) : Prop :=
  ∃ after, op.perform desk = (out, after) ∧ Becomes desk calls t after

variable {α β : Type} {desk : Desk Memory} {op : Op Memory α} {next : α → Op Memory β} {a : α}
  {calls calls' : List Value} {s t : Store} {fault : Fault}

/-! ## Composition -/

theorem Runs.pure (desk : Desk Memory) (a : α) :
    desk.Runs (Pure.pure a) (.ok a) [] desk.remote.store :=
  ⟨desk, rfl, .refl desk⟩

/-- A computation without effects. -/
theorem Runs.lift (desk : Desk Memory) (r : Except Fault α) :
    desk.Runs (liftM r) r [] desk.remote.store :=
  ⟨desk, rfl, .refl desk⟩

theorem Runs.bind {out : Except Fault β} (h : desk.Runs op (.ok a) calls s)
    (hnext : ∀ mid, Becomes desk calls s mid → mid.Runs (next a) out calls' t) :
    desk.Runs (op >>= next) out (calls ++ calls') t := by
  obtain ⟨mid, hop, hmid⟩ := h
  obtain ⟨after, hnext, hafter⟩ := hnext mid hmid
  exact ⟨after, by rw [perform_bind_ok hop, hnext], hmid.trans hafter⟩

/-- What follows an operation that runs no query. -/
theorem Runs.quiet_bind {out : Except Fault β} (h : desk.Runs op (.ok a) [] s)
    (hnext : ∀ mid, Becomes desk [] s mid → mid.Runs (next a) out calls t) :
    desk.Runs (op >>= next) out calls t := by
  have hboth := h.bind hnext
  rwa [List.nil_append] at hboth

/-- What runs no query after an operation. -/
theorem Runs.bind_quiet {out : Except Fault β} (h : desk.Runs op (.ok a) calls s)
    (hnext : ∀ mid, Becomes desk calls s mid → mid.Runs (next a) out [] t) :
    desk.Runs (op >>= next) out calls t := by
  have hboth := h.bind hnext
  rwa [List.append_nil] at hboth

theorem Runs.bind_error (h : desk.Runs op (.error fault) calls s) :
    desk.Runs (op >>= next) (.error fault) calls s := by
  obtain ⟨after, hop, hafter⟩ := h
  exact ⟨after, perform_bind_error hop, hafter⟩

/-- The result of an operation in another form. -/
theorem Runs.map (f : α → β) {out : Except Fault α} (h : desk.Runs op out calls t) :
    desk.Runs (f <$> op) (out.map f) calls t := by
  obtain ⟨after, hop, hafter⟩ := h
  exact ⟨after, by rw [perform_map, hop], hafter⟩

/-- The executor of an operation is left with the store that the operation leaves. -/
theorem Runs.store_eq {out : Except Fault α} (h : desk.Runs op out calls t) :
    (op.perform desk).2.remote.store = t := by
  obtain ⟨after, hop, hafter⟩ := h
  rw [hop, hafter.store]

/-- What follows a computation without effects follows on its result. -/
theorem Runs.lift_bind {r : Except Fault α} {out : Except Fault β} (hr : r = .ok a)
    (hnext : desk.Runs (next a) out calls t) :
    desk.Runs (liftM r >>= next) out calls t := by
  obtain ⟨after, hnext, hafter⟩ := hnext
  exact ⟨after, by rw [hr, perform_bind_ok (perform_liftM _ _), hnext], hafter⟩

/-- Nothing follows a computation without effects that fails. -/
theorem Runs.lift_bind_error {r : Except Fault α} (hr : r = .error fault) :
    desk.Runs (liftM r >>= next) (.error fault) [] desk.remote.store := by
  rw [hr]
  exact Runs.bind_error (Runs.lift desk (.error fault))

theorem Runs.now_bind {next : Int → Op Memory β} {out : Except Fault β}
    (hnext : desk.Runs (next desk.logging.ambient.now) out calls t) :
    desk.Runs (Op.now >>= next) out calls t := by
  obtain ⟨after, hnext, hafter⟩ := hnext
  exact ⟨after, hnext, hafter⟩

/-- An operation comes to one outcome and leaves one store. -/
theorem Runs.unique {out out' : Except Fault α} (h : desk.Runs op out calls s)
    (h' : desk.Runs op out' calls' t) : out = out' ∧ s = t := by
  obtain ⟨after, hop, hafter⟩ := h
  obtain ⟨after', hop', hafter'⟩ := h'
  cases hop.symm.trans hop'
  exact ⟨rfl, hafter.store.symm.trans hafter'.store⟩

/-! ## The log -/

/-- The log without what it keeps and shows. -/
theorem perform_add {logging : Logging} {entries : Dict Value}
    (hbase : logging.log.base = .dict entries) (severity : Severity) (message : String)
    {details : Value} (hdetails : details = .null ∨ ∃ d, details = .dict d) :
    ∃ after, (Log.add severity message details).perform logging = (.ok (), after) ∧
      after.log.base = .dict entries ∧ after.ambient.now = logging.ambient.now := by
  obtain ⟨d, hd⟩ : ∃ d, (if details.truthy then details else .dict []) = .dict d := by
    rcases hdetails with rfl | ⟨d, rfl⟩
    · exact ⟨[], rfl⟩
    · exact ⟨d, Value.orEmpty_dict d⟩
  obtain ⟨console, hadd⟩ := Log.perform_add logging hbase ⟨severity, message, d⟩ hd
  exact ⟨_, hadd, hbase, rfl⟩

theorem Runs.onLog_add (h : desk.Ready) (severity : Severity) (message : String) {details : Value}
    (hdetails : details = .null ∨ ∃ d, details = .dict d) :
    desk.Runs (Op.onLog (Log.add severity message details)) (.ok ()) [] desk.remote.store := by
  obtain ⟨entries, hbase⟩ := h.base
  obtain ⟨after, hadd, hbase', hnow⟩ := perform_add hbase severity message hdetails
  refine ⟨{ desk with logging := after }, ?_, ⟨fun _ => ⟨h.bound, entries, hbase'⟩, by simp, rfl,
    hnow⟩⟩
  rw [Op.onLog, perform_zoom, hadd]

/-! ## Queries -/

/-- The executor in memory evaluates a query over its store and keeps it. -/
theorem perform_query (q : Query) (options : Value) (memory : Memory) :
    ∃ after, (Memory.executor.query q options).perform memory =
        (((Store.evaluate (.query q)).perform memory.store).1, after) ∧
      after.store = ((Store.evaluate (.query q)).perform memory.store).2 ∧
      after.calls = memory.calls ++ [.query q] := by
  simp only [Memory.executor, Memory.run, Memory.submit, Memory.onStore, perform_bind, perform_get,
    perform_set, perform_pure, perform_zoom]
  rcases (Store.evaluate (.query q)).perform memory.store with ⟨_ | v, t⟩
  · exact ⟨_, rfl, rfl, rfl⟩
  · exact ⟨_, rfl, rfl, rfl⟩

section Exchange

variable {x : Exchange} {owner : String} {q : Query} {out : Except Fault Value}

/-- A run of a query gives the reply. -/
theorem Runs.exchange (h : desk.Ready) (hx : x.withMetrics.truthy = false) (hq : q.Sendable)
    (he : (Store.evaluate (.query q)).perform desk.remote.store = (out, t)) :
    desk.Runs (x.exchange Memory.executor owner q) (.ok (out.map fun v => (v, []))) [.query q] t := by
  obtain ⟨base, hbase⟩ := h.base
  obtain ⟨remote, hquery, hstore, hcalls⟩ := perform_query q x.sentOptions desk.remote
  rw [he] at hquery hstore
  obtain ⟨console, hexchange⟩ := Exchange.perform_exchange h.bound hbase hq owner
    (Exchange.perform_reply_plain hx hquery)
  exact ⟨_, hexchange, fun _ => ⟨h.bound, base, (x.recorded_base ..).trans hbase⟩, hcalls, hstore,
    rfl⟩

/-- **The run of a query comes to what the query comes to**: its value, or a fault of the run whose
cause is the fault of the query. -/
theorem Runs.run (h : desk.Ready) (hx : x.withMetrics.truthy = false) (hq : q.Sendable)
    (he : (Store.evaluate (.query q)).perform desk.remote.store = (out, t)) :
    desk.Runs (x.run Memory.executor owner q) (out.mapError x.failure) [.query q] t := by
  refine Runs.bind_quiet (Runs.exchange h hx hq he) fun ran hran => ?_
  rw [← hran.store]
  cases out with
  | error cause => exact Runs.lift ran (.error (x.failure cause))
  | ok v => exact Runs.pure ran v

/-- A model without an executor runs no query. -/
theorem Runs.run_unbound (h : desk.bound = false) (x : Exchange) (owner : String) (q : Query) :
    ∃ fault, desk.Runs (x.run Memory.executor owner q) (.error fault) [] desk.remote.store := by
  have hbound : desk.Runs (x.requireBound owner) (.error (.misconfigured x.operation (.text owner)
      "attempted to execute a query before a client was set")) [] desk.remote.store := by
    refine ⟨desk, ?_, .refl desk⟩
    simp [Exchange.requireBound, perform_bind, h]
  exact ⟨_, Runs.bind_error (Runs.bind_error hbound)⟩

/-- A query that cannot be sent is not run. -/
theorem Runs.run_unsent (h : desk.Ready) (hq : ¬ q.Sendable) : ∃ fault,
    desk.Runs (x.run Memory.executor owner q) (.error fault) [] desk.remote.store := by
  obtain ⟨reason, hreason⟩ := Option.ne_none_iff_exists'.1 hq
  exact ⟨_, Runs.bind_error ⟨desk, Exchange.perform_exchange_unsent h.bound hreason _ x owner,
    .refl desk⟩⟩

/-! ## Results -/

/-- An operation comes to something, and leaves a store that goes with it. -/
def Ends {α : Type} (desk : Desk Memory) (op : Op Memory α) (R : Except Fault α → Store → Prop) :
    Prop :=
  ∃ out calls t, desk.Runs op out calls t ∧ R out t

/-- An operation comes to something, and any result of it has a property. -/
def Results {α : Type} (desk : Desk Memory) (op : Op Memory α) (Q : α → Prop) : Prop :=
  ∃ out calls t, desk.Runs op out calls t ∧ ∀ a, out = .ok a → Q a

variable {R : Except Fault β → Store → Prop} {Q : β → Prop}

theorem Ends.map {f : α → β} (h : desk.Ends op fun out t => R (out.map f) t) :
    desk.Ends (f <$> op) R := by
  obtain ⟨out, calls, t, hruns, hout⟩ := h
  exact ⟨_, calls, t, hruns.map f, hout⟩

theorem Ends.now_bind {next : Int → Op Memory β}
    (hnext : desk.Ends (next desk.logging.ambient.now) R) : desk.Ends (Op.now >>= next) R := by
  obtain ⟨out, calls, t, hruns, hout⟩ := hnext
  exact ⟨out, calls, t, hruns.now_bind, hout⟩

theorem Ends.lift_bind {r : Except Fault α} (herror : ∀ fault, R (.error fault) desk.remote.store)
    (hnext : ∀ a, r = .ok a → desk.Ends (next a) R) : desk.Ends (liftM r >>= next) R := by
  cases hr : r with
  | error fault => exact ⟨_, _, _, Runs.lift_bind_error rfl, herror fault⟩
  | ok a =>
    obtain ⟨out, calls, t, hruns, hout⟩ := hnext a hr
    exact ⟨out, calls, t, Runs.lift_bind rfl hruns, hout⟩

/-- What follows the run of a query follows on a value that the query comes to. -/
theorem Ends.run_bind (h : desk.bound = true → desk.Ready) (hx : x.withMetrics.truthy = false)
    {next : Value → Op Memory β} (hunsent : ∀ fault, R (.error fault) desk.remote.store)
    (herror : ∀ cause t, (Store.evaluate (.query q)).perform desk.remote.store =
      (.error cause, t) → ∀ fault, R (.error fault) t)
    (hnext : ∀ v t, (Store.evaluate (.query q)).perform desk.remote.store = (.ok v, t) →
      ∀ mid, Becomes desk [.query q] t mid → mid.Ends (next v) R) :
    desk.Ends (x.run Memory.executor owner q >>= next) R := by
  by_cases hbound : desk.bound = true
  · by_cases hq : q.Sendable
    · generalize heval : (Store.evaluate (.query q)).perform desk.remote.store = result
        at herror hnext
      obtain ⟨out, t⟩ := result
      have hrun : desk.Runs (x.run Memory.executor owner q) (out.mapError x.failure) _ t :=
        Runs.run (h hbound) hx hq heval
      cases out with
      | error fault => exact ⟨_, _, _, Runs.bind_error hrun, herror fault t rfl _⟩
      | ok v =>
        obtain ⟨mid, hmid, hbecomes⟩ := hrun
        obtain ⟨out, calls, u, ⟨after, hafter, hthen⟩, hout⟩ := hnext v t rfl mid hbecomes
        exact ⟨out, _, u, ⟨after, by rw [perform_bind_ok hmid, hafter], hbecomes.trans hthen⟩,
          hout⟩
    · obtain ⟨fault, hruns⟩ : ∃ fault, desk.Runs (x.run Memory.executor owner q) (.error fault) []
          desk.remote.store := Runs.run_unsent (h hbound) hq
      exact ⟨_, _, _, Runs.bind_error hruns, hunsent fault⟩
  · obtain ⟨fault, hruns⟩ := Runs.run_unbound (eq_false_of_ne_true hbound) x owner q
    exact ⟨_, _, _, Runs.bind_error hruns, hunsent fault⟩

theorem Results.lift_bind {r : Except Fault α}
    (hnext : ∀ a, r = .ok a → desk.Results (next a) Q) : desk.Results (liftM r >>= next) Q :=
  Ends.lift_bind (R := fun out _ => ∀ a, out = .ok a → Q a) (fun _ => nofun) hnext

/-- What follows the run of a query follows on a value that the query comes to. -/
theorem Results.run_bind (h : desk.Ready) (hx : x.withMetrics.truthy = false)
    {next : Value → Op Memory β}
    (hnext : ∀ v, ((Store.evaluate (.query q)).perform desk.remote.store).1 = .ok v →
      ∀ mid : Desk Memory, mid.Results (next v) Q) :
    desk.Results (x.run Memory.executor owner q >>= next) Q :=
  Ends.run_bind (R := fun out _ => ∀ a, out = .ok a → Q a) (fun _ => h) hx (fun _ => nofun)
    (fun _ _ _ _ => nofun) fun v _ heval mid _ => hnext v (by rw [heval]) mid

end Exchange

end InMemory

/-! ## Any executor -/

variable {σ α β : Type}

/-- The model has an executor, and the metadata of its log is a dictionary. -/
structure Staffed (desk : Desk σ) : Prop where
  bound : desk.bound = true
  base : ∃ entries, desk.logging.log.base = .dict entries

/-- What a desk has become by the time its executor is in a state. -/
structure Reaches (desk : Desk σ) (remote : σ) (after : Desk σ) : Prop where
  staffed : after.Staffed
  remote : after.remote = remote
  now : after.logging.ambient.now = desk.logging.ambient.now

/-- The operation comes to an outcome and leaves the executor in a state. -/
def ComesTo (desk : Desk σ) (op : Op σ α) (out : Except Fault α) (remote : σ) : Prop :=
  ∃ after, op.perform desk = (out, after) ∧ desk.Reaches remote after

variable {desk : Desk σ} {op : Op σ α} {next : α → Op σ β} {a : α} {remote remote' : σ}
  {fault : Fault}

/-! ### Composition -/

theorem ComesTo.pure (h : desk.Staffed) (a : α) :
    desk.ComesTo (Pure.pure a) (.ok a) desk.remote :=
  ⟨desk, rfl, h, rfl, rfl⟩

/-- A computation without effects. -/
theorem ComesTo.lift (h : desk.Staffed) (r : Except Fault α) :
    desk.ComesTo (liftM r) r desk.remote :=
  ⟨desk, rfl, h, rfl, rfl⟩

theorem ComesTo.bind {out : Except Fault β} (h : desk.ComesTo op (.ok a) remote)
    (hnext : ∀ mid, desk.Reaches remote mid → mid.ComesTo (next a) out remote') :
    desk.ComesTo (op >>= next) out remote' := by
  obtain ⟨mid, hop, hmid⟩ := h
  obtain ⟨after, hnext, hafter⟩ := hnext mid hmid
  exact ⟨after, by rw [perform_bind_ok hop, hnext], hafter.staffed, hafter.remote,
    hafter.now.trans hmid.now⟩

theorem ComesTo.bind_error (h : desk.ComesTo op (.error fault) remote) :
    desk.ComesTo (op >>= next) (.error fault) remote := by
  obtain ⟨after, hop, hafter⟩ := h
  exact ⟨after, perform_bind_error hop, hafter⟩

/-- What follows a computation without effects follows on its result. -/
theorem ComesTo.lift_bind {r : Except Fault α} {out : Except Fault β} (hr : r = .ok a)
    (hnext : desk.ComesTo (next a) out remote) : desk.ComesTo (liftM r >>= next) out remote := by
  obtain ⟨after, hnext, hafter⟩ := hnext
  exact ⟨after, by rw [hr, perform_bind_ok (perform_liftM _ _), hnext], hafter⟩

/-- Nothing follows a computation without effects that fails. -/
theorem ComesTo.lift_bind_error (h : desk.Staffed) {r : Except Fault α} (hr : r = .error fault) :
    desk.ComesTo (liftM r >>= next) (.error fault) desk.remote := by
  rw [hr]
  exact ComesTo.bind_error (ComesTo.lift h (.error fault))

/-- The result of an operation in another form. -/
theorem ComesTo.map (f : α → β) {out : Except Fault α} (h : desk.ComesTo op out remote) :
    desk.ComesTo (f <$> op) (out.map f) remote := by
  obtain ⟨after, hop, hafter⟩ := h
  exact ⟨after, by rw [perform_map, hop], hafter⟩

theorem ComesTo.now_bind {next : Int → Op σ β} {out : Except Fault β}
    (hnext : desk.ComesTo (next desk.logging.ambient.now) out remote) :
    desk.ComesTo (Op.now >>= next) out remote := by
  obtain ⟨after, hnext, hafter⟩ := hnext
  exact ⟨after, hnext, hafter⟩

/-! ### Queries -/

theorem ComesTo.onLog_add (h : desk.Staffed) (severity : Severity) (message : String)
    {details : Value} (hdetails : details = .null ∨ ∃ d, details = .dict d) :
    desk.ComesTo (Op.onLog (Log.add severity message details)) (.ok ()) desk.remote := by
  obtain ⟨entries, hbase⟩ := h.base
  obtain ⟨after, hadd, hbase', hnow⟩ := perform_add hbase severity message hdetails
  refine ⟨{ desk with logging := after }, ?_, ⟨h.bound, entries, hbase'⟩, rfl, hnow⟩
  rw [Op.onLog, perform_zoom, hadd]

section Exchange

variable {ex : Executor σ} {x : Exchange} {owner : String} {q : Query} {out : Except Fault Value}

/-- A run of a query gives the reply. -/
theorem ComesTo.exchange (h : desk.Staffed) (hx : x.withMetrics.truthy = false) (hq : q.Sendable)
    (hreply : (ex.query q x.sentOptions).perform desk.remote = (out, remote)) :
    desk.ComesTo (x.exchange ex owner q) (.ok (out.map fun v => (v, []))) remote := by
  obtain ⟨base, hbase⟩ := h.base
  obtain ⟨console, hexchange⟩ := Exchange.perform_exchange h.bound hbase hq owner
    (Exchange.perform_reply_plain hx hreply)
  exact ⟨_, hexchange, ⟨h.bound, base, (x.recorded_base ..).trans hbase⟩, rfl, rfl⟩

/-- **The run of a query comes to the reply of the executor**, or to a fault of the run whose cause
is the fault of the executor. -/
theorem ComesTo.run (h : desk.Staffed) (hx : x.withMetrics.truthy = false) (hq : q.Sendable)
    (hreply : (ex.query q x.sentOptions).perform desk.remote = (out, remote)) :
    desk.ComesTo (x.run ex owner q) (out.mapError x.failure) remote := by
  refine ComesTo.bind (ComesTo.exchange h hx hq hreply) fun ran hran => ?_
  rw [← hran.remote]
  cases out with
  | error cause => exact ComesTo.lift hran.staffed (.error (x.failure cause))
  | ok v => exact ComesTo.pure hran.staffed v

end Exchange

end DocMapper.Desk
