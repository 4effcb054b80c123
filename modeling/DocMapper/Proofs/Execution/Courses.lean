import DocMapper.Execution.Exchange
import DocMapper.Proofs.Execution.Performing
import Mathlib.Tactic.Choose
/-!
# The course of an operation

Whatever executor an operation is given, it takes one of two courses (`Course`): it stops with a fault
before the executor has received anything, or the executor receives one query and the operation reads
what it comes to off the reply. `Op.Asks` says that an operation takes such a course at a desk,
whatever the executor and its state are, and which queries it may ask.

An operation that leaves the executor alone is silent (`Op.Silent`): it only reads and changes the
log. What is silent may come before the query and after it (`Op.Asks.silent_bind`,
`Op.Asks.bind_silent`), and the run of a query asks it (`Op.asks_run`).
-/

namespace DocMapper

open Action

variable {σ α β : Type}

/-- What an operation does with an executor. -/
inductive Course (α : Type)
  /-- it fails, and the executor receives nothing -/
  | stop (fault : Fault) (logging : Logging)
  /-- the executor receives one query, and the reply is read -/
  | ask (x : Exchange) (q : Query) (logging : Logging)
    (read : Except Fault (Value × Dict Value) → Action Logging α)

namespace Course

/-- The query that the executor receives. -/
def query? : Course α → Option Query
  | stop .. => none
  | ask _ q _ _ => some q

/-- What the course comes to with an executor, and the desk that it leaves. -/
def take (ex : Executor σ) (bound : Bool) (remote : σ) : Course α → Except Fault α × Desk σ
  | stop fault logging => (.error fault, ⟨remote, bound, logging⟩)
  | ask x q logging read =>
    let (reply, remote) := (x.reply ex q).perform remote
    let (outcome, logging) := (read reply).perform logging
    (outcome, ⟨remote, bound, logging⟩)

/-- The course with more read after it. -/
def andThen (next : α → Action Logging β) : Course α → Course β
  | stop fault logging => stop fault logging
  | ask x q logging read => ask x q logging fun reply => read reply >>= next

@[simp] theorem query?_andThen (next : α → Action Logging β) (c : Course α) :
    (c.andThen next).query? = c.query? := by
  cases c <;> rfl

end Course

namespace Op

theorem perform_onLog (action : Action Logging α) (desk : Desk σ) :
    (onLog action).perform desk = ((action.perform desk.logging).1,
      { desk with logging := (action.perform desk.logging).2 }) := rfl

/-! ## Silent operations -/

/-- An operation that only reads and changes the log. -/
def Silent (op : ∀ σ, Op σ α) : Prop := ∃ action : Bool → Action Logging α,
  ∀ σ (desk : Desk σ), (op σ).perform desk = (onLog (action desk.bound)).perform desk

theorem Silent.lift (r : Except Fault α) : Silent fun _ => liftM r :=
  ⟨fun _ => liftM r, fun _ _ => rfl⟩

theorem Silent.pure (a : α) : Silent fun _ => pure a := ⟨fun _ => Pure.pure a, fun _ _ => rfl⟩

theorem Silent.throw (fault : Fault) : Silent fun _ => (throw fault : Op _ α) :=
  ⟨fun _ => MonadExcept.throw fault, fun _ _ => rfl⟩

theorem Silent.onLog (action : Action Logging α) : Silent fun _ => onLog action :=
  ⟨fun _ => action, fun _ _ => rfl⟩

theorem Silent.bind {op : ∀ σ, Op σ α} {next : ∀ σ, α → Op σ β} (h : Silent op)
    (hnext : ∀ a, Silent fun σ => next σ a) : Silent fun σ => op σ >>= next σ := by
  obtain ⟨action, haction⟩ := h
  choose following hfollowing using hnext
  refine ⟨fun bound => action bound >>= fun a => following a bound, fun σ desk => ?_⟩
  rw [perform_bind, haction, perform_onLog, perform_onLog, perform_bind]
  rcases (action desk.bound).perform desk.logging with ⟨fault | a, after⟩
  · rfl
  · exact hfollowing a σ _

theorem Silent.map (f : α → β) {op : ∀ σ, Op σ α} (h : Silent op) : Silent fun σ => f <$> op σ := by
  obtain ⟨action, haction⟩ := h
  exact ⟨fun bound => f <$> action bound, fun σ desk => by
    rw [perform_map, haction, perform_onLog, perform_onLog, perform_map]⟩

theorem Silent.now : Silent fun _ => now :=
  ⟨fun _ => do return (← get).ambient.now, fun _ _ => rfl⟩

/-! ## Operations that ask one query at most -/

/-- An operation that takes a course at a desk, whatever executor it is given, and asks a query of
some kind if it asks one. -/
def Asks (op : ∀ σ, Executor σ → Op σ α) (bound : Bool) (logging : Logging)
    (sends : Query → Prop) : Prop :=
  ∃ c : Course α, (∀ q, c.query? = some q → sends q) ∧ ∀ σ (ex : Executor σ) (remote : σ),
    (op σ ex).perform ⟨remote, bound, logging⟩ = c.take ex bound remote

section Asks

variable {op : ∀ σ, Executor σ → Op σ α} {bound : Bool} {logging : Logging} {sends : Query → Prop}

theorem Asks.mono {sends' : Query → Prop} (h : Asks op bound logging sends)
    (hsends : ∀ q, sends q → sends' q) : Asks op bound logging sends' := by
  obtain ⟨c, hc, htake⟩ := h
  exact ⟨c, fun q hq => hsends q (hc q hq), htake⟩

/-- What is silent before the query decides whether it is asked, and which. -/
theorem Asks.silent_bind {first : ∀ σ, Op σ α} {next : ∀ σ, Executor σ → α → Op σ β}
    (h : Silent first)
    (hnext : ∀ a logging, Asks (fun σ ex => next σ ex a) bound logging sends) :
    Asks (fun σ ex => first σ >>= next σ ex) bound logging sends := by
  obtain ⟨action, haction⟩ := h
  rcases hfirst : (action bound).perform logging with ⟨fault | a, after⟩
  · refine ⟨.stop fault after, by simp [Course.query?], fun σ ex remote => ?_⟩
    rw [perform_bind, haction, perform_onLog, hfirst]
    rfl
  · obtain ⟨c, hc, htake⟩ := hnext a after
    refine ⟨c, hc, fun σ ex remote => ?_⟩
    rw [perform_bind, haction, perform_onLog, hfirst]
    exact htake σ ex remote

/-- A computation without effects before the query. -/
theorem Asks.lift_bind {r : Except Fault α} {next : ∀ σ, Executor σ → α → Op σ β}
    (hnext : ∀ a, r = .ok a → Asks (fun σ ex => next σ ex a) bound logging sends) :
    Asks (fun σ ex => liftM r >>= next σ ex) bound logging sends := by
  cases hr : r with
  | error fault =>
    exact ⟨.stop fault logging, by simp [Course.query?], fun _ _ _ => rfl⟩
  | ok a =>
    obtain ⟨c, hc, htake⟩ := hnext a hr
    exact ⟨c, hc, fun σ ex remote => htake σ ex remote⟩

theorem Asks.now_bind {next : ∀ σ, Executor σ → Int → Op σ β}
    (hnext : Asks (fun σ ex => next σ ex logging.ambient.now) bound logging sends) :
    Asks (fun σ ex => now >>= next σ ex) bound logging sends := hnext

/-- What is silent after the query belongs to the reading of the reply. -/
theorem Asks.bind_silent {next : ∀ σ, α → Op σ β} (h : Asks op bound logging sends)
    (hnext : ∀ a, Silent fun σ => next σ a) :
    Asks (fun σ ex => op σ ex >>= next σ) bound logging sends := by
  obtain ⟨c, hc, htake⟩ := h
  choose following hfollowing using hnext
  refine ⟨c.andThen fun a => following a bound, by simpa using hc, fun σ ex remote => ?_⟩
  rw [perform_bind, htake]
  cases c with
  | stop fault logging => rfl
  | ask x q logging read =>
    simp only [Course.take, Course.andThen, perform_bind]
    rcases (read ((x.reply ex q).perform remote).1).perform logging with ⟨fault | a, after⟩
    · rfl
    · exact hfollowing a σ _

theorem Asks.map (f : α → β) (h : Asks op bound logging sends) :
    Asks (fun σ ex => f <$> op σ ex) bound logging sends := by
  simp only [← bind_pure_comp]
  exact h.bind_silent fun a => Silent.pure (f a)

end Asks

/-! ## Runs of queries -/

section Exchange

variable (x : Exchange) (owner : String) (q : Query) {bound : Bool} {logging : Logging}

theorem silent_requireBound : Silent fun _ => x.requireBound owner := by
  refine ⟨fun bound => if bound then pure () else throw (.misconfigured x.operation (.text owner)
    "attempted to execute a query before a client was set"), fun σ desk => ?_⟩
  obtain ⟨remote, bound, logging⟩ := desk
  cases bound <;> rfl

theorem silent_announce : Silent fun _ => x.announce q :=
  (Silent.lift q.wire).bind fun _ => Silent.onLog _

theorem silent_beginSpan : Silent fun _ => x.beginSpan := by
  unfold Exchange.beginSpan
  split
  · exact (Silent.onLog _).bind fun _ => Silent.pure _
  · exact Silent.pure _

theorem silent_endSpan (span : Option Nat) (details : Dict Value) :
    Silent fun _ => Exchange.endSpan span details := by
  cases span with
  | none => exact Silent.pure _
  | some number => exact Silent.onLog _

theorem silent_noteFailure (span : Option Nat) (cause : Fault) :
    Silent fun _ => x.noteFailure span cause :=
  (silent_endSpan span _).bind fun _ => Silent.onLog _

theorem silent_noteValue (span : Option Nat) (v : Value) (metrics : Dict Value) :
    Silent fun _ => x.noteValue span v metrics := by
  refine (silent_endSpan span metrics).bind fun _ => ?_
  dsimp only
  split
  · exact (Silent.onLog _).bind fun _ => Silent.onLog _
  · exact Silent.onLog _

/-- **The executor receives the query of an exchange once.** -/
theorem asks_exchange : Asks (fun _ ex => x.exchange ex owner q) bound logging (· = q) := by
  refine Asks.silent_bind (silent_requireBound x owner) fun _ _ =>
    Asks.silent_bind (silent_announce x q) fun _ _ =>
      Asks.silent_bind (silent_beginSpan x) fun span logging =>
        Asks.bind_silent ?_ fun reply => ?_
  · exact ⟨.ask x q logging Pure.pure, by simp [Course.query?, eq_comm], fun _ _ _ => rfl⟩
  · cases reply with
    | error cause => exact (silent_noteFailure x span cause).bind fun _ => Silent.pure _
    | ok result => exact (silent_noteValue x span _ _).bind fun _ => Silent.pure _

theorem asks_run : Asks (fun _ ex => x.run ex owner q) bound logging (· = q) := by
  refine (asks_exchange x owner q).bind_silent fun reply => ?_
  cases reply with
  | error cause => exact Silent.throw _
  | ok result => exact Silent.pure _

theorem asks_capture : Asks (fun _ ex => x.capture ex owner q) bound logging (· = q) := by
  refine (asks_exchange x owner q).bind_silent fun reply => ?_
  cases reply with
  | error cause => exact Silent.pure _
  | ok result => exact Silent.pure _

end Exchange

end Op

end DocMapper
