import DocMapper.Execution.Exchange
import DocMapper.Execution.Memory
import DocMapper.Proofs.Query.Keeping
/-!
# What operations keep of the store

An operation reaches the store of the executor in memory through the queries that it runs and in no
other way. So it keeps of the store what its queries keep, however it ends and whatever becomes of the
log (`Op.Keeps`).
-/

namespace DocMapper

open Action

variable {P : Store → Prop} {α β : Type}

namespace Memory

/-- What the evaluation of a query keeps, the run of the query keeps. -/
theorem preserves_run {e : Value} (h : ∀ s, P s → P ((Store.evaluate e).perform s).2) :
    Preserves (fun memory => P memory.store) (run e) := by
  have hsubmit : Preserves (fun memory : Memory => P memory.store) (submit e) := fun _ h => h
  have hstore : Preserves (fun memory : Memory => P memory.store) (onStore (Store.evaluate e)) :=
    Preserves.zoom (fun _ _ => rfl) h
  have hresolved : ∀ number, Preserves (fun memory : Memory => P memory.store)
      (modify fun m => { m with events := m.events ++ [Event.resolved number] }) :=
    fun _ _ h => h
  exact hsubmit.bind fun number => hstore.bind fun _ => (hresolved number).bind fun _ =>
    Preserves.pure _

end Memory

namespace Op

/-- An operation keeps something of the store, however it ends. -/
def Keeps (P : Store → Prop) (op : Op Memory α) : Prop :=
  Preserves (fun desk => P desk.remote.store) op

theorem Keeps.pure (a : α) : Keeps P (pure a) := Preserves.pure a

theorem Keeps.lift (r : Except Fault α) : Keeps P (liftM r) := Preserves.lift r

theorem Keeps.throw (fault : Fault) : Keeps P (throw fault : Op Memory α) := Preserves.throw fault

theorem Keeps.bind {op : Op Memory α} {next : α → Op Memory β} (h : Keeps P op)
    (hnext : ∀ a, Keeps P (next a)) : Keeps P (op >>= next) := Preserves.bind h hnext

theorem Keeps.lift_bind {r : Except Fault α} {next : α → Op Memory β}
    (hnext : ∀ a, r = .ok a → Keeps P (next a)) : Keeps P (liftM r >>= next) :=
  Preserves.lift_bind hnext

theorem Keeps.onLog (action : Action Logging α) : Keeps P (onLog action) := fun _ h => h

theorem Keeps.now_bind {next : Int → Op Memory α} (hnext : ∀ now, Keeps P (next now)) :
    Keeps P (now >>= next) := fun desk h => hnext _ desk h

section Exchange

variable {q : Query} (x : Exchange) (owner : String)

/-- **An exchange keeps what its query keeps.** -/
theorem keeps_exchange (h : Store.KeptByQuery P q) :
    Keeps P (x.exchange Memory.executor owner q) := by
  have hbound : Keeps P (x.requireBound owner) := by
    intro desk hdesk
    unfold Exchange.requireBound
    rw [perform_bind, perform_get]
    dsimp only
    split
    · exact hdesk
    · exact hdesk
  have hannounce : Keeps P (x.announce q) := Keeps.lift_bind fun _ _ => Keeps.onLog _
  have hbegin : Keeps P x.beginSpan := by
    unfold Exchange.beginSpan
    split
    · exact (Keeps.onLog _).bind fun _ => Keeps.pure _
    · exact Keeps.pure _
  have hend : ∀ span details, Keeps P (Exchange.endSpan span details) := by
    intro span details
    cases span with
    | none => exact Keeps.pure _
    | some number => exact Keeps.onLog _
  have hreply : Keeps P (Op.onRemote (x.reply Memory.executor q).attempt) := by
    refine Preserves.zoom (P := fun memory : Memory => P memory.store) (fun _ _ => rfl)
      (Preserves.attempt ?_)
    unfold Exchange.reply
    split
    · exact (Memory.preserves_run h).bind fun _ => Preserves.pure _
    · exact (Memory.preserves_run h).bind fun _ => Preserves.pure _
  have hvalue : ∀ span v metrics, Keeps P (x.noteValue span v metrics) := by
    intro span v metrics
    refine (hend span metrics).bind fun _ => ?_
    dsimp only
    split
    · exact (Keeps.onLog _).bind fun _ => Keeps.onLog _
    · exact Keeps.onLog _
  refine hbound.bind fun _ => hannounce.bind fun _ => hbegin.bind fun span =>
    Keeps.bind hreply fun reply => ?_
  cases reply with
  | error cause => exact ((hend _ _).bind fun _ => Keeps.onLog _).bind fun _ => Keeps.pure _
  | ok result => exact (hvalue _ _ _).bind fun _ => Keeps.pure _

theorem keeps_run (h : Store.KeptByQuery P q) :
    Keeps P (x.run Memory.executor owner q) := by
  refine (keeps_exchange x owner h).bind fun reply => ?_
  cases reply with
  | error cause => exact Keeps.throw _
  | ok result => exact Keeps.pure _

theorem keeps_capture (h : Store.KeptByQuery P q) :
    Keeps P (x.capture Memory.executor owner q) := by
  refine (keeps_exchange x owner h).bind fun reply => ?_
  cases reply with
  | error cause => exact Keeps.pure _
  | ok result => exact Keeps.pure _

end Exchange

end Op

end DocMapper
