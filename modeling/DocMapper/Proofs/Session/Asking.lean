import DocMapper.Proofs.Model.Asking
import DocMapper.Session.Operations
/-!
# What the calls of a session ask

A session answers the calls of its models and documents by their names. A call sends one query at
most (`Session.AsksOnce`), because the operation that it performs asks for no more, and a call that
only builds leaves all of the session as it is.

Main statement: `Session.one_query_at_most`.
-/

namespace DocMapper

open Action

variable {α β : Type}

namespace Session

/-- What the executor of a session is after it received a query, if it received one. -/
def remoteAfter (remote : Remote) : Option (Exchange × Query) → Remote
  | none => remote
  | some (x, q) => ((x.reply ex q).perform remote).2

/-- The executor of the session receives one query at most. -/
def AsksOnce (run : Run α) : Prop :=
  ∀ s, ∃ asked, (run.perform s).2.remote = remoteAfter s.remote asked

/-- The executor of the session receives nothing. -/
def Quiet (run : Run α) : Prop := ∀ remote, Preserves (fun s => s.remote = remote) run

theorem Quiet.asksOnce {run : Run α} (h : Quiet run) : AsksOnce run :=
  fun s => ⟨none, h s.remote s rfl⟩

theorem Quiet.lift (r : Except Fault α) : Quiet (liftM r) := fun _ => Preserves.lift r

theorem Quiet.pure (a : α) : Quiet (pure a) := fun _ => Preserves.pure a

theorem Quiet.throw (fault : Fault) : Quiet (throw fault : Run α) := fun _ => Preserves.throw fault

theorem Quiet.bind {first : Run α} {next : α → Run β} (h : Quiet first)
    (hnext : ∀ a, Quiet (next a)) : Quiet (first >>= next) :=
  fun remote => (h remote).bind fun a => hnext a remote

theorem AsksOnce.quiet_bind {first : Run α} {next : α → Run β} (h : Quiet first)
    (hnext : ∀ a, AsksOnce (next a)) : AsksOnce (first >>= next) := by
  intro s
  have hfirst := h s.remote s rfl
  rw [perform_bind]
  generalize first.perform s = outcome at hfirst
  obtain ⟨fault | a, t⟩ := outcome
  · exact ⟨none, hfirst⟩
  · obtain ⟨asked, hasked⟩ := hnext a t
    exact ⟨asked, hasked.trans (by rw [hfirst])⟩

theorem AsksOnce.bind_quiet {first : Run α} {next : α → Run β} (h : AsksOnce first)
    (hnext : ∀ a, Quiet (next a)) : AsksOnce (first >>= next) := by
  intro s
  obtain ⟨asked, hasked⟩ := h s
  refine ⟨asked, ?_⟩
  rw [perform_bind]
  generalize first.perform s = outcome at hasked
  obtain ⟨fault | a, t⟩ := outcome
  · exact hasked
  · exact (hnext a t.remote t rfl).trans hasked

/-- An operation of a model asks in a session what it asks. -/
theorem asksOnce_performOp (number : Nat) (op : ∀ σ, Executor σ → Model → Op σ α)
    {sends : Model → Query → Prop}
    (h : ∀ m bound logging, Op.Asks (fun σ ex => op σ ex m) bound logging (sends m)) :
    AsksOnce (performOp number (op Remote ex)) := by
  intro s
  unfold performOp
  rw [perform_bind_ok (perform_get s)]
  cases hmember : s.member number with
  | error fault => exact ⟨none, rfl⟩
  | ok m =>
    obtain ⟨c, -, htake⟩ := h m.model m.attached.bound ⟨m.attached.log, s.ambient⟩
    have hremote : ((op Remote ex m.model).perform (s.desk m)).2.remote =
        (c.take ex m.attached.bound s.remote).2.remote :=
      congrArg (·.2.remote) (htake _ ex s.remote)
    cases c with
    | stop fault logging => exact ⟨none, hremote⟩
    | ask x q logging read => exact ⟨some (x, q), hremote⟩

/-- An operation that is silent asks nothing in a session. -/
theorem quiet_performOp (number : Nat) (op : ∀ σ, Model → Op σ α)
    (h : ∀ m, Op.Silent fun σ => op σ m) : Quiet (performOp number (op Remote)) := by
  intro remote s hs
  unfold performOp
  rw [perform_bind_ok (perform_get s)]
  cases hmember : s.member number with
  | error fault => exact hs
  | ok m =>
    obtain ⟨action, haction⟩ := h m.model
    have hremote : ((op Remote m.model).perform (s.desk m)).2.remote = s.remote := by
      rw [haction]
      rfl
    exact hremote.trans hs

/-- The answer of a call is made from the result of an operation. -/
theorem asksOnce_answer (number : Nat) (f : α → Answer) (op : ∀ σ, Executor σ → Model → Op σ α)
    {sends : Model → Query → Prop}
    (h : ∀ m bound logging, Op.Asks (fun σ ex => op σ ex m) bound logging (sends m)) :
    AsksOnce (do return f (← performOp number (op Remote ex))) :=
  (asksOnce_performOp number op h).bind_quiet fun a => Quiet.pure (f a)

section Calls

variable {number : Nat} {c : Call} {run : Run Answer}

theorem asksOnce_of_read? (h : read? number c = some run) : AsksOnce run := by
  unfold read? at h
  split at h
  · cases h
    exact AsksOnce.quiet_bind (Quiet.lift _) fun id =>
      asksOnce_answer number _ (fun _ ex m => m.get ex id) fun _ _ _ => Model.asks_get id
  · cases h
    exact AsksOnce.quiet_bind (Quiet.lift _) fun id =>
      asksOnce_answer number _ (fun _ ex m => m.getOrThrow ex id) fun _ _ _ =>
        Model.asks_getOrThrow id
  · cases h
    exact AsksOnce.quiet_bind (Quiet.lift _) fun ids =>
      asksOnce_answer number _ (fun _ ex m => m.getMany ex ids) fun _ _ _ => Model.asks_getMany ids
  · cases h
    exact AsksOnce.quiet_bind (Quiet.lift _) fun ids =>
      asksOnce_answer number _ (fun _ ex m => m.getManyOrThrow ex ids) fun _ _ _ =>
        Model.asks_getManyOrThrow ids
  · cases h
    exact AsksOnce.quiet_bind (Quiet.lift _) fun arg =>
      asksOnce_answer number _ (fun _ ex m => m.list ex (arg "size") (arg "after") (arg "before"))
        fun _ _ _ => Model.asks_list _ _ _
  · cases h
    exact AsksOnce.quiet_bind (Quiet.lift _) fun arg =>
      asksOnce_answer number _ (fun _ ex m => m.count ex (arg "max_docs")) fun _ _ _ =>
        Model.asks_count _
  · cases h
    exact AsksOnce.quiet_bind (Quiet.lift _) fun given =>
      asksOnce_answer number _ (fun _ ex m => m.getFirstByIndex ex given.1 given.2) fun _ _ _ =>
        Model.asks_getFirstByIndex _ _
  · cases h
    exact AsksOnce.quiet_bind (Quiet.lift _) fun arg =>
      asksOnce_answer number _ (fun _ ex m =>
        m.listByIndex ex (arg "index_name") (arg "terms") (arg "pagination")) fun _ _ _ =>
          Model.asks_listByIndex _ _ _
  · cases h

theorem asksOnce_writeOne (w : Model.Writing) : AsksOnce (write?.writeOne number c w) :=
  AsksOnce.quiet_bind (Quiet.lift _) fun arg =>
    asksOnce_answer number _ (fun _ ex m => m.write ex w (arg "id") (arg "data")) fun _ _ _ =>
      Model.asks_write w _ _

theorem asksOnce_writeAll (w : Model.Writing) : AsksOnce (write?.writeAll number c w) :=
  AsksOnce.quiet_bind (Quiet.lift _) fun items =>
    asksOnce_answer number _ (fun _ ex m => m.writeMany ex w items) fun _ _ _ =>
      Model.asks_writeMany w items

theorem asksOnce_of_write? (h : write? number c = some run) : AsksOnce run := by
  unfold write? at h
  split at h
  · cases h
    exact AsksOnce.quiet_bind (Quiet.lift _) fun arg =>
      asksOnce_answer number _ (fun _ ex m => m.create ex (arg "data") (arg "ttl")) fun _ _ _ =>
        Model.asks_create _ _
  · cases h
    exact AsksOnce.quiet_bind (Quiet.lift _) fun items =>
      asksOnce_answer number _ (fun _ ex m => m.createMany ex items) fun _ _ _ =>
        Model.asks_createMany items
  · cases h
    exact asksOnce_writeOne .update
  · cases h
    exact asksOnce_writeOne .replace
  · cases h
    exact asksOnce_writeAll .update
  · cases h
    exact asksOnce_writeAll .replace
  · cases h
    exact AsksOnce.quiet_bind (Quiet.lift _) fun id =>
      asksOnce_answer number _ (fun _ ex m => m.delete ex id) fun _ _ _ => Model.asks_delete id
  · cases h
    exact AsksOnce.quiet_bind (Quiet.lift _) fun ids =>
      asksOnce_answer number _ (fun _ ex m => m.deleteMany ex ids) fun _ _ _ =>
        Model.asks_deleteMany ids
  · cases h

theorem asksOnce_execute : AsksOnce (execute number c) := by
  unfold execute
  refine AsksOnce.quiet_bind (Quiet.lift _) fun arg => ?_
  dsimp only
  split
  · rename_i q _
    split
    · exact asksOnce_answer number _ (fun _ ex m => Exchange.run _ ex m.name q) fun m _ _ =>
        Op.asks_run _ m.name q
    · exact asksOnce_answer number _ (fun _ ex m => Exchange.capture _ ex m.name q) fun m _ _ =>
        Op.asks_capture _ m.name q
  · exact (Quiet.bind (quiet_performOp number (fun _ m => Exchange.requireBound _ m.name) fun m =>
      Op.silent_requireBound _ m.name) fun _ => Quiet.throw _).asksOnce

/-- The names of the calls that build instances and documents. -/
def buildNames : List String :=
  ["build", "build_sync", "build_bulk", "build_bulk_sync", "build_doc", "build_doc_sync",
    "build_bulk_docs", "build_bulk_docs_sync", "build_map_result"]

/-- Building leaves all of the session as it is. -/
theorem preserves_of_build? {m : Model} {now : Int} (h : build? number m now c = some run)
    (s : Session) : Preserves (· = s) run := by
  have hbuilt : ∀ {γ δ : Type} (arguments : Except Fault γ) (build : γ → Except Fault δ)
      (f : δ → Answer), Preserves (· = s) (do
        let given ← (liftM arguments : Run γ)
        let built ← (liftM (build given) : Run δ)
        return f built) := fun _ _ _ =>
    (Preserves.lift _).bind fun _ => (Preserves.lift _).bind fun _ => Preserves.pure _
  unfold build? at h
  split at h
  all_goals cases h
  all_goals apply hbuilt

theorem asksOnce_callModel (number : Nat) (c : Call) : AsksOnce (callModel number c) := by
  unfold callModel
  refine AsksOnce.quiet_bind (fun _ _ hs => hs) fun s =>
    AsksOnce.quiet_bind (Quiet.lift _) fun mem => ?_
  dsimp only
  split
  · exact asksOnce_of_read? ‹_›
  split
  · exact asksOnce_of_write? ‹_›
  split
  · exact Quiet.asksOnce fun remote t ht => by
      rw [preserves_of_build? ‹_› t t rfl]
      exact ht
  split
  · exact asksOnce_execute
  all_goals refine Quiet.asksOnce ?_
  · exact (Quiet.lift _).bind fun arg => (Quiet.lift _).bind fun _ => Quiet.pure _
  · exact (Quiet.lift _).bind fun id => (Quiet.lift _).bind fun _ => Quiet.pure _
  · exact (Quiet.lift _).bind fun _ => Quiet.pure _
  · exact (Quiet.lift _).bind fun _ => Quiet.pure _
  · exact (Quiet.lift _).bind fun _ => Quiet.bind (fun _ _ ht => ht) fun _ => Quiet.pure _
  · exact (Quiet.lift _).bind fun _ => Quiet.pure _
  · exact (Quiet.lift _).bind fun _ => Quiet.pure _
  · exact Quiet.throw _

/-- A call with one of these names builds, and does nothing else. -/
theorem build?_of_mem (hname : c.name ∈ buildNames) (number : Nat) :
    read? number c = none ∧ write? number c = none ∧
      ∀ m now, ∃ run, build? number m now c = some run := by
  unfold read? write? build?
  simp only [buildNames, List.mem_cons, List.not_mem_nil, or_false] at hname
  rcases hname with h | h | h | h | h | h | h | h | h
  all_goals
    rw [h]
    exact ⟨rfl, rfl, fun _ _ => ⟨_, rfl⟩⟩

/-- **Calls that build leave all of the session as it is.** -/
theorem callModel_of_build (number : Nat) (hname : c.name ∈ buildNames) (s : Session) :
    ((callModel number c).perform s).2 = s := by
  obtain ⟨hread, hwrite, hbuild⟩ := build?_of_mem hname number
  have hpreserved : Preserves (· = s) (callModel number c) := by
    unfold callModel
    refine Preserves.bind (fun _ hs => hs) fun s' => (Preserves.lift _).bind fun mem => ?_
    obtain ⟨run, hrun⟩ := hbuild mem.model s'.ambient.now
    simp only [hread, hwrite, hrun]
    exact preserves_of_build? hrun s
  exact hpreserved s rfl

/-- The names of the calls that make candidates of documents. -/
def candidateNames : List String := ["build_update", "build_update_sync"]

/-- Making a candidate of a document leaves all of the session as it is. -/
theorem callDocument_of_candidate (handle : String) (hname : c.name ∈ candidateNames)
    (s : Session) : ((callDocument handle c).perform s).2 = s := by
  have hpreserved : Preserves (· = s) (callDocument handle c) := by
    unfold callDocument
    refine Preserves.bind (fun _ hs => hs) fun s' => (Preserves.lift _).bind fun kept =>
      (Preserves.lift _).bind fun mem => ?_
    dsimp only
    simp only [candidateNames, List.mem_cons, List.not_mem_nil, or_false] at hname
    rcases hname with h | h
    all_goals
      rw [h]
      exact (Preserves.lift _).bind fun _ => (Preserves.lift _).bind fun _ => Preserves.pure _
  exact hpreserved s rfl

theorem asksOnce_callDocument (handle : String) (c : Call) : AsksOnce (callDocument handle c) := by
  unfold callDocument
  refine AsksOnce.quiet_bind (fun _ _ hs => hs) fun s => AsksOnce.quiet_bind (Quiet.lift _)
    fun kept => AsksOnce.quiet_bind (Quiet.lift _) fun mem => ?_
  dsimp only
  split
  · exact Quiet.asksOnce ((Quiet.lift _).bind fun _ => (Quiet.lift _).bind fun _ => Quiet.pure _)
  · exact Quiet.asksOnce ((Quiet.lift _).bind fun _ => (Quiet.lift _).bind fun _ => Quiet.pure _)
  · exact Quiet.asksOnce ((Quiet.lift _).bind fun _ => (Quiet.lift _).bind fun _ => Quiet.pure _)
  · exact AsksOnce.quiet_bind (Quiet.lift _) fun data =>
      asksOnce_answer kept.1 _ (fun _ ex m => m.updateDocument ex kept.2 data) fun _ _ _ =>
        Model.asks_updateDocument kept.2 data
  · exact AsksOnce.quiet_bind (Quiet.lift _) fun data =>
      asksOnce_answer kept.1 _ (fun _ ex m => m.replaceDocument ex kept.2 data) fun _ _ _ =>
        Model.asks_replaceDocument kept.2 data
  · exact AsksOnce.quiet_bind (Quiet.lift _) fun _ =>
      asksOnce_answer kept.1 _ (fun _ ex m => m.deleteDocument ex kept.2) fun _ _ _ =>
        Model.asks_delete _
  · exact AsksOnce.quiet_bind (Quiet.lift _) fun _ =>
      asksOnce_answer kept.1 _ (fun _ ex m => m.refresh ex kept.2) fun _ _ _ =>
        Model.asks_get _
  · exact Quiet.asksOnce ((Quiet.lift _).bind fun _ => Quiet.pure _)
  · exact Quiet.asksOnce (Quiet.throw _)

end Calls

/-- **One operation is one query at most.** Every operation of a model, or of a document that was
read before, takes a course that does not depend on the executor: it asks for what it needs in one
query and reads what it comes to off the reply, or it stops before. It stops if its input does not
fit the schema or its index is not there, and then all is as it was. Calls of a session send no more
than that, and those that only build leave all of the session as it is. -/
theorem one_query_at_most :
    (∀ (m : Model) (act : Model.Act) (bound : Bool) (logging : Logging),
      ∃ c, act.Follows m bound logging c) ∧
    (∀ (number : Nat) (c : Call), AsksOnce (callModel number c) ∧
      (c.name ∈ buildNames → ∀ s, ((callModel number c).perform s).2 = s)) ∧
    ∀ (handle : String) (c : Call), AsksOnce (callDocument handle c) ∧
      (c.name ∈ candidateNames → ∀ s, ((callDocument handle c).perform s).2 = s) :=
  ⟨Model.Act.exists_follows,
    fun number c => ⟨asksOnce_callModel number c, callModel_of_build number⟩,
    fun handle c => ⟨asksOnce_callDocument handle c, callDocument_of_candidate handle⟩⟩

/-- A session of `sampleModel` over the store of its desk. -/
def sampleSession : Session where
  members := [{ attached := { model := Model.sampleModel, log := Model.sampleModel.newLog,
                              bound := true }
                relations := {} }]
  names := [(.text "users", 0)]
  remote := .memory Model.sampleDesk.remote
  ambient := {}

/-- People without a name are refused before anything is sent, looking a person up sends a query,
and building one sends none. -/
theorem one_query_at_most_sample :
    (∃ fault, ((Model.Act.create (.dict []) .null).on Model.sampleModel Memory.executor).perform
      Model.sampleDesk = (.error fault, Model.sampleDesk)) ∧
    (∃ q, (((Model.Act.get "7").on Model.sampleModel Memory.executor.tapped).perform
      ⟨(Model.sampleDesk.remote, []), true, Model.sampleDesk.logging⟩).2.remote.2 = [q]) ∧
    ((callModel 0 ⟨"build", [.object [("name", "Ada")]], []⟩).perform sampleSession).2 =
      sampleSession := by
  obtain ⟨hacts, hcalls, -⟩ := one_query_at_most
  obtain ⟨c, hcreate⟩ := hacts Model.sampleModel (.create (.dict []) .null) true
    Model.sampleDesk.logging
  obtain ⟨d, hget⟩ := hacts Model.sampleModel (.get "7") true Model.sampleDesk.logging
  obtain ⟨fault, hfault⟩ :
      ∃ fault, Model.sampleModel.build 0 (.dict []) "create" .null = .error fault := ⟨_, rfl⟩
  obtain ⟨docs, hdocs⟩ : ∃ docs, (((Model.Act.get "7").on Model.sampleModel
      Memory.executor).perform Model.sampleDesk).1 = .ok docs := ⟨_, rfl⟩
  obtain ⟨q, hq⟩ := Option.isSome_iff_exists.1 (hget.answered _ _ docs hdocs)
  refine ⟨⟨fault, ?_⟩, ⟨q, ?_⟩, (hcalls 0 _).2 (by decide) sampleSession⟩
  · have htaken := hcreate.taken Memory.executor Model.sampleDesk.remote
    rwa [hcreate.refused fault hfault] at htaken
  · rw [hget.received, hq]
    rfl

end Session

end DocMapper
