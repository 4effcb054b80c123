import Mathlib.Data.List.DropRight
import DocMapper.Proofs.Log.History
import DocMapper.Proofs.Session.Asking
/-!
# What the logs of a session show

The calls of models and documents tell the logs of the models what they do. What is told, what the
calls come to and what they do to the rest of the session are the same whatever the logs are
(`Session.Tells`), so that the log of each model shows the last of what the model was told, each entry
over the metadata that the log was given in the beginning.

Main statement: `Session.histories_are_tails`, of single logs and of those of models.
-/

namespace DocMapper

open Action

variable {α β : Type}

/-- The model of a session without its log. -/
def Member.bare (m : Member) : Member := { m with attached.log := default }

namespace Session

/-- The session without the logs of its models and what is on the console. -/
def bare (s : Session) : Session :=
  { s with members := s.members.map Member.bare, ambient.console := {} }

/-- The logs of the models have some metadata and show the last of some entries. -/
def Shows (base : Nat → Dict Value) (kept : Nat → Option Nat) (es : Nat → List LogEntry)
    (s : Session) : Prop :=
  ∀ n (m : Member), s.members[n]? = some m → m.attached.log.Shows (base n) (kept n) (es n)

/-- A run that tells the logs of the models something, whatever they are. -/
def Tells (run : Run α) : Prop :=
  ∀ b : Session, ∃ (out : Except Fault α) (after : Session) (told : Nat → List LogEntry),
    ∀ (s : Session) (base : Nat → Dict Value) (kept : Nat → Option Nat) (es : Nat → List LogEntry),
      s.bare = b → s.Shows base kept es →
        (run.perform s).1 = out ∧ (run.perform s).2.bare = after ∧
          (run.perform s).2.Shows base kept fun n => es n ++ (told n).map (LogEntry.over (base n))

/-! ## Rules -/

theorem Tells.lift (r : Except Fault α) : Tells (liftM r) := fun b =>
  ⟨r, b, fun _ => [], fun s _ _ es hb h => ⟨rfl, hb, by simpa using h⟩⟩

theorem Tells.pure (a : α) : Tells (pure a) := Tells.lift (.ok a)

theorem Tells.throw (fault : Fault) : Tells (throw fault : Run α) := Tells.lift (.error fault)

theorem Tells.bind {first : Run α} {next : α → Run β} (h : Tells first)
    (hnext : ∀ a, Tells (next a)) : Tells (first >>= next) := by
  intro b
  obtain ⟨out, after, told, hfirst⟩ := h b
  cases out with
  | error fault =>
    refine ⟨.error fault, after, told, fun s base kept es hb hs => ?_⟩
    obtain ⟨hout, hafter, hshows⟩ := hfirst s base kept es hb hs
    rw [perform_bind_error (Prod.ext hout rfl)]
    exact ⟨rfl, hafter, hshows⟩
  | ok a =>
    obtain ⟨out, last, more, hmore⟩ := hnext a after
    refine ⟨out, last, fun n => told n ++ more n, fun s base kept es hb hs => ?_⟩
    obtain ⟨hout, hafter, hshows⟩ := hfirst s base kept es hb hs
    rw [perform_bind_ok (Prod.ext hout rfl)]
    simpa using hmore _ base kept _ hafter hshows

/-- What is read of a session may not be its logs. -/
theorem Tells.get_bind {f : Session → Run α} (hf : ∀ s, f s = f s.bare) (h : ∀ s, Tells (f s)) :
    Tells (get >>= f) := by
  intro b
  obtain ⟨out, after, told, hrun⟩ := h b b
  refine ⟨out, after, told, fun s base kept es hb hs => ?_⟩
  rw [perform_bind_ok (perform_get s), hf s, hb]
  exact hrun s base kept es hb hs

theorem member_bare (s : Session) (number : Nat) :
    s.bare.member number = (s.member number).map Member.bare := by
  rw [member, member, bare, List.getElem?_map]
  cases s.members[number]? <;> rfl

/-- What is done with a model may not depend on its log. -/
theorem liftM_member_bind {f : Member → Run α} (hf : ∀ m, f m = f m.bare) (s : Session)
    (number : Nat) : liftM (s.member number) >>= f = liftM (s.bare.member number) >>= f := by
  rw [member_bare]
  cases s.member number with
  | error fault => rfl
  | ok m => exact hf m

/-- An answer that is kept under a handle is no part of a log. -/
theorem tells_keep (name : String) (answer : Answer) :
    Tells (modify fun s => s.keep name answer) := by
  intro b
  refine ⟨.ok ⟨⟩, b.keep name answer, fun _ => [], fun s base kept es hb hs => ⟨rfl, ?_, ?_⟩⟩
  · subst hb
    rw [perform_modify]
    cases answer <;> rfl
  · have hmembers : (s.keep name answer).members = s.members := by cases answer <;> rfl
    have hkeep : (s.keep name answer).Shows base kept es := fun n m hm =>
      hs n m (by rwa [hmembers] at hm)
    simpa using hkeep

/-! ## Changes to one model -/

theorem map_bare_modify (change change' : Member → Member)
    (h : ∀ m, (change m).bare = change' m.bare) (members : List Member) (number : Nat) :
    (members.modify number change).map Member.bare =
      (members.map Member.bare).modify number change' := by
  refine List.ext_getElem? fun n => ?_
  simp only [List.getElem?_map, List.getElem?_modify, Option.map_eq_map, Option.map_map]
  refine congrArg (Option.map · _) (funext fun m => ?_)
  by_cases hn : number = n <;> simp [hn, h]

/-- The logs show what they did, and that of the changed model shows what it was told. -/
theorem Shows.modify {s t : Session} {base : Nat → Dict Value} {kept : Nat → Option Nat}
    {es : Nat → List LogEntry} (h : s.Shows base kept es) {number : Nat} {change : Member → Member}
    {told : List LogEntry} (ht : t.members = s.members.modify number change)
    (hchange : ∀ m, s.members[number]? = some m → (change m).attached.log.Shows (base number)
      (kept number) (es number ++ told.map (LogEntry.over (base number)))) :
    t.Shows base kept fun n =>
      es n ++ (if n = number then told else []).map (LogEntry.over (base n)) := by
  intro n m hm
  rw [ht, List.getElem?_modify, Option.map_eq_map, Option.map_eq_some_iff] at hm
  obtain ⟨m, hm, rfl⟩ := hm
  by_cases hn : n = number
  · subst hn
    simpa using hchange m hm
  · simpa [hn, Ne.symm hn] using h n m hm

/-- Whether a model has an executor is no part of its log. -/
theorem tells_setBound (number : Nat) (bound : Bool) :
    Tells (changeMember number fun m => { m with attached.bound := bound }) := by
  intro b
  refine ⟨.ok ⟨⟩, { b with members := b.members.modify number fun m =>
    { m with attached.bound := bound } }, fun n => if n = number then [] else [],
      fun s base kept es hb hs => ⟨rfl, ?_, hs.modify rfl fun m hm => ?_⟩⟩
  · subst hb
    have hmembers := map_bare_modify (fun m => { m with attached.bound := bound })
      (fun m => { m with attached.bound := bound }) (fun _ => rfl) s.members number
    exact congrArg (fun members => { s.bare with members := members }) hmembers
  · simpa using hs number m hm

/-- The session after an operation of a model that it has. -/
theorem perform_performOp {s : Session} {number : Nat} {m : Member}
    (hm : s.members[number]? = some m) (op : Model → Op Remote α) :
    (performOp number op).perform s = (((op m.model).perform (s.desk m)).1,
      { s with
        remote := ((op m.model).perform (s.desk m)).2.remote
        ambient := ((op m.model).perform (s.desk m)).2.logging.ambient
        members := s.members.modify number fun m' =>
          { m' with attached.log := ((op m.model).perform (s.desk m)).2.logging.log } }) := by
  have hmember : s.member number = .ok m := by rw [member, hm]
  rw [performOp, perform_bind_ok (perform_get s), hmember]
  rfl

/-- An operation of a model tells the log of the model what it tells. -/
theorem tells_performOp (number : Nat) {op : Model → Op Remote α} (h : ∀ m, Op.Tells (op m)) :
    Tells (performOp number op) := by
  intro b
  cases hb : b.members[number]? with
  | none =>
    refine ⟨.error noMember, b, fun _ => [], fun s base kept es hs hshows => ?_⟩
    subst hs
    rw [bare, List.getElem?_map, Option.map_eq_none_iff] at hb
    have hmember : s.member number = .error noMember := by rw [member, hb]
    have hperform : (performOp number op).perform s = (.error noMember, s) := by
      rw [performOp, perform_bind_ok (perform_get s), hmember]
      rfl
    rw [hperform]
    exact ⟨rfl, rfl, by simpa using hshows⟩
  | some m =>
    obtain ⟨out, remote, told, hop⟩ := h m.model b.remote m.attached.bound b.ambient.now
    refine ⟨out, { b with remote := remote }, fun n => if n = number then told else [],
      fun s base kept es hs hshows => ?_⟩
    subst hs
    rw [bare, List.getElem?_map, Option.map_eq_some_iff] at hb
    obtain ⟨m, hm, rfl⟩ := hb
    obtain ⟨log, console, hperform, hlog⟩ := hop m.attached.log s.ambient.console (base number)
      (kept number) (es number) (hshows number m hm)
    have hdesk : (op m.model).perform (s.desk m) =
      (out, ⟨remote, m.attached.bound, ⟨log, ⟨s.ambient.now, console⟩⟩⟩) := hperform
    rw [perform_performOp hm, hdesk]
    refine ⟨rfl, ?_, hshows.modify rfl fun _ _ => hlog⟩
    have hmembers := map_bare_modify (fun m => { m with attached.log := log }) id (fun _ => rfl)
      s.members number
    rw [List.modify_id] at hmembers
    exact congrArg (fun members => { s.bare with members := members, remote := remote }) hmembers

/-! ## Calls -/

section Calls

variable {number : Nat} {c : Call} {run : Run Answer}

/-- The answer of a call is made from the result of an operation. -/
theorem tells_answer (number : Nat) (f : α → Answer) {op : Model → Op Remote α}
    (h : ∀ m, Op.Tells (op m)) : Tells (do return f (← performOp number op)) :=
  (tells_performOp number h).bind fun a => Tells.pure (f a)

theorem tells_of_read? (h : read? number c = some run) : Tells run := by
  unfold read? at h
  split at h
  all_goals cases h
  · exact (Tells.lift _).bind fun id => tells_answer number _ fun _ => Model.tells_get id
  · exact (Tells.lift _).bind fun id => tells_answer number _ fun _ => Model.tells_getOrThrow id
  · exact (Tells.lift _).bind fun ids => tells_answer number _ fun _ => Model.tells_getMany ids
  · exact (Tells.lift _).bind fun ids => tells_answer number _ fun _ =>
      Model.tells_getManyOrThrow ids
  · exact (Tells.lift _).bind fun _ => tells_answer number _ fun _ => Model.tells_list _ _ _
  · exact (Tells.lift _).bind fun _ => tells_answer number _ fun _ => Model.tells_count _
  · exact (Tells.lift _).bind fun _ => tells_answer number _ fun _ =>
      Model.tells_getFirstByIndex _ _
  · exact (Tells.lift _).bind fun _ => tells_answer number _ fun _ => Model.tells_listByIndex _ _ _

theorem tells_writeOne (w : Model.Writing) : Tells (write?.writeOne number c w) :=
  (Tells.lift _).bind fun _ => tells_answer number _ fun _ => Model.tells_write w _ _

theorem tells_writeAll (w : Model.Writing) : Tells (write?.writeAll number c w) :=
  (Tells.lift _).bind fun _ => tells_answer number _ fun _ => Model.tells_writeMany w _

theorem tells_of_write? (h : write? number c = some run) : Tells run := by
  unfold write? at h
  split at h
  all_goals cases h
  · exact (Tells.lift _).bind fun _ => tells_answer number _ fun _ => Model.tells_create _ _
  · exact (Tells.lift _).bind fun _ => tells_answer number _ fun _ => Model.tells_createMany _
  · exact tells_writeOne .update
  · exact tells_writeOne .replace
  · exact tells_writeAll .update
  · exact tells_writeAll .replace
  · exact (Tells.lift _).bind fun id => tells_answer number _ fun _ => Model.tells_delete id
  · exact (Tells.lift _).bind fun ids => tells_answer number _ fun _ => Model.tells_deleteMany ids

theorem tells_execute : Tells (execute number c) := by
  unfold execute
  refine (Tells.lift _).bind fun arg => ?_
  dsimp only
  split
  · rename_i q _
    split
    · exact tells_answer number _ fun m => Op.tells_run _ m.name q
    · exact tells_answer number _ fun m => Op.tells_capture _ m.name q
  · exact (tells_performOp number fun m => Op.tells_requireBound _ m.name).bind fun _ =>
      Tells.throw _

theorem tells_of_build? {m : Model} {now : Int} (h : build? number m now c = some run) :
    Tells run := by
  have hbuilt : ∀ {γ δ : Type} (arguments : Except Fault γ) (build : γ → Except Fault δ)
      (f : δ → Answer), Tells (do
        let given ← (liftM arguments : Run γ)
        let built ← (liftM (build given) : Run δ)
        return f built) := fun _ _ _ =>
    (Tells.lift _).bind fun _ => (Tells.lift _).bind fun _ => Tells.pure _
  unfold build? at h
  split at h
  all_goals cases h
  all_goals apply hbuilt

theorem tells_callModel (number : Nat) (c : Call) : Tells (callModel number c) := by
  unfold callModel
  refine Tells.get_bind (fun s => liftM_member_bind (fun _ => rfl) s number) fun s =>
    (Tells.lift _).bind fun mem => ?_
  dsimp only
  split
  · exact tells_of_read? ‹_›
  split
  · exact tells_of_write? ‹_›
  split
  · exact tells_of_build? ‹_›
  split
  · exact tells_execute
  · exact (Tells.lift _).bind fun arg => (Tells.lift _).bind fun _ => Tells.pure _
  · exact (Tells.lift _).bind fun id => (Tells.lift _).bind fun _ => Tells.pure _
  · exact (Tells.lift _).bind fun _ => Tells.pure _
  · exact (Tells.lift _).bind fun _ => Tells.pure _
  · exact (Tells.lift _).bind fun _ => (tells_setBound number _).bind fun _ => Tells.pure _
  · exact (Tells.lift _).bind fun _ => Tells.pure _
  · exact (Tells.lift _).bind fun _ => Tells.pure _
  · exact Tells.throw _

theorem tells_callDocument (handle : String) (c : Call) : Tells (callDocument handle c) := by
  unfold callDocument
  refine Tells.get_bind (fun s => ?_) fun s => (Tells.lift _).bind fun kept =>
    (Tells.lift _).bind fun mem => ?_
  · have hdocument : s.bare.document handle = s.document handle := rfl
    rw [hdocument]
    exact congrArg (liftM (s.document handle) >>= ·) <| funext fun kept =>
      liftM_member_bind (fun _ => rfl) s kept.1
  dsimp only
  split
  · exact (Tells.lift _).bind fun _ => (Tells.lift _).bind fun _ => Tells.pure _
  · exact (Tells.lift _).bind fun _ => (Tells.lift _).bind fun _ => Tells.pure _
  · exact (Tells.lift _).bind fun _ => (Tells.lift _).bind fun _ => Tells.pure _
  · exact (Tells.lift _).bind fun data => tells_answer kept.1 _ fun _ =>
      Model.tells_updateDocument kept.2 data
  · exact (Tells.lift _).bind fun data => tells_answer kept.1 _ fun _ =>
      Model.tells_replaceDocument kept.2 data
  · exact (Tells.lift _).bind fun _ => tells_answer kept.1 _ fun _ => Model.tells_delete _
  · exact (Tells.lift _).bind fun _ => tells_answer kept.1 _ fun _ => Model.tells_get _
  · exact (Tells.lift _).bind fun _ => Tells.pure _
  · exact Tells.throw _

end Calls

/-! ## Operations one after another -/

/-- A call of a model, by its number, or of a document that was kept, by its handle. The answer may be
kept in turn. -/
inductive Operation
  | model (number : Nat) (call : Call) (keepAs : Option String)
  | document (handle : String) (call : Call) (keepAs : Option String)

/-- Keeps the answer of a call if there is a handle for it. -/
def keepAnswer (keepAs : Option String) (run : Run Answer) : Run Unit := do
  let answer ← run
  match keepAs with
  | some name => modify fun s => s.keep name answer
  | none => return ()

/-- What an operation does. -/
def Operation.run : Operation → Run Unit
  | model number c keepAs => keepAnswer keepAs (callModel number c)
  | document handle c keepAs => keepAnswer keepAs (callDocument handle c)

/-- The session after operations, some of which may have failed. -/
def performAll (ops : List Operation) (s : Session) : Session :=
  ops.foldl (fun s o => (o.run.perform s).2) s

theorem tells_keepAnswer (keepAs : Option String) {run : Run Answer} (h : Tells run) :
    Tells (keepAnswer keepAs run) := by
  refine h.bind fun answer => ?_
  cases keepAs with
  | some name => exact tells_keep name answer
  | none => exact Tells.pure ()

theorem Operation.tells_run (o : Operation) : Tells o.run := by
  cases o with
  | model number c keepAs => exact tells_keepAnswer keepAs (tells_callModel number c)
  | document handle c keepAs => exact tells_keepAnswer keepAs (tells_callDocument handle c)

/-- **What operations tell the logs of models** is the same whatever the logs are. -/
theorem exists_told (ops : List Operation) (b : Session) :
    ∃ told : Nat → List LogEntry, ∀ (s : Session) (base : Nat → Dict Value)
      (kept : Nat → Option Nat) (es : Nat → List LogEntry), s.bare = b → s.Shows base kept es →
        (performAll ops s).Shows base kept fun n =>
          es n ++ (told n).map (LogEntry.over (base n)) := by
  induction ops generalizing b with
  | nil => exact ⟨fun _ => [], fun s _ _ _ _ hs => by simpa [performAll] using hs⟩
  | cons o rest ih =>
    obtain ⟨out, after, told, hrun⟩ := o.tells_run b
    obtain ⟨more, hmore⟩ := ih after
    refine ⟨fun n => told n ++ more n, fun s base kept es hb hs => ?_⟩
    obtain ⟨-, hafter, hshows⟩ := hrun s base kept es hb hs
    simpa [performAll] using hmore _ base kept _ hafter hshows

/-- The log of a new model has the model's name for its metadata. -/
theorem shows_newLog (m : Model) :
    m.newLog.Shows (Dict.ofFields [("name", .text m.name)]) (some 500) [] :=
  ⟨rfl, rfl, rfl⟩

/-- **A log shows the last of what it was told**, as many entries as its history holds, and each entry
has its own metadata over those that the log was given when it was made. So it is with a log that
answers calls, whatever they are; and so it is with the logs of models after any operations, where what
the logs were told depends neither on their metadata nor on what they had shown. -/
theorem histories_are_tails :
    (∀ (action : Value) (m : Dict Value) (echo : Bool) (n : Int) (log : Log),
      Log.new action (.dict m) echo (.int n) = .ok log →
        ∀ (ambient : Ambient) (calls : List Call),
          (LogBook.answerAll calls ⟨⟨log, ambient⟩, []⟩).logging.log.base = .dict m ∧
          (LogBook.answerAll calls ⟨⟨log, ambient⟩, []⟩).logging.log.entries =
            ((calls.filterMap LogBook.told?).rtake n.toNat).map (LogEntry.over m)) ∧
    ∀ (ops : List Operation) (b : Session), ∃ told : Nat → List LogEntry,
      ∀ (s : Session) (base : Nat → Dict Value) (kept : Nat → Option Nat)
        (es : Nat → List LogEntry), s.bare = b → s.Shows base kept es →
          (performAll ops s).Shows base kept fun n =>
            es n ++ (told n).map (LogEntry.over (base n)) := by
  refine ⟨fun action m echo n log hlog ambient calls => ?_, exists_told⟩
  obtain ⟨bound, hbound, hnew⟩ := Log.shows_new hlog
  have hshows : (LogBook.answerAll calls ⟨⟨log, ambient⟩, []⟩).logging.log.Shows m bound _ :=
    LogBook.shows_answerAll hnew calls
  refine ⟨hshows.base_eq, ?_⟩
  rw [hshows.entries_eq, Log.eq_of_boundOf_int hbound, List.nil_append, keepLast, List.length_map,
    List.rtake, List.map_drop]

/-- A log of one entry that was told two shows the last, and the log of a model shows what it was told
when a document was looked up. -/
theorem histories_are_tails_sample :
    (∃ log, Log.new "jobs" (.dict [("app", "mail")]) false (.int 1) = .ok log ∧
      (LogBook.answerAll [⟨"debug", ["queued"], []⟩,
        ⟨"info", ["sent", .dict [("to", "ada"), ("app", "post")]], []⟩]
          ⟨⟨log, {}⟩, []⟩).logging.log.entries =
        [⟨"info", "sent", [("app", "post"), ("to", "ada")]⟩]) ∧
    (∃ told : Nat → List LogEntry, ∀ m : Member,
      (performAll [.model 0 ⟨"get", ["7"], []⟩ none] sampleSession).members[0]? = some m →
        m.attached.log.entries =
          keepLast (some 500) ((told 0).map (LogEntry.over [("name", "users")]))) := by
  obtain ⟨hlogs, hmodels⟩ := histories_are_tails
  refine ⟨⟨_, rfl, ((hlogs "jobs" [("app", "mail")] false 1 _ rfl {} _).2).trans rfl⟩, ?_⟩
  obtain ⟨told, htold⟩ := hmodels [.model 0 ⟨"get", ["7"], []⟩ none] sampleSession.bare
  have hnew : sampleSession.Shows (fun _ => [("name", "users")]) (fun _ => some 500) fun _ => [] := by
    intro n m hm
    obtain rfl := List.mem_singleton.1 (List.mem_of_getElem? hm)
    exact shows_newLog Model.sampleModel
  exact ⟨told, fun m hm => (htold sampleSession _ _ _ rfl hnew 0 m hm).entries_eq⟩

end Session

end DocMapper
