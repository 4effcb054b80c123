import DocMapper.Call.LogBook
import DocMapper.Model.Operations
import DocMapper.Proofs.Data.Outcome
import DocMapper.Proofs.Execution.Noting
import DocMapper.Proofs.Execution.Performing
/-!
# What a log is told and shows

A log shows the last of the entries that were ever added to it, each with the metadata that the log was
given in the beginning under its own (`Log.Shows`). An entry with its own metadata only is laid over
that of the log (`LogEntry.over`), so that it does not matter what else the log was told. Whatever calls
a log answers, it goes on to show the entries that they add (`LogBook.shows_answerAll`).

An operation of a model tells the model's log what it does, and that is all that it has to do with it:
what it tells, what it comes to and what it does to the executor are the same whatever the log shows
and whatever metadata it has (`Op.Tells`). The run of a query tells of its announcement and of its
outcome (`Op.tells_exchange`); operations are runs of queries between computations that tell nothing.
-/

namespace DocMapper

open Action

/-- The metadata that is given with an entry, if it is a dictionary or nothing. -/
def Value.metadata? (details : Value) : Option (Dict Value) :=
  (if details.truthy then details else .dict []).entries.toOption

/-- The entry that is kept of an entry with its own metadata, over that of the log. -/
def LogEntry.over (base : Dict Value) (e : LogEntry) : LogEntry :=
  { e with details := Value.mergeEntries base e.details }

@[simp] theorem keepLast_nil {α : Type} (bound : Option Nat) :
    keepLast bound ([] : List α) = [] := by
  cases bound with
  | none => rfl
  | some n => exact List.drop_nil

namespace Log

variable {log : Log} {base : Dict Value} {bound : Option Nat} {es : List LogEntry}

/-- A log has some metadata and shows the last of some entries, up to a bound. -/
structure Shows (base : Dict Value) (bound : Option Nat) (es : List LogEntry) (log : Log) : Prop where
  base_eq : log.base = .dict base
  history_eq : log.history = bound
  entries_eq : log.entries = keepLast bound es

/-- A log that shows some entries shows more of them when it keeps more. -/
theorem Shows.append (h : log.Shows base bound es) (log' : Log) (hbase : log'.base = log.base)
    (hhistory : log'.history = log.history) {new : List LogEntry}
    (hentries : log'.entries = keepLast log.history (log.entries ++ new)) :
    log'.Shows base bound (es ++ new) where
  base_eq := hbase.trans h.base_eq
  history_eq := hhistory.trans h.history_eq
  entries_eq := by rw [hentries, h.entries_eq, h.history_eq, keepLast_append_keepLast]

/-- A new log has its metadata and shows nothing. -/
theorem shows_new {action : Value} {echo : Bool} {history : Value}
    (h : Log.new action (.dict base) echo history = .ok log) :
    ∃ bound, boundOf history = .ok bound ∧ log.Shows base bound [] := by
  obtain ⟨bound, hbound, hlog⟩ := Except.bind_eq_ok.1 h
  cases hlog
  exact ⟨bound, hbound, Value.orEmpty_dict base, rfl, (keepLast_nil bound).symm⟩

theorem eq_of_boundOf_int {n : Int} (h : boundOf (.int n) = .ok bound) : bound = some n.toNat := by
  have hposition : (Value.int n).asPosition = .ok n := rfl
  rw [boundOf, hposition] at h
  · simp only [bind, Except.bind] at h
    split at h
    · cases h
    split at h
    · cases h
    · cases h
      rfl
  · exact Value.noConfusion

/-- The entry that is added, with its own metadata only. -/
def told? (severity message details : Value) : Option LogEntry :=
  details.metadata?.map fun own => ⟨severity, message, own⟩

/-- The metadata of the log is under that of the entry. -/
theorem entry_eq (hbase : log.base = .dict base) (severity message details : Value) :
    log.entry severity message details =
      (if details.truthy then details else .dict []).entries.map fun own =>
        LogEntry.over base ⟨severity, message, own⟩ := by
  rw [entry, hbase]
  generalize (if details.truthy then details else .dict []) = given
  cases hgiven : given.entries with
  | error fault => simp only [Value.merge, hgiven]; rfl
  | ok own => simp only [Value.merge, hgiven]; rfl

/-- **A log shows what is added to it**, and one more entry does not change those before. -/
theorem shows_addAs {logging : Logging} (h : logging.log.Shows base bound es)
    (severity message details : Value) :
    ((addAs severity message details).perform logging).2.log.Shows base bound
      (es ++ (told? severity message details).toList.map (LogEntry.over base)) := by
  have hentry := entry_eq h.base_eq severity message details
  rw [addAs, perform_bind_ok (perform_get logging), told?, Value.metadata?]
  cases hown : (if details.truthy then details else .dict []).entries with
  | error fault =>
    rw [hown] at hentry
    rw [perform_bind_error (perform_liftM _ _ |>.trans (by rw [hentry]; rfl))]
    simpa [Except.toOption] using h
  | ok own =>
    rw [hown] at hentry
    rw [perform_bind_ok (perform_liftM _ _ |>.trans (by rw [hentry]; rfl)),
      perform_bind_ok (perform_set _ _)]
    have hkept : (logging.log.keep (.over base ⟨severity, message, own⟩)).Shows base bound
        (es ++ [.over base ⟨severity, message, own⟩]) :=
      h.append (logging.log.keep _) rfl rfl rfl
    -- Whether the entry can be shown on the console is settled after it is kept.
    refine Preserves.bind (P := fun after : Logging => after.log.Shows base bound _)
      (Preserves.lift _) (fun _ => Preserves.bind ?_ fun _ => Preserves.pure _) _ hkept
    exact fun _ hafter => hafter

theorem Shows.preserved_beginSpan (action details : Value) :
    Preserves (fun l => l.log.Shows base bound es) (beginSpan action details) :=
  fun _ h => ⟨h.base_eq, h.history_eq, h.entries_eq⟩

theorem Shows.preserved_endSpan (number : Nat) :
    Preserves (fun l => l.log.Shows base bound es) (endSpan number) :=
  fun _ h => ⟨h.base_eq, h.history_eq, h.entries_eq⟩

end Log

namespace LogBook

variable {base : Dict Value} {bound : Option Nat} {es : List LogEntry}

/-- The entry that a call adds, with its own metadata only, if it adds one. -/
def told? (c : Call) : Option LogEntry :=
  if c.name = "add_log" then do
    let arg ← (c.bind [need "severity", need "message", may "meta" .null]).toOption
    Log.told? (arg "severity") (arg "message") (arg "meta")
  else do
    let _ ← Severity.byName.get? (.text c.name)
    let arg ← (c.bind [need "message", may "meta" .null]).toOption
    Log.told? (.text c.name) (arg "message") (arg "meta")

theorem shows_addEntry {book : LogBook} (h : book.logging.log.Shows base bound es)
    (severity message details : Value) :
    ((addEntry severity message details).perform book).2.logging.log.Shows base bound
      (es ++ (Log.told? severity message details).toList.map (LogEntry.over base)) := by
  rw [addEntry, bind_pure_comp, perform_map, onLog, perform_zoom]
  exact Log.shows_addAs h severity message details

theorem preserves_onLog {α : Type} {action : Action Logging α}
    (h : Preserves (fun l => l.log.Shows base bound es) action) :
    Preserves (fun book : LogBook => book.logging.log.Shows base bound es) (onLog action) :=
  Preserves.zoom (fun _ _ => rfl) h

theorem preserved_begin (action details : Value) :
    Preserves (fun book : LogBook => book.logging.log.Shows base bound es) (begin action details) :=
  Preserves.bind (fun _ h => h) fun _ =>
    (preserves_onLog (Log.Shows.preserved_beginSpan action details)).bind fun _ =>
      Preserves.bind (fun _ h => h) fun _ => Preserves.pure _

theorem preserved_finish (number : Nat) :
    Preserves (fun book : LogBook => book.logging.log.Shows base bound es) (finish number) :=
  Preserves.bind (fun _ h => h) fun _ => (Preserves.lift _).bind fun _ =>
    (preserves_onLog (Log.Shows.preserved_endSpan number)).bind fun _ => fun _ h => h

/-- A call that adds an entry adds that of its arguments, if they can be bound. -/
theorem shows_bind {book : LogBook} (h : book.logging.log.Shows base bound es) (c : Call)
    (ps : List Parameter) (severity message details : (String → Value) → Value) :
    (((liftM (c.bind ps) : Action LogBook _) >>= fun arg =>
        addEntry (severity arg) (message arg) (details arg)).perform book).2.logging.log.Shows
      base bound (es ++ ((c.bind ps).toOption.bind fun arg => Log.told? (severity arg)
        (message arg) (details arg)).toList.map (LogEntry.over base)) := by
  rw [perform_bind, perform_liftM]
  cases c.bind ps with
  | error fault => simpa [Except.toOption] using h
  | ok arg => exact shows_addEntry h _ _ _

/-- A call that is not named for adding an entry adds none. -/
theorem shows_other {book : LogBook} (h : book.logging.log.Shows base bound es) {c : Call}
    (hname : c.name ≠ "add_log") (hseverity : Severity.byName.get? (.text c.name) = none)
    {run : Action LogBook Answer}
    (hrun : Preserves (fun book : LogBook => book.logging.log.Shows base bound es) run) :
    (run.perform book).2.logging.log.Shows base bound
      (es ++ (told? c).toList.map (LogEntry.over base)) := by
  have hnone : told? c = none := by
    rw [told?, if_neg hname, hseverity]
    rfl
  rw [hnone, Option.toList_none, List.map_nil, List.append_nil]
  exact hrun book h

/-- A call adds its entry to what a log shows. -/
theorem shows_answer {book : LogBook} (h : book.logging.log.Shows base bound es) (c : Call) :
    ((answer c).perform book).2.logging.log.Shows base bound
      (es ++ (told? c).toList.map (LogEntry.over base)) := by
  unfold answer
  split
  case h_1 hname =>
    rw [told?, if_pos hname]
    exact shows_bind h c _ (fun arg => arg "severity") (fun arg => arg "message") fun arg => arg "meta"
  case h_2 hname =>
    exact shows_other h (by rw [hname]; decide) (by rw [hname]; rfl)
      ((Preserves.lift _).bind fun arg => preserved_begin _ _)
  case h_3 hname =>
    refine shows_other h (by rw [hname]; decide) (by rw [hname]; rfl) ?_
    exact Preserves.bind (fun _ h => h) fun _ => (Preserves.lift _).bind fun _ =>
      (Preserves.lift _).bind fun number => (preserved_finish number).bind fun _ => Preserves.pure _
  case h_4 hname =>
    refine shows_other h (by rw [hname]; decide) (by rw [hname]; rfl) ?_
    exact Preserves.bind (fun _ h => h) fun _ => (Preserves.lift _).bind fun _ =>
      (Preserves.lift _).bind fun _ => (Preserves.lift _).bind fun _ => Preserves.pure _
  case h_5 hname =>
    refine shows_other h (by rw [hname]; decide) (by rw [hname]; rfl) ?_
    exact (Preserves.lift _).bind fun _ => (Preserves.lift _).bind fun _ =>
      Preserves.bind (fun _ h => h) fun _ => Preserves.pure _
  case h_6 hname =>
    exact shows_other h (by rw [hname]; decide) (by rw [hname]; rfl)
      (Preserves.bind (fun _ h => h) fun _ => Preserves.pure _)
  case h_7 hname =>
    exact shows_other h (by rw [hname]; decide) (by rw [hname]; rfl)
      (Preserves.bind (fun _ h => h) fun _ => Preserves.pure _)
  case h_8 hadd _ _ _ _ _ _ =>
    split
    case h_1 hseverity => exact shows_other h hadd hseverity (Preserves.throw _)
    case h_2 severity hseverity =>
      rw [told?, if_neg hadd, hseverity]
      exact shows_bind h c _ (fun _ => .text c.name) (fun arg => arg "message") fun arg => arg "meta"

/-- What is left of a log that answers calls one after another; a call that fails is one of them. -/
def answerAll (calls : List Call) (book : LogBook) : LogBook :=
  calls.foldl (fun book c => ((answer c).perform book).2) book

/-- **Whatever calls a log answers, it shows the entries that they add.** -/
theorem shows_answerAll {book : LogBook} (h : book.logging.log.Shows base bound es)
    (calls : List Call) : (answerAll calls book).logging.log.Shows base bound
      (es ++ (calls.filterMap told?).map (LogEntry.over base)) := by
  induction calls generalizing book es with
  | nil => simpa [answerAll] using h
  | cons c rest ih =>
    have hrest := ih (shows_answer h c)
    have hentries : (c :: rest).filterMap told? = (told? c).toList ++ rest.filterMap told? := by
      cases htold : told? c <;> simp [htold]
    rwa [hentries, List.map_append, ← List.append_assoc]

end LogBook

/-! ## What operations tell -/

variable {σ α β : Type}

/-- The entry of a note with its own metadata only. -/
def Note.alone (n : Note) : LogEntry := ⟨.text n.severity.name, .text n.message, n.details⟩

/-- What is noted in the log is the note over the metadata of the log. -/
theorem Note.map_entry (base : Dict Value) (notes : List Note) :
    notes.map (Note.entry base) = (notes.map Note.alone).map (LogEntry.over base) := by
  rw [List.map_map]
  rfl

theorem Log.Shows.noted {log : Log} {base : Dict Value} {kept : Option Nat} {es : List LogEntry}
    (h : log.Shows base kept es) (notes : List Note) :
    (log.noted (notes.map (Note.entry base))).Shows base kept
      (es ++ (notes.map Note.alone).map (LogEntry.over base)) := by
  rw [← Note.map_entry]
  exact h.append (log.noted _) rfl rfl rfl

namespace Op

/-- An operation that tells the log something, whatever is in the log. -/
def Tells (op : Op σ α) : Prop :=
  ∀ (remote : σ) (bound : Bool) (now : Int),
    ∃ (out : Except Fault α) (after : σ) (told : List LogEntry),
      ∀ (log : Log) (console : Console) (base : Dict Value) (kept : Option Nat)
        (es : List LogEntry), log.Shows base kept es →
          ∃ log' console', op.perform ⟨remote, bound, ⟨log, ⟨now, console⟩⟩⟩ =
              (out, ⟨after, bound, ⟨log', ⟨now, console'⟩⟩⟩) ∧
            log'.Shows base kept (es ++ told.map (LogEntry.over base))

/-- A computation without effects tells nothing. -/
theorem Tells.lift (r : Except Fault α) : Tells (liftM r : Op σ α) := fun remote _ _ =>
  ⟨r, remote, [], fun log console _ _ es h => ⟨log, console, rfl, by simpa using h⟩⟩

theorem Tells.pure (a : α) : Tells (pure a : Op σ α) := Tells.lift (.ok a)

theorem Tells.throw (fault : Fault) : Tells (throw fault : Op σ α) := Tells.lift (.error fault)

/-- The reading of the clock tells nothing. -/
theorem Tells.now : Tells (now : Op σ Int) := fun remote _ now =>
  ⟨.ok now, remote, [], fun log console _ _ es h => ⟨log, console, rfl, by simpa using h⟩⟩

/-- What follows an operation is told after what the operation tells. -/
theorem Tells.bind {op : Op σ α} {next : α → Op σ β} (h : Tells op) (hnext : ∀ a, Tells (next a)) :
    Tells (op >>= next) := by
  intro remote bound now
  obtain ⟨out, after, told, hop⟩ := h remote bound now
  cases out with
  | error fault =>
    refine ⟨.error fault, after, told, fun log console base kept es hshows => ?_⟩
    obtain ⟨log', console', hperform, hshows'⟩ := hop log console base kept es hshows
    exact ⟨log', console', perform_bind_error hperform, hshows'⟩
  | ok a =>
    obtain ⟨out, last, more, hmore⟩ := hnext a after bound now
    refine ⟨out, last, told ++ more, fun log console base kept es hshows => ?_⟩
    obtain ⟨log', console', hperform, hshows'⟩ := hop log console base kept es hshows
    obtain ⟨log'', console'', hperform', hshows''⟩ := hmore log' console' base kept _ hshows'
    refine ⟨log'', console'', (perform_bind_ok hperform).trans hperform', ?_⟩
    rwa [List.map_append, ← List.append_assoc]

/-- A note is told as it is. -/
theorem Tells.add (severity : Severity) (message : String) {details : Value} {own : Dict Value}
    (hown : (if details.truthy then details else .dict []) = .dict own) :
    Tells (onLog (Log.add severity message details) : Op σ Unit) := by
  intro remote bound now
  refine ⟨.ok (), remote, [Note.alone ⟨severity, message, own⟩],
    fun log console base kept es hshows => ?_⟩
  obtain ⟨console', hadd⟩ :=
    Log.perform_add ⟨log, ⟨now, console⟩⟩ hshows.base_eq ⟨severity, message, own⟩ hown
  refine ⟨_, console', ?_, hshows.noted [⟨severity, message, own⟩]⟩
  rw [onLog, perform_zoom, hadd]
  rfl

section Exchange

variable {ex : Executor σ} (x : Exchange) (owner : String) (q : Query)

theorem tells_requireBound : Tells (x.requireBound owner : Op σ Unit) := by
  intro remote bound now
  cases bound with
  | true => exact Tells.pure () remote true now
  | false => exact Tells.throw _ remote false now

/-- The entries of a run leave what a log had shown before. -/
theorem shows_recorded {log : Log} {base : Dict Value} {kept : Option Nat} {es : List LogEntry}
    (h : log.Shows base kept es) (ambient : Ambient) (reply : Except Fault (Value × Dict Value)) :
    (x.recorded ⟨log, ambient⟩ base q reply).Shows base kept
      (es ++ ((x.announcement q.toWire :: x.closing reply).map Note.alone).map
        (LogEntry.over base)) := by
  have htimed : (x.timed log ambient.now reply).Shows base kept es := by
    rw [Exchange.timed, Exchange.timing]
    split
    · exact ⟨h.base_eq, h.history_eq, h.entries_eq⟩
    · exact h
  exact htimed.noted _

/-- **The run of a query** tells what it is about to do and how it ended, or nothing if it is refused
before. -/
theorem tells_exchange : Tells (x.exchange ex owner q) := by
  intro remote bound now
  cases bound with
  | false =>
    have hunbound : ∀ logging : Logging, (x.requireBound owner).perform
        (⟨remote, false, logging⟩ : Desk σ) = (.error (.misconfigured x.operation (.text owner)
          "attempted to execute a query before a client was set"), ⟨remote, false, logging⟩) :=
      fun _ => rfl
    exact ⟨_, remote, [], fun log console _ _ _ h =>
      ⟨log, console, perform_bind_error (hunbound _), by simpa using h⟩⟩
  | true =>
    cases hq : q.toWire.unstorable? with
    | some reason =>
      exact ⟨_, remote, [], fun log console _ _ _ h =>
        ⟨log, console, Exchange.perform_exchange_unsent rfl hq ex x owner, by simpa using h⟩⟩
    | none =>
      refine ⟨.ok ((x.reply ex q).perform remote).1, ((x.reply ex q).perform remote).2,
        (x.announcement q.toWire :: x.closing ((x.reply ex q).perform remote).1).map Note.alone,
        fun log console base kept es h => ?_⟩
      let desk : Desk σ := ⟨remote, true, ⟨log, ⟨now, console⟩⟩⟩
      obtain ⟨console', hexchange⟩ : ∃ console', (x.exchange ex owner q).perform desk =
          (.ok ((x.reply ex q).perform remote).1, desk.after ((x.reply ex q).perform remote).2
            (x.recorded desk.logging base q ((x.reply ex q).perform remote).1) console') :=
        Exchange.perform_exchange rfl h.base_eq hq owner rfl
      exact ⟨_, console', hexchange, shows_recorded x q h _ _⟩

theorem tells_run : Tells (x.run ex owner q) := by
  refine (tells_exchange x owner q).bind fun reply => ?_
  cases reply with
  | error cause => exact Tells.throw _
  | ok result => exact Tells.pure _

theorem tells_capture : Tells (x.capture ex owner q) := by
  refine (tells_exchange x owner q).bind fun reply => ?_
  cases reply with
  | error cause => exact Tells.pure _
  | ok result => exact Tells.pure _

end Exchange

end Op

namespace Model

variable {ex : Executor σ} {m : Model}

/-! ## Results -/

theorem tells_buildNow (input operation target : Value) :
    Op.Tells (m.buildNow input operation target : Op σ Value) :=
  Op.Tells.now.bind fun _ => Op.Tells.lift _

theorem tells_documentNow (raw : Value) : Op.Tells (m.documentNow raw : Op σ Document) :=
  Op.Tells.now.bind fun _ => Op.Tells.lift _

theorem tells_documentOrNone (raw : Value) :
    Op.Tells (m.documentOrNone raw : Op σ (Option Document)) := by
  unfold documentOrNone
  split
  · exact (tells_documentNow raw).bind fun _ => Op.Tells.pure _
  · exact Op.Tells.pure _

theorem tells_documentsNow (raws : Value) :
    Op.Tells (m.documentsNow raws : Op σ (List Document)) := by
  unfold documentsNow
  split
  · exact Op.Tells.now.bind fun _ => Op.Tells.lift _
  · exact Op.Tells.pure _

theorem tells_presentDocuments (raws : Value) :
    Op.Tells (m.presentDocuments raws : Op σ (List Document)) :=
  (Op.Tells.lift _).bind fun _ => Op.Tells.now.bind fun _ => Op.Tells.lift _

theorem tells_pageNow (result : Value) : Op.Tells (m.pageNow result : Op σ Page) :=
  Op.Tells.now.bind fun _ => Op.Tells.lift _

/-! ## Operations -/

/-- The run of a query with what is built from its result. -/
theorem tells_run_bind {operation target : Value} {q : Query} {next : Value → Op σ α}
    (hnext : ∀ v, Op.Tells (next v)) : Op.Tells (m.run ex operation target q >>= next) :=
  (Op.tells_run _ m.name q).bind hnext

theorem tells_get (id : Value) : Op.Tells (m.get ex id) :=
  (Op.Tells.lift _).bind fun _ => (Op.Tells.add _ _ rfl).bind fun _ =>
    tells_run_bind tells_documentOrNone

theorem tells_getOrThrow (id : Value) : Op.Tells (m.getOrThrow ex id) := by
  refine (tells_get id).bind fun found => ?_
  cases found with
  | none => exact Op.Tells.throw _
  | some doc => exact Op.Tells.pure _

theorem tells_getMany (ids : Value) : Op.Tells (m.getMany ex ids) :=
  (Op.Tells.lift _).bind fun _ => (Op.Tells.lift _).bind fun _ => (Op.Tells.lift _).bind fun _ =>
    (Op.Tells.add _ _ rfl).bind fun _ => tells_run_bind tells_presentDocuments

theorem tells_getManyOrThrow (ids : Value) : Op.Tells (m.getManyOrThrow ex ids) := by
  refine (tells_getMany ids).bind fun docs => (Op.Tells.lift _).bind fun n => ?_
  dsimp only
  split
  · exact Op.Tells.throw _
  · exact Op.Tells.pure _

theorem tells_list (size after before : Value) : Op.Tells (m.list ex size after before) :=
  tells_run_bind tells_pageNow

theorem tells_count (limit : Value) : Op.Tells (m.count ex limit) := Op.tells_run _ m.name _

theorem tells_getFirstByIndex (index : Value) (terms : List Value) :
    Op.Tells (m.getFirstByIndex ex index terms) :=
  (Op.Tells.lift _).bind fun _ => tells_run_bind tells_documentOrNone

theorem tells_listByIndex (index terms options : Value) :
    Op.Tells (m.listByIndex ex index terms options) :=
  (Op.Tells.lift _).bind fun _ => (Op.Tells.lift _).bind fun _ => (Op.Tells.lift _).bind fun _ =>
    tells_run_bind tells_pageNow

theorem tells_create (input ttl : Value) : Op.Tells (m.create ex input ttl) :=
  (tells_buildNow _ _ _).bind fun _ => (Op.Tells.lift _).bind fun _ =>
    tells_run_bind tells_documentNow

theorem tells_createMany (inputs : Value) : Op.Tells (m.createMany ex inputs) :=
  Op.Tells.now.bind fun _ => (Op.Tells.lift _).bind fun _ => (Op.Tells.lift _).bind fun _ =>
    tells_run_bind tells_documentsNow

theorem tells_write (w : Writing) (id data : Value) : Op.Tells (m.write ex w id data) :=
  (Op.Tells.lift _).bind fun _ => tells_run_bind tells_documentOrNone

theorem tells_writeMany (w : Writing) (items : Value) : Op.Tells (m.writeMany ex w items) :=
  (Op.Tells.lift _).bind fun _ => (Op.Tells.lift _).bind fun _ =>
    tells_run_bind tells_presentDocuments

theorem tells_delete (id : Value) : Op.Tells (m.delete ex id) :=
  (Op.Tells.lift _).bind fun _ => tells_run_bind tells_documentOrNone

theorem tells_deleteMany (ids : Value) : Op.Tells (m.deleteMany ex ids) :=
  (Op.Tells.lift _).bind fun _ => (Op.Tells.lift _).bind fun _ =>
    tells_run_bind tells_presentDocuments

theorem tells_updateDocument (doc : Document) (changes : Value) :
    Op.Tells (m.updateDocument ex doc changes) :=
  Op.Tells.now.bind fun _ => (Op.Tells.lift _).bind fun _ => tells_write _ _ _

theorem tells_replaceDocument (doc : Document) (input : Value) :
    Op.Tells (m.replaceDocument ex doc input) :=
  (tells_buildNow _ _ _).bind fun _ => tells_write _ _ _

end Model

end DocMapper
