import DocMapper.Proofs.Execution.Courses
import DocMapper.Proofs.Model.Acts
import DocMapper.Proofs.Setup.Submitting
/-!
# What the operations of a model ask

Whatever executor a model works with, each of its operations takes a course (`Op.Asks`): the
executor receives one query at most, and whether it does and which query that is was settled before.
Input that is refused, or a look-up by an index that is not there, stops the operation before
(`Model.Act.exists_follows`).
-/

namespace DocMapper

open Action

variable {α β : Type}

namespace Course

/-- **What a tapped executor receives** in a course is its query; otherwise it goes as with the
executor itself. -/
theorem take_tapped {σ : Type} (ex : Executor σ) (bound : Bool) (remote : σ)
    (received : List Query) (c : Course α) :
    (c.take ex.tapped bound (remote, received)).2.remote =
      ((c.take ex bound remote).2.remote, received ++ c.query?.toList) := by
  cases c with
  | stop fault logging => simp [take, query?]
  | ask x q logging read =>
    have hreply : ((x.reply ex.tapped q).perform (remote, received)).2 =
        (((x.reply ex q).perform remote).2, received ++ [q]) := by
      unfold Exchange.reply
      split
      · rfl
      · simp only [bind_pure_comp, perform_map]
        rfl
    exact hreply

/-- A course that fails with every executor and leaves it alone is a stop. -/
theorem eq_stop {c : Course α} {bound : Bool} {fault : Fault} {logging : Logging}
    (h : ∀ {σ : Type} (ex : Executor σ) (remote : σ),
      c.take ex bound remote = (.error fault, ⟨remote, bound, logging⟩)) :
    c = .stop fault logging := by
  cases c with
  | stop fault' logging' =>
    cases h Memory.executor {}
    rfl
  | ask x q logging' read =>
    have hreceived := take_tapped Memory.executor bound {} [] (.ask x q logging' read)
    rw [h] at hreceived
    cases (Prod.mk.inj hreceived).2

end Course

namespace Model

variable {m : Model} {bound : Bool} {logging : Logging}

/-! ## What operations ask -/

/-- Building the documents of a result is silent. -/
theorem silent_documentNow (raw : Value) : Op.Silent fun _ => m.documentNow raw :=
  Op.Silent.now.bind fun _ => Op.Silent.lift _

theorem silent_documentOrNone (raw : Value) : Op.Silent fun _ => m.documentOrNone raw := by
  unfold documentOrNone
  split
  · exact (silent_documentNow raw).bind fun _ => Op.Silent.pure _
  · exact Op.Silent.pure _

theorem silent_documentsNow (raws : Value) : Op.Silent fun _ => m.documentsNow raws := by
  unfold documentsNow
  split
  · exact Op.Silent.now.bind fun _ => Op.Silent.lift _
  · exact Op.Silent.pure _

theorem silent_presentDocuments (raws : Value) : Op.Silent fun _ => m.presentDocuments raws :=
  (Op.Silent.lift _).bind fun _ => Op.Silent.now.bind fun _ => Op.Silent.lift _

theorem silent_pageNow (result : Value) : Op.Silent fun _ => m.pageNow result :=
  Op.Silent.now.bind fun _ => Op.Silent.lift _

/-- The run of a query asks it, and what is built from the result asks nothing more. -/
theorem asks_run_bind {sends : Query → Prop} {q : Query} (hq : sends q) {operation target : Value}
    {next : ∀ σ, Value → Op σ α} (hnext : ∀ v, Op.Silent fun σ => next σ v) :
    Op.Asks (fun σ ex => m.run ex operation target q >>= next σ) bound logging sends :=
  ((Op.asks_run _ m.name q).mono fun _ h => h ▸ hq).bind_silent hnext

/-- Each operation asks the query that its input compiles to. -/
theorem asks_get (id : Value) :
    Op.Asks (fun _ ex => m.get ex id) bound logging ((Act.get id).Sends m) :=
  Op.Asks.lift_bind fun _ hq => Op.Asks.silent_bind (Op.Silent.onLog _) fun _ _ =>
    asks_run_bind hq silent_documentOrNone

theorem asks_getOrThrow (id : Value) :
    Op.Asks (fun _ ex => m.getOrThrow ex id) bound logging ((Act.getOrThrow id).Sends m) := by
  refine (asks_get id).bind_silent fun found => ?_
  cases found with
  | none => exact Op.Silent.throw _
  | some doc => exact Op.Silent.pure _

theorem asks_getMany (ids : Value) :
    Op.Asks (fun _ ex => m.getMany ex ids) bound logging ((Act.getMany ids).Sends m) :=
  Op.Asks.lift_bind fun items hitems => Op.Asks.lift_bind fun _ hq => Op.Asks.lift_bind fun _ _ =>
    Op.Asks.silent_bind (Op.Silent.onLog _) fun _ _ =>
      asks_run_bind ⟨items, hitems, hq⟩ silent_presentDocuments

theorem asks_getManyOrThrow (ids : Value) :
    Op.Asks (fun _ ex => m.getManyOrThrow ex ids) bound logging
      ((Act.getManyOrThrow ids).Sends m) := by
  refine (asks_getMany ids).bind_silent fun docs => (Op.Silent.lift _).bind fun n => ?_
  dsimp only
  split
  · exact Op.Silent.throw _
  · exact Op.Silent.pure _

theorem asks_list (size after before : Value) :
    Op.Asks (fun _ ex => m.list ex size after before) bound logging
      ((Act.list size after before).Sends m) := by
  have hsends : (Act.list size after before).Sends m (m.listQuery size after before) := rfl
  exact asks_run_bind hsends silent_pageNow

theorem asks_count (limit : Value) :
    Op.Asks (fun _ ex => m.count ex limit) bound logging ((Act.count limit).Sends m) :=
  Op.asks_run _ m.name _

theorem asks_getFirstByIndex (index : Value) (terms : List Value) :
    Op.Asks (fun _ ex => m.getFirstByIndex ex index terms) bound logging
      ((Act.getFirstByIndex index terms).Sends m) :=
  Op.Asks.lift_bind fun _ hq => asks_run_bind hq silent_documentOrNone

theorem asks_listByIndex (index terms options : Value) :
    Op.Asks (fun _ ex => m.listByIndex ex index terms options) bound logging
      ((Act.listByIndex index terms options).Sends m) :=
  Op.Asks.lift_bind fun request hrequest => Op.Asks.lift_bind fun items hitems =>
    Op.Asks.lift_bind fun _ hq =>
      asks_run_bind ⟨request, items, hrequest, hitems, hq⟩ silent_pageNow

theorem asks_delete (id : Value) :
    Op.Asks (fun _ ex => m.delete ex id) bound logging ((Act.delete id).Sends m) :=
  Op.Asks.lift_bind fun _ hq => asks_run_bind hq silent_documentOrNone

theorem asks_deleteMany (ids : Value) :
    Op.Asks (fun _ ex => m.deleteMany ex ids) bound logging ((Act.deleteMany ids).Sends m) :=
  Op.Asks.lift_bind fun items hitems => Op.Asks.lift_bind fun _ hq =>
    asks_run_bind ⟨items, hitems, hq⟩ silent_presentDocuments

theorem asks_write (w : Writing) (id data : Value) :
    Op.Asks (fun _ ex => m.write ex w id data) bound logging ((Act.write w id data).Sends m) :=
  Op.Asks.lift_bind fun _ hq => asks_run_bind hq silent_documentOrNone

theorem asks_writeMany (w : Writing) (items : Value) :
    Op.Asks (fun _ ex => m.writeMany ex w items) bound logging ((Act.writeMany w items).Sends m) :=
  Op.Asks.lift_bind fun elements helements => Op.Asks.lift_bind fun _ hq =>
    asks_run_bind ⟨elements, helements, hq⟩ silent_presentDocuments

/-- What follows the building of an instance. -/
theorem asks_buildNow_bind {input operation target : Value}
    {next : ∀ σ, Executor σ → Value → Op σ α} {sends : Query → Prop}
    (h : ∀ built, m.IsInstance built →
      Op.Asks (fun σ ex => next σ ex built) bound logging sends) :
    Op.Asks (fun σ ex => m.buildNow input operation target >>= next σ ex) bound logging sends := by
  simp only [buildNow, bind_assoc]
  exact Op.Asks.now_bind (Op.Asks.lift_bind fun built hbuilt =>
    h built (Act.isInstance_of_build hbuilt))

theorem asks_create (input ttl : Value) :
    Op.Asks (fun _ ex => m.create ex input ttl) bound logging ((Act.create input ttl).Sends m) :=
  asks_buildNow_bind fun built hbuilt => Op.Asks.lift_bind fun data hdata =>
    asks_run_bind ⟨built, data, hbuilt, hdata, rfl⟩ silent_documentNow

theorem asks_createMany (inputs : Value) :
    Op.Asks (fun _ ex => m.createMany ex inputs) bound logging
      ((Act.createMany inputs).Sends m) := by
  refine Op.Asks.now_bind (Op.Asks.lift_bind fun built hbuilt => Op.Asks.lift_bind fun data hdata =>
    asks_run_bind ⟨built, data, ?_, hdata, rfl⟩ silent_documentsNow)
  obtain ⟨items, -, hitems⟩ := exists_build_of_buildBulk hbuilt
  intro w hw
  obtain ⟨input, -, hbuild⟩ := hitems w hw
  exact Act.isInstance_of_build (hbuild .null .null)

theorem asks_updateDocument (doc : Document) (changes : Value) :
    Op.Asks (fun _ ex => m.updateDocument ex doc changes) bound logging
      ((Act.updateDocument doc changes).Sends m) := by
  refine Op.Asks.now_bind (Op.Asks.lift_bind fun built hbuilt =>
    (asks_write .update _ built).mono fun q hq => ⟨built, ?_, hq⟩)
  obtain ⟨merged, -, hbuild⟩ := Except.bind_eq_ok.1 hbuilt
  exact Act.isInstance_of_build hbuild

theorem asks_replaceDocument (doc : Document) (input : Value) :
    Op.Asks (fun _ ex => m.replaceDocument ex doc input) bound logging
      ((Act.replaceDocument doc input).Sends m) :=
  asks_buildNow_bind fun built hbuilt =>
    (asks_write .replace _ built).mono fun _ hq => ⟨built, hbuilt, hq⟩

namespace Act

/-- The operation that an act is, with an executor of any kind. -/
def on {σ : Type} (m : Model) (ex : Executor σ) : Act → Op σ (List Document)
  | get id => Option.toList <$> m.get ex id
  | getOrThrow id => (fun doc => [doc]) <$> m.getOrThrow ex id
  | getMany ids => m.getMany ex ids
  | getManyOrThrow ids => m.getManyOrThrow ex ids
  | list size after before => Page.documents <$> m.list ex size after before
  | count bound => (fun _ => []) <$> m.count ex bound
  | getFirstByIndex index terms => Option.toList <$> m.getFirstByIndex ex index terms
  | listByIndex index terms options => Page.documents <$> m.listByIndex ex index terms options
  | refresh doc => Option.toList <$> m.refresh ex doc
  | delete id => Option.toList <$> m.delete ex id
  | deleteMany ids => m.deleteMany ex ids
  | deleteDocument doc => Option.toList <$> m.deleteDocument ex doc
  | create input ttl => (fun doc => [doc]) <$> m.create ex input ttl
  | write w id data => Option.toList <$> m.write ex w id data
  | updateDocument doc changes => Option.toList <$> m.updateDocument ex doc changes
  | replaceDocument doc input => Option.toList <$> m.replaceDocument ex doc input
  | createMany inputs => m.createMany ex inputs
  | writeMany w items => m.writeMany ex w items
  | run x q => (fun _ => []) <$> x.run ex m.name q
  | capture x q => (fun _ => []) <$> x.capture ex m.name q

theorem op_eq_on (m : Model) (act : Act) : act.op m = act.on m Memory.executor := by
  cases act <;> rfl

/-- **An act asks its query at most**, whatever executor it is given. -/
theorem asks_on (m : Model) (act : Act) (bound : Bool) (logging : Logging) :
    Op.Asks (fun _ ex => act.on m ex) bound logging (act.Sends m) := by
  cases act with
  | get id => exact Op.Asks.map _ (asks_get id)
  | getOrThrow id => exact Op.Asks.map _ (asks_getOrThrow id)
  | getMany ids => exact asks_getMany ids
  | getManyOrThrow ids => exact asks_getManyOrThrow ids
  | list size after before => exact Op.Asks.map _ (asks_list size after before)
  | count limit => exact Op.Asks.map _ (asks_count limit)
  | getFirstByIndex index terms => exact Op.Asks.map _ (asks_getFirstByIndex index terms)
  | listByIndex index terms options => exact Op.Asks.map _ (asks_listByIndex index terms options)
  | refresh doc => exact Op.Asks.map _ (asks_get _)
  | delete id => exact Op.Asks.map _ (asks_delete id)
  | deleteDocument doc => exact Op.Asks.map _ (asks_delete _)
  | deleteMany ids => exact asks_deleteMany ids
  | create input ttl => exact Op.Asks.map _ (asks_create input ttl)
  | createMany inputs => exact asks_createMany inputs
  | write w id data => exact Op.Asks.map _ (asks_write w id data)
  | updateDocument doc changes => exact Op.Asks.map _ (asks_updateDocument doc changes)
  | replaceDocument doc input => exact Op.Asks.map _ (asks_replaceDocument doc input)
  | writeMany w items => exact asks_writeMany w items
  | run x q => exact Op.Asks.map _ (Op.asks_run x m.name q)
  | capture x q => exact Op.Asks.map _ (Op.asks_capture x m.name q)

/-! ## Acts that stop before their query -/

/-- Input that an act refuses because it does not fit the schema. -/
def Refuses (m : Model) (now : Int) : Act → Fault → Prop
  | create input _, fault => m.build now input "create" .null = .error fault
  | createMany inputs, fault => m.buildBulk now inputs "create_many" .null = .error fault
  | updateDocument doc changes, fault => m.candidate now doc changes = .error fault
  | replaceDocument doc input, fault => m.build now input "replace" (.text doc.id) = .error fault
  | _, _ => False

/-- An act looks documents up by an index that the model does not have. -/
def Misses (m : Model) : Act → Prop
  | getFirstByIndex index _ | listByIndex index _ _ => ∃ cause, m.indexes.get index = .error cause
  | _ => False

/-- An operation fails at once if what it computes at the present time fails. -/
theorem perform_now_bind_error {σ : Type} {r : Int → Except Fault α} {next : α → Op σ β}
    {desk : Desk σ} {fault : Fault} (h : r desk.logging.ambient.now = .error fault) :
    (Op.now >>= fun now => liftM (r now) >>= next).perform desk = (.error fault, desk) := by
  have hnow : (Op.now : Op σ Int).perform desk = (.ok desk.logging.ambient.now, desk) := rfl
  rw [perform_bind_ok hnow, perform_bind_error (by rw [perform_liftM, h])]

/-- **Input that is refused** fails the act before anything else happens. -/
theorem perform_of_refuses {act : Act} {fault : Fault}
    (h : act.Refuses m logging.ambient.now fault) {σ : Type} (ex : Executor σ) (remote : σ) :
    (act.on m ex).perform ⟨remote, bound, logging⟩ = (.error fault, ⟨remote, bound, logging⟩) := by
  cases act with
  | create input ttl =>
    refine perform_map_error ?_
    rw [Model.create, buildNow, bind_assoc]
    exact perform_now_bind_error h
  | createMany inputs => exact perform_now_bind_error h
  | updateDocument doc changes => exact perform_map_error (perform_now_bind_error h)
  | replaceDocument doc input =>
    refine perform_map_error ?_
    rw [Model.replaceDocument, buildNow, bind_assoc]
    exact perform_now_bind_error h
  | _ => cases h

/-- An index that is not there has no query. -/
theorem not_sends_of_misses {act : Act} (h : act.Misses m) (q : Query) : ¬ act.Sends m q := by
  cases act with
  | getFirstByIndex index terms =>
    obtain ⟨cause, hcause⟩ := h
    intro hq
    obtain ⟨matched, hmatched, -⟩ := Except.bind_eq_ok.1 hq
    rw [IndexCatalog.matching, hcause] at hmatched
    cases hmatched
  | listByIndex index terms options =>
    obtain ⟨cause, hcause⟩ := h
    rintro ⟨request, items, -, -, hq⟩
    obtain ⟨matched, hmatched, -⟩ := Except.bind_eq_ok.1 hq
    rw [IndexCatalog.matching, hcause] at hmatched
    cases hmatched
  | _ => cases h

/-- What an act does with executors, at a desk. -/
structure Follows (m : Model) (act : Act) (bound : Bool) (logging : Logging)
    (c : Course (List Document)) : Prop where
  /-- the act takes its course with every executor, in whatever state it is -/
  taken : ∀ {σ : Type} (ex : Executor σ) (remote : σ),
    (act.on m ex).perform ⟨remote, bound, logging⟩ = c.take ex bound remote
  /-- the executor receives the query of the course, if it has one, and no other -/
  received : ∀ {σ : Type} (ex : Executor σ) (remote : σ) (received : List Query),
    ((act.on m ex.tapped).perform ⟨(remote, received), bound, logging⟩).2.remote =
      (((act.on m ex).perform ⟨remote, bound, logging⟩).2.remote, received ++ c.query?.toList)
  /-- the query is that of the act -/
  sends : ∀ q, c.query? = some q → act.Sends m q
  /-- there are no documents without a query -/
  answered : ∀ {σ : Type} (ex : Executor σ) (remote : σ) (docs : List Document),
    ((act.on m ex).perform ⟨remote, bound, logging⟩).1 = .ok docs → c.query?.isSome = true
  /-- without a query the executor in memory stays as it is -/
  untouched : c.query? = none → ∀ memory : Memory,
    ((act.op m).perform ⟨memory, bound, logging⟩).2.remote = memory
  /-- input that does not fit the schema is refused at once -/
  refused : ∀ fault, act.Refuses m logging.ambient.now fault → c = .stop fault logging
  /-- an index that is not there is not asked for -/
  missed : act.Misses m → c.query? = none

/-- **Every act asks one query at most**: input that it refuses and indexes that are not there stop
it before, and what it comes to is read off the reply to its query. -/
theorem exists_follows (m : Model) (act : Act) (bound : Bool) (logging : Logging) :
    ∃ c, act.Follows m bound logging c := by
  obtain ⟨c, hsends, htake⟩ := asks_on m act bound logging
  refine ⟨c, ⟨fun ex remote => htake _ ex remote, fun ex remote received => ?_, hsends,
    fun ex remote docs hdocs => ?_, fun hnone memory => ?_, fun fault hfault => ?_,
    fun hmisses => ?_⟩⟩
  · rw [htake, htake, Course.take_tapped]
  · rw [htake] at hdocs
    cases c with
    | stop fault logging => cases hdocs
    | ask => rfl
  · rw [op_eq_on, htake]
    cases c with
    | stop fault logging => rfl
    | ask => cases hnone
  · exact Course.eq_stop fun ex remote =>
      (htake _ ex remote).symm.trans (perform_of_refuses hfault ex remote)
  · cases hasked : c.query? with
    | none => rfl
    | some q => exact absurd (hsends q hasked) (not_sends_of_misses hmisses q)

end Act

end Model

end DocMapper
