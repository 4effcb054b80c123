import DocMapper.Proofs.Model.Assigning
import DocMapper.Proofs.Model.Edits
/-!
# All operations of a model

An `Act` is one of the operations of a model or of a document that was read before. It runs at most
one query (`Act.Sends`), so that it keeps of the store what this query keeps (`Act.keeps_op`).

Reads and removals of passive arguments give out neither ids nor times (`Act.idle_op`). A write of
passive arguments gives out as much as the documents that it comes to ask for. A write of one document
that fails gives out nothing either, unless the document was written and then does not fit the
schema (`Act.spent_op`).
-/

namespace DocMapper.Model

open Store Action

/-- An operation of a model, or of a document that was read before, with its arguments. -/
inductive Act
  | get (id : Value)
  | getOrThrow (id : Value)
  | getMany (ids : Value)
  | getManyOrThrow (ids : Value)
  | list (size after before : Value)
  | count (bound : Value)
  | getFirstByIndex (index : Value) (terms : List Value)
  | listByIndex (index terms options : Value)
  | refresh (doc : Document)
  | delete (id : Value)
  | deleteMany (ids : Value)
  | deleteDocument (doc : Document)
  | create (input ttl : Value)
  | write (w : Writing) (id data : Value)
  | updateDocument (doc : Document) (changes : Value)
  | replaceDocument (doc : Document) (input : Value)
  | createMany (inputs : Value)
  | writeMany (w : Writing) (items : Value)
  | run (x : Exchange) (q : Query)
  | capture (x : Exchange) (q : Query)

/-- A value is an instance of the schema. -/
def IsInstance (m : Model) (v : Value) : Prop :=
  ∃ fields, v = .record m.schema.signature fields

/-- What an act does to documents by itself, apart from what its arguments do. -/
inductive Act.Kind
  /-- reads, removals and queries of the caller -/
  | idle
  /-- writes of one document -/
  | one
  /-- writes of many documents -/
  | many

namespace Act

/-- The operation that an act is, with the documents that it comes to. -/
def op (m : Model) : Act → Op Memory (List Document)
  | get id => Option.toList <$> m.get Memory.executor id
  | getOrThrow id => (fun doc => [doc]) <$> m.getOrThrow Memory.executor id
  | getMany ids => m.getMany Memory.executor ids
  | getManyOrThrow ids => m.getManyOrThrow Memory.executor ids
  | list size after before => Page.documents <$> m.list Memory.executor size after before
  | count bound => (fun _ => []) <$> m.count Memory.executor bound
  | getFirstByIndex index terms => Option.toList <$> m.getFirstByIndex Memory.executor index terms
  | listByIndex index terms options =>
    Page.documents <$> m.listByIndex Memory.executor index terms options
  | refresh doc => Option.toList <$> m.refresh Memory.executor doc
  | delete id => Option.toList <$> m.delete Memory.executor id
  | deleteMany ids => m.deleteMany Memory.executor ids
  | deleteDocument doc => Option.toList <$> m.deleteDocument Memory.executor doc
  | create input ttl => (fun doc => [doc]) <$> m.create Memory.executor input ttl
  | write w id data => Option.toList <$> m.write Memory.executor w id data
  | updateDocument doc changes => Option.toList <$> m.updateDocument Memory.executor doc changes
  | replaceDocument doc input => Option.toList <$> m.replaceDocument Memory.executor doc input
  | createMany inputs => m.createMany Memory.executor inputs
  | writeMany w items => m.writeMany Memory.executor w items
  | run x q => (fun _ => []) <$> x.run Memory.executor m.name q
  | capture x q => (fun _ => []) <$> x.capture Memory.executor m.name q

/-- What an act does to documents by itself. -/
def kind : Act → Kind
  | get _ | getOrThrow _ | getMany _ | getManyOrThrow _ | list .. | count _ | getFirstByIndex ..
  | listByIndex .. | refresh _ | delete _ | deleteMany _ | deleteDocument _ | run .. | capture .. =>
    .idle
  | create .. | write .. | updateDocument .. | replaceDocument .. => .one
  | createMany _ | writeMany .. => .many

/-- How many ids an act gives out for each document that it comes to. -/
def newIds : Act → Nat
  | create .. | createMany _ => 1
  | _ => 0

/-- The arguments of an act that become parts of its query. -/
def compiled : Act → List Value
  | get id | getOrThrow id | delete id => [id]
  | getMany ids | getManyOrThrow ids | deleteMany ids => [ids]
  | list size after before => [size, after, before]
  | count bound => [bound]
  | getFirstByIndex _ terms => terms
  | listByIndex _ terms options => [terms, options]
  | create _ ttl => [ttl]
  | write _ id data => [id, data]
  | writeMany _ items => [items]
  | run _ q | capture _ q => [.query q]
  | refresh _ | deleteDocument _ | updateDocument .. | replaceDocument .. | createMany _ => []

/-- No argument of an act creates a document or writes to one when it is evaluated. -/
def IsPassive (act : Act) : Prop := ∀ v ∈ act.compiled, v.IsPassive

/-- The query that an act runs, if it gets that far. -/
def Sends (m : Model) : Act → Query → Prop
  | get id, q | getOrThrow id, q => m.getQuery id = .ok q
  | refresh doc, q => m.getQuery (.text doc.id) = .ok q
  | getMany ids, q | getManyOrThrow ids, q =>
    ∃ items, ids.items = .ok items ∧ m.getManyQuery items = .ok q
  | list size after before, q => q = m.listQuery size after before
  | count bound, q => q = m.countQuery bound
  | getFirstByIndex index terms, q => m.firstByIndexQuery index terms = .ok q
  | listByIndex index terms options, q => ∃ request items, PageRequest.ofOptions options =
      .ok request ∧ terms.items = .ok items ∧ m.listByIndexQuery index items request = .ok q
  | delete id, q => m.deleteQuery id = .ok q
  | deleteDocument doc, q => m.deleteQuery (.text doc.id) = .ok q
  | deleteMany ids, q => ∃ items, ids.items = .ok items ∧ m.deleteManyQuery items = .ok q
  | create _ ttl, q => ∃ built data, m.IsInstance built ∧ stored built = .ok data ∧
      q = m.createQuery data ttl
  | createMany _, q => ∃ (built data : List Value), (∀ v ∈ built, m.IsInstance v) ∧
      built.mapM stored = .ok data ∧ q = m.createManyQuery data
  | write w id data, q => m.writeQuery w id data = .ok q
  | updateDocument doc _, q => ∃ built, m.IsInstance built ∧
      m.writeQuery .update (.text doc.id) built = .ok q
  | replaceDocument doc _, q => ∃ built, m.IsInstance built ∧
      m.writeQuery .replace (.text doc.id) built = .ok q
  | writeMany w items, q => ∃ elements, items.items = .ok elements ∧
      m.writeManyQuery w elements = .ok q
  | run _ p, q | capture _ p, q => q = p

variable {m : Model} {act : Act} {P : Store → Prop}

/-! ## What acts keep -/

/-- Building the documents of a result keeps the store. -/
theorem keeps_documentNow (raw : Value) : Op.Keeps P (m.documentNow raw) :=
  Op.Keeps.now_bind fun _ => Op.Keeps.lift _

theorem keeps_documentOrNone (raw : Value) : Op.Keeps P (m.documentOrNone raw) := by
  unfold documentOrNone
  split
  · exact (keeps_documentNow raw).bind fun _ => Op.Keeps.pure _
  · exact Op.Keeps.pure _

theorem keeps_documentsNow (raws : Value) : Op.Keeps P (m.documentsNow raws) := by
  unfold documentsNow
  split
  · exact Op.Keeps.now_bind fun _ => Op.Keeps.lift _
  · exact Op.Keeps.pure _

theorem keeps_presentDocuments (raws : Value) : Op.Keeps P (m.presentDocuments raws) :=
  Op.Keeps.lift_bind fun _ _ => Op.Keeps.now_bind fun _ => Op.Keeps.lift _

theorem keeps_pageNow (result : Value) : Op.Keeps P (m.pageNow result) :=
  Op.Keeps.now_bind fun _ => Op.Keeps.lift _

/-- What is kept by the query that some input compiles to. -/
theorem keeps_get {id : Value} (h : ∀ q, m.getQuery id = .ok q → KeptByQuery P q) :
    Op.Keeps P (m.get Memory.executor id) :=
  Op.Keeps.lift_bind fun q hq => (Op.Keeps.onLog _).bind fun _ =>
    (Op.keeps_run _ _ (h q hq)).bind keeps_documentOrNone

theorem keeps_getMany {ids : Value} (h : ∀ q, (getMany ids).Sends m q → KeptByQuery P q) :
    Op.Keeps P (m.getMany Memory.executor ids) :=
  Op.Keeps.lift_bind fun items hitems => Op.Keeps.lift_bind fun q hq =>
    Op.Keeps.lift_bind fun _ _ => (Op.Keeps.onLog _).bind fun _ =>
      (Op.keeps_run _ _ (h q ⟨items, hitems, hq⟩)).bind keeps_presentDocuments

theorem keeps_delete {id : Value} (h : ∀ q, m.deleteQuery id = .ok q → KeptByQuery P q) :
    Op.Keeps P (m.delete Memory.executor id) :=
  Op.Keeps.lift_bind fun q hq => (Op.keeps_run _ _ (h q hq)).bind keeps_documentOrNone

theorem keeps_write {w : Writing} {id data : Value}
    (h : ∀ q, m.writeQuery w id data = .ok q → KeptByQuery P q) :
    Op.Keeps P (m.write Memory.executor w id data) :=
  Op.Keeps.lift_bind fun q hq => (Op.keeps_run _ _ (h q hq)).bind keeps_documentOrNone

/-- What an act builds is an instance. -/
theorem isInstance_of_build {now : Int} {input operation target built : Value}
    (h : m.build now input operation target = .ok built) : m.IsInstance built :=
  exists_record_of_build h

/-- What follows the building of an instance. -/
theorem keeps_buildNow_bind {α : Type} {input operation target : Value} {next : Value → Op Memory α}
    (h : ∀ built, m.IsInstance built → Op.Keeps P (next built)) :
    Op.Keeps P (m.buildNow input operation target >>= next) := by
  rw [buildNow, bind_assoc]
  exact Op.Keeps.now_bind fun now => Op.Keeps.lift_bind fun built hbuilt =>
    h built (isInstance_of_build hbuilt)

/-- **An act keeps what its query keeps**, however it ends. -/
theorem keeps_op (h : ∀ q, act.Sends m q → KeptByQuery P q) : Op.Keeps P (act.op m) := by
  cases act with
  | get id => exact Preserves.map _ (keeps_get h)
  | getOrThrow id =>
    refine Preserves.map _ ((keeps_get h).bind fun found => ?_)
    cases found with
    | none => exact Op.Keeps.throw _
    | some doc => exact Op.Keeps.pure _
  | getMany ids => exact keeps_getMany h
  | getManyOrThrow ids =>
    refine (keeps_getMany h).bind fun docs => Op.Keeps.lift_bind fun n _ => ?_
    dsimp only
    split
    · exact Op.Keeps.throw _
    · exact Op.Keeps.pure _
  | list size after before =>
    exact Preserves.map _ ((Op.keeps_run _ _ (h _ rfl)).bind keeps_pageNow)
  | count bound => exact Preserves.map _ (Op.keeps_run _ _ (h _ rfl))
  | getFirstByIndex index terms =>
    exact Preserves.map _ (Op.Keeps.lift_bind fun q hq =>
      (Op.keeps_run _ _ (h q hq)).bind keeps_documentOrNone)
  | listByIndex index terms options =>
    exact Preserves.map _ (Op.Keeps.lift_bind fun request hrequest =>
      Op.Keeps.lift_bind fun items hitems => Op.Keeps.lift_bind fun q hq =>
        (Op.keeps_run _ _ (h q ⟨request, items, hrequest, hitems, hq⟩)).bind keeps_pageNow)
  | refresh doc => exact Preserves.map _ (keeps_get h)
  | delete id => exact Preserves.map _ (keeps_delete h)
  | deleteDocument doc => exact Preserves.map _ (keeps_delete h)
  | deleteMany ids =>
    exact Op.Keeps.lift_bind fun items hitems => Op.Keeps.lift_bind fun q hq =>
      (Op.keeps_run _ _ (h q ⟨items, hitems, hq⟩)).bind keeps_presentDocuments
  | create input ttl =>
    exact Preserves.map _ (keeps_buildNow_bind fun built hbuilt =>
      Op.Keeps.lift_bind fun data hdata =>
        (Op.keeps_run _ _ (h _ ⟨built, data, hbuilt, hdata, rfl⟩)).bind keeps_documentNow)
  | createMany inputs =>
    refine Op.Keeps.now_bind fun now => Op.Keeps.lift_bind fun built hbuilt =>
      Op.Keeps.lift_bind fun data hdata => (Op.keeps_run _ _ (h _ ⟨built, data, ?_, hdata, rfl⟩)).bind
        keeps_documentsNow
    obtain ⟨items, -, hitems⟩ := exists_build_of_buildBulk hbuilt
    intro w hw
    obtain ⟨input, -, hbuild⟩ := hitems w hw
    exact isInstance_of_build (hbuild .null .null)
  | write w id data => exact Preserves.map _ (keeps_write h)
  | updateDocument doc changes =>
    refine Preserves.map _ (Op.Keeps.now_bind fun now => Op.Keeps.lift_bind fun built hbuilt =>
      keeps_write fun q hq => h q ⟨built, ?_, hq⟩)
    obtain ⟨merged, -, hbuild⟩ := Except.bind_eq_ok.1 hbuilt
    exact isInstance_of_build hbuild
  | replaceDocument doc input =>
    exact Preserves.map _ (keeps_buildNow_bind fun built hbuilt =>
      keeps_write fun q hq => h q ⟨built, hbuilt, hq⟩)
  | writeMany w items =>
    exact Op.Keeps.lift_bind fun elements helements => Op.Keeps.lift_bind fun q hq =>
      (Op.keeps_run _ _ (h q ⟨elements, helements, hq⟩)).bind keeps_presentDocuments
  | run x q => exact Preserves.map _ (Op.keeps_run x m.name (h q rfl))
  | capture x q => exact Preserves.map _ (Op.keeps_capture x m.name (h q rfl))

/-! ## Passive arguments -/

/-- What is written for an instance is passive. -/
theorem isPassive_of_isInstance {built data : Value} (hbuilt : m.IsInstance built)
    (h : stored built = .ok data) : data.IsPassive := by
  obtain ⟨fields, rfl⟩ := hbuilt
  exact Value.isPassive_of_isPlain (Value.isSettled_of_stored h).1

/-- What options ask for is as passive as they are. -/
theorem isPassive_of_ofOptions {options : Value} {request : PageRequest} (h : options.IsPassive)
    (hrequest : PageRequest.ofOptions options = .ok request) :
    request.after.IsPassive ∧ request.before.IsPassive := by
  have hnamed : ∀ {request}, PageRequest.ofNamed options = .ok request →
      request.after.IsPassive ∧ request.before.IsPassive := by
    intro request hrequest
    obtain ⟨members, hmembers, hrequest⟩ := Except.bind_eq_ok.1 hrequest
    obtain ⟨size, -, rfl⟩ := Except.map_eq_ok.1 (Except.mapError_eq_ok.1 hrequest)
    have hpassive : ∀ e ∈ members, e.2.IsPassive := by
      unfold Value.named at hmembers
      split at hmembers
      · split at hmembers
        · exact Except.ok.inj hmembers ▸ Value.isPassive_dict.1 h
        · cases hmembers
      · cases hmembers
    exact ⟨Value.isPassive_lookup hpassive _, Value.isPassive_lookup hpassive _⟩
  unfold PageRequest.ofOptions at hrequest
  split at hrequest
  · rename_i given hgiven
    cases hrequest
    unfold PageRequest.ofValue? at hgiven
    split at hgiven
    · split at hgiven
      · cases hgiven
        simpa using h
      · cases hgiven
    · cases hgiven
  · split at hrequest
    · exact hnamed hrequest
    · cases hrequest
      simp

/-- **The query of a read or a removal of passive arguments is passive.** -/
theorem isPassive_of_sends (hkind : act.kind = .idle) (hact : act.IsPassive) {q : Query}
    (h : act.Sends m q) : q.IsPassive := by
  cases act with
  | get id | getOrThrow id => exact isPassive_getQuery (hact id (by simp [compiled])) h
  | getMany ids | getManyOrThrow ids =>
    obtain ⟨items, hitems, h⟩ := h
    exact isPassive_getManyQuery ((hact ids (by simp [compiled])).items hitems) h
  | list size after before =>
    exact h ▸ isPassive_listQuery (hact size (by simp [compiled])) (hact after (by simp [compiled]))
      (hact before (by simp [compiled]))
  | count bound => exact h ▸ isPassive_countQuery (hact bound (by simp [compiled]))
  | getFirstByIndex index terms => exact isPassive_firstByIndexQuery hact h
  | listByIndex index terms options =>
    obtain ⟨request, items, hrequest, hitems, h⟩ := h
    obtain ⟨hafter, hbefore⟩ := isPassive_of_ofOptions (hact options (by simp [compiled])) hrequest
    exact isPassive_listByIndexQuery ((hact terms (by simp [compiled])).items hitems) hafter hbefore h
  | refresh doc => exact isPassive_getQuery (Value.isPassive_text _) h
  | delete id => exact isPassive_deleteQuery (hact id (by simp [compiled])) h
  | deleteDocument doc => exact isPassive_deleteQuery (Value.isPassive_text _) h
  | deleteMany ids =>
    obtain ⟨items, hitems, h⟩ := h
    exact isPassive_deleteManyQuery ((hact ids (by simp [compiled])).items hitems) h
  | run x p | capture x p => exact h ▸ Value.isPassive_query.1 (hact _ (by simp [compiled]))
  | create | write | updateDocument | replaceDocument | createMany | writeMany => cases hkind

/-- What a passive query gives out: nothing. -/
theorem keptByQuery_advanced {q : Query} (hq : q.IsPassive) (s : Store) :
    KeptByQuery (Advanced s 0 0) q := fun t ht =>
  ht.after (idle_evaluate (Value.isPassive_query.2 hq) {} ⟨t, []⟩)

/-- **Reads and removals of passive arguments give out neither ids nor times.** -/
theorem idle_op (hkind : act.kind = .idle) (hact : act.IsPassive) (desk : Desk Memory) :
    Advanced desk.remote.store 0 0 ((act.op m).perform desk).2.remote.store :=
  keeps_op (fun _ hq => keptByQuery_advanced (isPassive_of_sends hkind hact hq) _) desk
    (Advanced.refl _)

/-! ## Writes -/

/-- A document that was written last does not fit the schema, so that giving it back fails. -/
def Unfit (m : Model) (now : Int) (fault : Fault) (t : Store) : Prop :=
  ∃ c i doc, t.find c i = some doc ∧ doc.ts = t.clock ∧ m.opening now doc = .error fault

/-- What a write of one document gives out: as much as what it comes to asks for. One that fails gives
out nothing, unless it has written a document that does not fit. -/
def SpentOne (m : Model) (now : Int) (ids : Nat) (s : Store) (out : Except Fault (List Document))
    (t : Store) : Prop :=
  match out with
  | .ok docs => Advanced s (ids * docs.length) docs.length t
  | .error fault => Advanced s 0 0 t ∨ Unfit m now fault t

/-- What a write of many documents gives out, if it does not fail: as much as what it comes to asks
for. -/
def SpentMany (ids : Nat) (s : Store) (out : Except Fault (List Document)) (t : Store) : Prop :=
  ∀ docs, out = .ok docs → Advanced s (ids * docs.length) docs.length t

/-- What an act of passive arguments gives out. -/
structure Spent (m : Model) (now : Int) (act : Act) (s : Store) (out : Except Fault (List Document))
    (t : Store) : Prop where
  /-- reads and removals give out nothing -/
  idle : act.kind = .idle → Advanced s 0 0 t
  /-- a write gives out as much as the documents ask for that it comes to -/
  documents : act.kind ≠ .idle → ∀ docs, out = .ok docs →
    Advanced s (act.newIds * docs.length) docs.length t
  /-- a write of one document that fails gives out nothing, unless the document does not fit -/
  failed : act.kind = .one → ∀ fault, out = .error fault →
    Advanced s 0 0 t ∨ Unfit m now fault t

section Kinds

variable {now : Int} {s t : Store} {out : Except Fault (List Document)}

theorem Spent.of_idle (hkind : act.kind = .idle) (h : Advanced s 0 0 t) :
    act.Spent m now s out t where
  idle _ := h
  documents hwrite := absurd hkind hwrite
  failed hone := by cases hkind.symm.trans hone

theorem Spent.of_one (hkind : act.kind = .one) (h : SpentOne m now act.newIds s out t) :
    act.Spent m now s out t where
  idle hidle := by cases hkind.symm.trans hidle
  documents _ docs hdocs := by
    subst hdocs
    exact h
  failed _ fault hfault := by
    subst hfault
    exact h

theorem Spent.of_many (hkind : act.kind = .many) (h : SpentMany act.newIds s out t) :
    act.Spent m now s out t where
  idle hidle := by cases hkind.symm.trans hidle
  documents _ := h
  failed hone := by cases hkind.symm.trans hone

end Kinds

section One

variable {desk : Desk Memory} {ids : Nat} {q : Query} {α : Type}

/-- The run of a query for one document, and what opens the document. -/
theorem ends_one (h : desk.bound = true → desk.Ready) {operation target : Value}
    (hq : GivesOn ids (evaluate (.query q))) {f : α → List Document} {next : Value → Op Memory α}
    (hnull : ∀ mid : Desk Memory, ∃ out, mid.Runs (next .null) out [] mid.remote.store ∧
      ∀ a, out = .ok a → f a = [])
    (hdoc : ∀ (mid : Desk Memory) (doc : StoredDocument), ∃ g : Document → α,
      (∀ opened, (f (g opened)).length = 1) ∧ mid.Runs (next (.dict doc.members))
        ((m.opening mid.logging.ambient.now doc).map g) [] mid.remote.store) :
    desk.Ends (m.run Memory.executor operation target q >>= next) fun out t =>
      SpentOne m desk.logging.ambient.now ids desk.remote.store (out.map f) t := by
  have hgives := hq desk.remote.store
  refine Desk.Ends.run_bind h rfl (fun _ => Or.inl (Advanced.refl _)) (fun cause t heval fault => ?_)
    fun v t heval mid hmid => ?_
  · rw [heval] at hgives
    cases hgives with
    | failed _ hnone => exact Or.inl hnone
  · rw [heval] at hgives
    cases hgives with
    | nothing hnone =>
      obtain ⟨out, hruns, hout⟩ := hnull mid
      refine ⟨out, _, _, hruns, ?_⟩
      rw [hmid.store]
      cases out with
      | error fault => exact Or.inl hnone
      | ok a =>
        rw [Except.map, hout a rfl]
        exact hnone
    | @document _ c i doc find ts hone =>
      obtain ⟨g, hlength, hruns⟩ := hdoc mid doc
      refine ⟨_, _, _, hruns, ?_⟩
      rw [hmid.store, hmid.now]
      cases hopening : m.opening desk.logging.ambient.now doc with
      | error fault => exact Or.inr ⟨c, i, doc, find, ts, hopening⟩
      | ok opened =>
        have hcount := hlength opened
        simp only [Except.map, SpentOne, hcount, Nat.mul_one]
        exact hone

/-- A query that comes to a document or null, which is opened unless it is null. -/
theorem ends_documentOrNone (h : desk.bound = true → desk.Ready) {operation target : Value}
    (hq : GivesOn ids (evaluate (.query q))) :
    desk.Ends (m.run Memory.executor operation target q >>= m.documentOrNone) fun out t =>
      SpentOne m desk.logging.ambient.now ids desk.remote.store (out.map Option.toList) t :=
  ends_one h hq
    (fun mid => ⟨_, runs_documentOrNone m mid none, by rintro _ ⟨⟩; rfl⟩)
    fun mid doc => ⟨some, fun _ => rfl, runs_documentOrNone m mid (some doc)⟩

theorem ends_documentNow (h : desk.bound = true → desk.Ready) {operation target : Value}
    (hq : GivesOn ids (evaluate (.query q))) :
    desk.Ends (m.run Memory.executor operation target q >>= m.documentNow) fun out t =>
      SpentOne m desk.logging.ambient.now ids desk.remote.store (out.map fun doc => [doc]) t := by
  refine ends_one h hq (fun mid => ⟨_, Desk.Runs.now_bind (Desk.Runs.lift mid _), ?_⟩)
    fun mid doc => ⟨id, fun _ => rfl, ?_⟩
  · intro doc hdoc
    cases hdoc
  · have hid : ∀ r : Except Fault Document, r.map id = r := by
      intro r
      cases r <;> rfl
    rw [hid]
    exact runs_documentNow m mid doc

theorem ends_write (h : desk.bound = true → desk.Ready) (w : Writing) {id data : Value}
    (hid : id.IsPassive) (hdata : ∀ e, stored data = .ok e → e.IsPassive) :
    desk.Ends (m.write Memory.executor w id data) fun out t =>
      SpentOne m desk.logging.ambient.now 0 desk.remote.store (out.map Option.toList) t :=
  Desk.Ends.lift_bind (fun _ => Or.inl (Advanced.refl _)) fun _ hq =>
    ends_documentOrNone h (gives_writeQuery hid hdata hq)

/-- What follows the building of an instance. -/
theorem ends_buildNow_bind {input operation target : Value} {next : Value → Op Memory α}
    {R : Except Fault α → Store → Prop} (herror : ∀ fault, R (.error fault) desk.remote.store)
    (hnext : ∀ built, m.IsInstance built → desk.Ends (next built) R) :
    desk.Ends (m.buildNow input operation target >>= next) R := by
  rw [buildNow, bind_assoc]
  exact Desk.Ends.now_bind (Desk.Ends.lift_bind herror fun built hbuilt =>
    hnext built (isInstance_of_build hbuilt))

theorem ends_create (h : desk.bound = true → desk.Ready) {input ttl : Value} (httl : ttl.IsPassive) :
    desk.Ends (m.create Memory.executor input ttl) fun out t =>
      SpentOne m desk.logging.ambient.now 1 desk.remote.store (out.map fun doc => [doc]) t :=
  ends_buildNow_bind (fun _ => Or.inl (Advanced.refl _)) fun _ hbuilt =>
    Desk.Ends.lift_bind (fun _ => Or.inl (Advanced.refl _)) fun _ hdata =>
      ends_documentNow h (gives_createQuery (isPassive_of_isInstance hbuilt hdata) httl)

theorem ends_updateDocument (h : desk.bound = true → desk.Ready) (doc : Document) (changes : Value) :
    desk.Ends (m.updateDocument Memory.executor doc changes) fun out t =>
      SpentOne m desk.logging.ambient.now 0 desk.remote.store (out.map Option.toList) t := by
  refine Desk.Ends.now_bind (Desk.Ends.lift_bind (fun _ => Or.inl (Advanced.refl _))
    fun built hbuilt => ends_write h .update (Value.isPassive_text _) fun e he => ?_)
  obtain ⟨merged, -, hbuild⟩ := Except.bind_eq_ok.1 hbuilt
  exact isPassive_of_isInstance (isInstance_of_build hbuild) he

theorem ends_replaceDocument (h : desk.bound = true → desk.Ready) (doc : Document) (input : Value) :
    desk.Ends (m.replaceDocument Memory.executor doc input) fun out t =>
      SpentOne m desk.logging.ambient.now 0 desk.remote.store (out.map Option.toList) t :=
  ends_buildNow_bind (fun _ => Or.inl (Advanced.refl _)) fun _ hbuilt =>
    ends_write h .replace (Value.isPassive_text _) fun _ => isPassive_of_isInstance hbuilt

end One

section Many

variable {desk : Desk Memory} {ids : Nat} {q : Query}

/-- The results that are not null are as many as the documents that they are opened as. -/
theorem length_of_presentDocuments {results present : List Value} {now : Int} {docs : List Document}
    (hpresent : Model.present (.list results) = .ok present)
    (h : m.buildDocuments now (.list present) = .ok docs) : docs.length = countOf results := by
  have hfilter : present = results.filter fun raw => !raw.isNull := by
    cases results with
    | nil =>
      cases hpresent
      rfl
    | cons v rest => exact (Except.ok.inj hpresent).symm
  obtain ⟨items, hitems, h⟩ := Except.bind_eq_ok.1 h
  cases hitems
  rw [← (Except.mapM_eq_ok.1 h).length_eq, hfilter, countOf, List.countP_eq_length_filter]

/-- Results that are all opened hold no null. -/
theorem length_of_documentsNow {results : List Value} {now : Int} {docs : List Document}
    (h : m.buildDocuments now (.list results) = .ok docs) : docs.length = countOf results := by
  obtain ⟨items, hitems, h⟩ := Except.bind_eq_ok.1 h
  cases hitems
  have hopened := Except.mapM_eq_ok.1 h
  rw [← hopened.length_eq, countOf, eq_comm, List.countP_eq_length]
  intro v hv
  obtain ⟨doc, -, hdoc⟩ := exists_mem_of_forall₂ hopened.flip hv
  cases v with
  | null => cases hdoc
  | _ => rfl

/-- The run of a query for many documents, and what opens them. -/
theorem ends_many (h : desk.bound = true → desk.Ready) {operation target : Value}
    (hq : TotalsOn ids (evaluate (.query q)))
    {next : Value → Op Memory (List Document)}
    (hnext : ∀ (mid : Desk Memory) results, ∃ out, mid.Runs (next (.list results)) out []
      mid.remote.store ∧ ∀ docs, out = .ok docs → docs.length = countOf results) :
    desk.Ends (m.run Memory.executor operation target q >>= next)
      (SpentMany ids desk.remote.store) := by
  refine Desk.Ends.run_bind h rfl (by rintro _ _ ⟨⟩) (by rintro _ _ _ _ _ ⟨⟩)
    fun v t heval mid hmid => ?_
  obtain ⟨results, rfl, hadvanced⟩ := hq _ v t heval
  obtain ⟨out, hruns, hlength⟩ := hnext mid results
  refine ⟨out, _, _, hruns, fun docs hdocs => ?_⟩
  rw [hlength docs hdocs, hmid.store]
  exact hadvanced

theorem ends_writeMany (h : desk.bound = true → desk.Ready) (w : Writing) {items : Value}
    (hitems : items.IsPassive) :
    desk.Ends (m.writeMany Memory.executor w items) (SpentMany 0 desk.remote.store) := by
  refine Desk.Ends.lift_bind (by rintro _ _ ⟨⟩) fun elements helements =>
    Desk.Ends.lift_bind (by rintro _ _ ⟨⟩) fun q hq =>
      ends_many h (totals_writeManyQuery (hitems.items helements) hq) fun mid results => ?_
  unfold presentDocuments
  cases hpresent : Model.present (.list results) with
  | error fault => exact ⟨_, Desk.Runs.lift_bind_error rfl, by rintro _ ⟨⟩⟩
  | ok present =>
    exact ⟨_, Desk.Runs.lift_bind rfl (Desk.Runs.now_bind (Desk.Runs.lift mid _)),
      fun docs hdocs => length_of_presentDocuments hpresent hdocs⟩

theorem ends_createMany (h : desk.bound = true → desk.Ready) (inputs : Value) :
    desk.Ends (m.createMany Memory.executor inputs) (SpentMany 1 desk.remote.store) := by
  refine Desk.Ends.now_bind (Desk.Ends.lift_bind (by rintro _ _ ⟨⟩) fun built hbuilt =>
    Desk.Ends.lift_bind (by rintro _ _ ⟨⟩) fun data hdata =>
      ends_many h (totals_createManyQuery fun v hv => ?_) fun mid results => ?_)
  · obtain ⟨w, hw, hstored⟩ := exists_mem_of_forall₂ (Except.mapM_eq_ok.1 hdata) hv
    obtain ⟨items, -, hitems⟩ := exists_build_of_buildBulk hbuilt
    obtain ⟨input, -, hbuild⟩ := hitems w hw
    exact isPassive_of_isInstance (isInstance_of_build (hbuild .null .null)) hstored
  · unfold documentsNow
    split
    · exact ⟨_, Desk.Runs.now_bind (Desk.Runs.lift mid _), fun docs => length_of_documentsNow⟩
    · rename_i hempty
      refine ⟨_, Desk.Runs.pure mid [], ?_⟩
      rintro _ ⟨⟩
      cases results with
      | nil => rfl
      | cons v rest => exact absurd rfl hempty

end Many

/-- **What an act of passive arguments gives out** is what its kind says. -/
theorem spent_op {desk : Desk Memory} (h : desk.bound = true → desk.Ready) (hact : act.IsPassive) :
    Spent m desk.logging.ambient.now act desk.remote.store ((act.op m).perform desk).1
      ((act.op m).perform desk).2.remote.store := by
  have hends : ∀ R : Except Fault (List Document) → Store → Prop, desk.Ends (act.op m) R →
      R ((act.op m).perform desk).1 ((act.op m).perform desk).2.remote.store := by
    rintro R ⟨out, calls, t, ⟨after, hperform, hafter⟩, hout⟩
    rw [hperform, hafter.store]
    exact hout
  have hone := fun ids => hends (SpentOne m desk.logging.ambient.now ids desk.remote.store)
  have hmany := fun ids => hends (SpentMany ids desk.remote.store)
  cases act with
  | create input ttl =>
    exact .of_one rfl (hone 1 (ends_create h (hact ttl (by simp [compiled]))).map)
  | write w id data =>
    exact .of_one rfl (hone 0 (ends_write h w (hact id (by simp [compiled])) fun e he =>
      isPassive_stored (hact data (by simp [compiled])) he).map)
  | updateDocument doc changes => exact .of_one rfl (hone 0 (ends_updateDocument h doc changes).map)
  | replaceDocument doc input => exact .of_one rfl (hone 0 (ends_replaceDocument h doc input).map)
  | createMany inputs => exact .of_many rfl (hmany 1 (ends_createMany h inputs))
  | writeMany w items =>
    exact .of_many rfl (hmany 0 (ends_writeMany h w (hact items (by simp [compiled]))))
  | _ => exact .of_idle rfl (idle_op rfl hact desk)

end Act

end DocMapper.Model
