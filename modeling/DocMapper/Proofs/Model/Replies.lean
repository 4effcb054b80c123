import DocMapper.Execution.Scripted
import DocMapper.Proofs.Execution.Running
import DocMapper.Proofs.Model.IndexLookups
import DocMapper.Proofs.Model.KeyedStore
import DocMapper.Proofs.Schema.Elements
/-!
# Replies that cannot be read

An operation fails with a fault that names it when the executor fails and when the data of a document
does not fit the schema. A reply that is not of the expected shape is another matter: what is not
read as a stored document, as a sequence of them or as a page ends the operation with the fault of
the reader itself, which passes the operation unchanged.

`Model.Request.escapes_iff` says for every operation that opens documents, any executor and any
reply exactly when that happens (`Model.Request.Misread`).
-/

namespace DocMapper

/-! ## Faults of operations -/

/-- A fault of a document operation, which names the operation. -/
def Fault.IsOperational : Fault → Prop
  | .failed .. | .invalid .. | .misconfigured .. | .absent .. | .countMismatch .. | .transport .. =>
    True
  | _ => False

/-- The outcome is a fault that is not one of an operation. -/
def Escapes {α : Type} (out : Except Fault α) : Prop :=
  ∃ fault, out = .error fault ∧ ¬ fault.IsOperational

namespace Escapes

variable {α β : Type} {x : Except Fault α}

@[simp] theorem not_ok (a : α) : ¬ Escapes (.ok a : Except Fault α) := nofun

@[simp] theorem error_iff {fault : Fault} :
    Escapes (.error fault : Except Fault α) ↔ ¬ fault.IsOperational :=
  ⟨fun ⟨_, h, hfault⟩ => Except.error.inj h ▸ hfault, fun h => ⟨fault, rfl, h⟩⟩

@[simp] theorem map_iff {f : α → β} : Escapes (x.map f) ↔ Escapes x := by
  cases x with
  | error fault => simp [Except.map]
  | ok a => simp [Except.map]

theorem bind_iff {f : α → Except Fault β} :
    Escapes (x.bind f) ↔ Escapes x ∨ ∃ a, x = .ok a ∧ Escapes (f a) := by
  cases x with
  | error fault => simp [Except.bind]
  | ok a => simp [Except.bind]

/-- Of computations for some elements the first that fails decides. -/
theorem mapM_iff {f : α → Except Fault β} {xs : List α} : Escapes (xs.mapM f) ↔
    ∃ before x after, xs = before ++ x :: after ∧ (∀ y ∈ before, ∃ b, f y = .ok b) ∧
      Escapes (f x) := by
  induction xs with
  | nil => simp [pure, Except.pure]
  | cons y rest ih =>
    have hsteps : (y :: rest).mapM f = (f y).bind fun b => (rest.mapM f).map (b :: ·) := by
      rw [List.mapM_cons]
      cases f y with
      | error fault => rfl
      | ok b => cases rest.mapM f <;> rfl
    rw [hsteps, bind_iff]
    simp only [map_iff, ih]
    constructor
    · rintro (hfirst | ⟨b, hb, before, x, after, rfl, hbefore, hx⟩)
      · exact ⟨[], y, rest, rfl, by simp, hfirst⟩
      · exact ⟨y :: before, x, after, rfl, List.forall_mem_cons.2 ⟨⟨b, hb⟩, hbefore⟩, hx⟩
    · rintro ⟨_ | ⟨z, before⟩, x, after, heq, hbefore, hx⟩
      · cases heq
        exact .inl hx
      · cases heq
        obtain ⟨⟨b, hb⟩, hbefore⟩ := List.forall_mem_cons.1 hbefore
        exact .inr ⟨b, hb, before, x, after, rfl, hbefore, hx⟩

end Escapes

namespace Model

open Query (named binding)

variable {σ : Type} {m : Model} {now : Int}

/-! ## Documents in a reply -/

/-- What cannot be made a document other than for its data not fitting the schema: it is no stored
document, or its data cannot be held against a limit. -/
def Malformed (m : Model) (now : Int) (raw : Value) : Prop :=
  (∀ doc, StoredDocument.read raw ≠ .ok doc) ∨
    ∃ doc, StoredDocument.read raw = .ok doc ∧
      m.schema.check now (m.schema.plain doc.data) = .error .incomparable

/-- The first element of a sequence that is not made a document is malformed. -/
def MalformedFirst (m : Model) (now : Int) (raws : List Value) : Prop :=
  ∃ before raw after, raws = before ++ raw :: after ∧
    (∀ x ∈ before, ∃ doc, m.buildDocument now x = .ok doc) ∧ m.Malformed now raw

/-- A check of data fails with a fault of its own exactly if it cannot be made. -/
theorem escapes_build {input operation target : Value} :
    Escapes (m.build now input operation target) ↔
      m.schema.check now (m.schema.plain input) = .error .incomparable := by
  constructor
  · rintro ⟨fault, hfault, hnot⟩
    rcases Schema.concluded_eq_error hfault with ⟨-, hcheck⟩ | ⟨rfl, -⟩
    · exact hcheck
    · exact absurd trivial hnot
  · intro hcheck
    exact ⟨_, Schema.concluded_eq_misuse.2 hcheck, id⟩

/-- A structure that is not read fails with a fault of its own. -/
theorem escapes_orReject {α : Type} {title : String} {c : Checked α} :
    Escapes (Checked.orReject title c) ↔ ∀ a, c ≠ .ok a := by
  cases c with
  | ok a => simp [Checked.orReject, Except.mapError]
  | error r => cases r <;> simp [Checked.orReject, Except.mapError, Refusal.toFault,
      Fault.IsOperational]

/-- **A document fails with a fault of its reader** exactly if it is malformed. -/
theorem escapes_buildDocument {raw : Value} :
    Escapes (m.buildDocument now raw) ↔ m.Malformed now raw := by
  have hsteps : m.buildDocument now raw =
      (Checked.orReject StoredDocument.title (StoredDocument.read raw)).bind fun doc =>
        (m.build now doc.data "build_doc" (.text doc.ref.path)).bind fun data => .ok ⟨doc, data⟩ :=
    rfl
  have hread : ∀ doc, Checked.orReject StoredDocument.title (StoredDocument.read raw) = .ok doc ↔
      StoredDocument.read raw = .ok doc := fun _ => Except.mapError_eq_ok
  simp only [hsteps, Escapes.bind_iff, escapes_orReject, hread, escapes_build, Escapes.not_ok,
    and_false, exists_false, or_false, Malformed]

theorem escapes_buildDocuments {raws : Value} {items : List Value} (h : raws.items = .ok items) :
    Escapes (m.buildDocuments now raws) ↔ m.MalformedFirst now items := by
  rw [buildDocuments, h]
  exact Escapes.mapM_iff.trans (by simp only [escapes_buildDocument, MalformedFirst])

/-! ## Reading a reply -/

/-- What is made of a reply that is a document or nothing. -/
def readDocument (m : Model) (now : Int) (reply : Value) : Except Fault (Option Document) :=
  if reply.truthy then (m.buildDocument now reply).map some else .ok none

/-- What is made of a reply that has documents, and nulls between them. -/
def readDocuments (m : Model) (now : Int) (reply : Value) : Except Fault (List Document) :=
  (present reply).bind fun raws => m.buildDocuments now (.list raws)

/-- What is made of a reply that is a page of documents. -/
def readPage (m : Model) (now : Int) (reply : Value) : Except Fault Page :=
  m.buildPage now (if reply.truthy then reply else .dict [])

variable {reply : Value}

theorem escapes_items : Escapes reply.items ↔ ∀ items, reply.items ≠ .ok items := by
  unfold Value.items
  cases reply.items? with
  | none => simp [wrongKind, Fault.IsOperational]
  | some items => simp

/-- A sequence of documents is misread if it is none, or for its first element that is malformed. -/
theorem escapes_items_bind {f : List Value → List Value} :
    Escapes (reply.items.bind fun items => m.buildDocuments now (.list (f items))) ↔
      ∀ items, reply.items = .ok items → m.MalformedFirst now (f items) := by
  cases hitems : reply.items with
  | error fault =>
    have hnone : Escapes reply.items := escapes_items.2 (by simp [hitems])
    rw [hitems, Escapes.error_iff] at hnone
    simpa [Except.bind] using hnone
  | ok items =>
    have hbuild : Escapes (m.buildDocuments now (.list (f items))) ↔
        m.MalformedFirst now (f items) := escapes_buildDocuments rfl
    simpa [Except.bind] using hbuild

theorem escapes_readDocument : Escapes (m.readDocument now reply) ↔
    reply.truthy = true ∧ m.Malformed now reply := by
  rw [readDocument]
  cases reply.truthy with
  | false => simp
  | true => simp [escapes_buildDocument]

theorem escapes_readDocuments :
    Escapes (m.readDocuments now reply) ↔
      reply.truthy = true ∧ ∀ items, reply.items = .ok items →
        m.MalformedFirst now (items.filter fun raw => !raw.isNull) := by
  have hsteps : m.readDocuments now reply =
      if reply.truthy then reply.items.bind fun items =>
        m.buildDocuments now (.list (items.filter fun raw => !raw.isNull)) else .ok [] := by
    unfold readDocuments present
    cases reply.truthy with
    | false => rfl
    | true => cases reply.items <;> rfl
  rw [hsteps]
  cases reply.truthy with
  | false => simp
  | true => simpa using escapes_items_bind (f := List.filter fun raw => !raw.isNull)

/-- A page is made of its documents and of where the pages beside it begin. -/
theorem buildPage_dict (members : Dict Value) : m.buildPage now (.dict members) =
    (if (Value.lookup members "data").truthy then
      m.buildDocuments now (Value.lookup members "data") else .ok []).map fun documents =>
        ⟨documents, orNull (Value.lookup members "after"),
          orNull (Value.lookup members "before")⟩ := by
  have hbuild : m.buildPage now (.dict members) = (do
      let documents ← if (Value.lookup members "data").truthy then
        m.buildDocuments now (Value.lookup members "data") else pure []
      return ⟨documents, orNull (Value.lookup members "after"),
        orNull (Value.lookup members "before")⟩) := rfl
  rw [hbuild]
  cases (Value.lookup members "data").truthy with
  | false => rfl
  | true => cases m.buildDocuments now (Value.lookup members "data") <;> rfl

theorem escapes_readPage : Escapes (m.readPage now reply) ↔
    reply.truthy = true ∧ ∀ members, reply = .dict members →
      (Value.lookup members "data").truthy = true ∧
        ∀ items, (Value.lookup members "data").items = .ok items →
          m.MalformedFirst now items := by
  rw [readPage]
  cases htruthy : reply.truthy with
  | false => simp [buildPage_dict, Value.lookup, Dict.get?, Value.truthy]
  | true =>
    simp only [if_true, true_and]
    cases reply with
    | dict members =>
      rw [buildPage_dict, Escapes.map_iff]
      cases hdata : (Value.lookup members "data").truthy with
      | false => simp [hdata]
      | true =>
        have hdocuments : Escapes (m.buildDocuments now (Value.lookup members "data")) ↔ _ :=
          escapes_items_bind (f := id)
        simp [hdata, hdocuments]
    | _ => exact iff_of_true ⟨_, rfl, id⟩ (by rintro _ ⟨⟩)

/-! ## Requests -/

/-- A request of a model for documents, with its arguments. -/
inductive Request
  | get (id : Value)
  | getMany (ids : List Value)
  | list (size after before : Value)
  | getFirstByIndex (index : String) (terms : List Value)
  | listByIndex (index : String) (terms : List Value) (options : Value)
  | update (id data : Value)
  | delete (id : Value)

/-- What a request is answered with. -/
inductive Reading
  | document (found : Option Document)
  | documents (found : List Document)
  | page (page : Page)

namespace Request

/-- The operation that makes a request. -/
def op (m : Model) (ex : Executor σ) : Request → Op σ Reading
  | .get id => .document <$> m.get ex id
  | .getMany ids => .documents <$> m.getMany ex (.list ids)
  | .list size after before => .page <$> m.list ex size after before
  | .getFirstByIndex index terms => .document <$> m.getFirstByIndex ex (.text index) terms
  | .listByIndex index terms options =>
    .page <$> m.listByIndex ex (.text index) (.list terms) options
  | .update id data => .document <$> m.write ex .update id data
  | .delete id => .document <$> m.delete ex id

/-- The query of a request. -/
def query (m : Model) : Request → Except Fault Query
  | .get id => m.getQuery id
  | .getMany ids => m.getManyQuery ids
  | .list size after before => .ok (m.listQuery size after before)
  | .getFirstByIndex index terms => m.firstByIndexQuery (.text index) terms
  | .listByIndex index terms options => do
    m.listByIndexQuery (.text index) terms (← PageRequest.ofOptions options)
  | .update id data => m.writeQuery .update id data
  | .delete id => m.deleteQuery id

/-- Arguments of the kinds that a request is meant for: ids that name places, plain data, and
options that ask for a page. -/
def WellTyped (m : Model) : Request → Prop
  | .get id => ∃ place, m.place? id = some place
  | .getMany ids => ∀ id ∈ ids, ∃ place, m.place? id = some place
  | .list size after before =>
    size.isPlain = true ∧ after.isPlain = true ∧ before.isPlain = true
  | .getFirstByIndex _ terms => ∀ v ∈ terms, v.isPlain = true
  | .listByIndex _ terms options => (∀ v ∈ terms, v.isPlain = true) ∧
    ∃ request, PageRequest.ofOptions options = .ok request ∧
      request.after.isPlain = true ∧ request.before.isPlain = true
  | .update id data => (∃ place, m.place? id = some place) ∧
    ∃ entries, data = .dict entries ∧ data.isPlain = true
  | .delete id => ∃ place, m.place? id = some place

/-- What a request makes of a reply. -/
def reading (m : Model) (now : Int) (reply : Value) : Request → Except Fault Reading
  | .getMany _ => (m.readDocuments now reply).map .documents
  | .list .. | .listByIndex .. => (m.readPage now reply).map .page
  | .get .. | .getFirstByIndex .. | .update .. | .delete .. =>
    (m.readDocument now reply).map .document

/-- A reply that is something, but not what the request is for: no document, no sequence of
documents once its nulls are left out, or no page of documents. -/
def Misread (m : Model) (now : Int) (reply : Value) : Request → Prop
  | .getMany _ => reply.truthy = true ∧ ∀ items, reply.items = .ok items →
    m.MalformedFirst now (items.filter fun raw => !raw.isNull)
  | .list .. | .listByIndex .. => reply.truthy = true ∧ ∀ members, reply = .dict members →
    (Value.lookup members "data").truthy = true ∧
      ∀ items, (Value.lookup members "data").items = .ok items → m.MalformedFirst now items
  | .get .. | .getFirstByIndex .. | .update .. | .delete .. =>
    reply.truthy = true ∧ m.Malformed now reply

variable {reply : Value}

/-- **A reply is misread** exactly if reading it fails with a fault of the reader. -/
theorem escapes_reading (r : Request) :
    Escapes (r.reading m now reply) ↔ r.Misread m now reply := by
  cases r with
  | getMany => exact Escapes.map_iff.trans escapes_readDocuments
  | list | listByIndex => exact Escapes.map_iff.trans escapes_readPage
  | get | getFirstByIndex | update | delete => exact Escapes.map_iff.trans escapes_readDocument

/-! ### Queries -/

theorem sendable_refQueries {ids : List Value}
    (h : ∀ id ∈ ids, ∃ place, m.place? id = some place) :
    ∃ refs, m.refQueries ids = .ok refs ∧ ∀ v ∈ refs, v.Sendable := by
  have hcompile : ∀ id ∈ ids, ∃ v,
      (do return Value.query (← m.refQuery id)) = Except.ok v ∧ v.Sendable := by
    intro id hid
    obtain ⟨⟨c, i⟩, hplace⟩ := h id hid
    obtain ⟨q, hq, hsend, -⟩ := refQuery_spec hplace
    exact ⟨.query q, by rw [hq]; rfl, Value.sendable_query.2 hsend⟩
  obtain ⟨refs, hrefs⟩ := exists_forall₂ hcompile
  refine ⟨refs, Except.mapM_eq_ok.2 (hrefs.imp fun _ _ h => h.1), fun v hv => ?_⟩
  obtain ⟨_, -, -, hsend⟩ := exists_mem_of_forall₂ hrefs hv
  exact hsend

theorem sendable_getManyQuery {ids : List Value}
    (h : ∀ id ∈ ids, ∃ place, m.place? id = some place) :
    ∃ q, m.getManyQuery ids = .ok q ∧ q.Sendable := by
  obtain ⟨refs, hrefs, hsend⟩ := sendable_refQueries h
  refine ⟨_, by rw [getManyQuery, hrefs]; rfl, sendable_mapped (by simp) ?_ ?_⟩
  · exact Value.sendable_list.2 hsend
  · simp [getOrNull]

/-- An index that is used by a name is there, or the fault names the operation. -/
theorem index_cases (c : IndexCatalog) (index : String) :
    (∃ d full, c.get (.text index) = .ok d ∧ c.fullName (.text index) = .ok full) ∨
      ∃ fault, fault.IsOperational ∧ ∀ terms, c.matching (.text index) terms = .error fault := by
  have hfind : Value.find c.definitions (.text index) = .ok (c.definitions.get? (.text index)) :=
    rfl
  cases hd : c.definitions.get? (.text index) with
  | none =>
    refine .inr ⟨.misconfigured "index.get" (.text index) "no index with this name is defined",
      trivial, fun terms => ?_⟩
    rw [IndexCatalog.matching, IndexCatalog.get, hfind, hd]
    rfl
  | some d =>
    have hget : c.get (.text index) = .ok d := by
      rw [IndexCatalog.get, hfind, hd]
      rfl
    unfold IndexCatalog.matching IndexCatalog.fullName
    rw [hget]
    cases c.owner with
    | none => exact .inr ⟨.misconfigured _ _ _, trivial, fun _ => rfl⟩
    | some model => exact .inl ⟨d, _, rfl, rfl⟩

/-- The parts of a look-up by an index that is there can be sent. -/
theorem sendable_lookup {index full : String} {d : IndexDefinition}
    (hget : m.indexes.get (.text index) = .ok d)
    (hfull : m.indexes.fullName (.text index) = .ok full) {terms : List Value}
    (hterms : ∀ v ∈ terms, v.isPlain = true) {entry : Value} (hentry : entry.Sendable) :
    ∃ matched target, m.indexes.matching (.text index) terms = .ok matched ∧ matched.Sendable ∧
      m.entryRef (.text index) entry = .ok target ∧ target.Sendable := by
  have hmatching : m.indexes.matching (.text index) terms =
      .ok (.lookUp (.query (.index (.text full) none)) terms) := by
    rw [IndexCatalog.matching, hget, hfull]
    rfl
  have hmatched : (Query.lookUp (.query (.index (.text full) none)) terms).Sendable :=
    Query.Sendable.lookUp (by simp) fun v hv => .plain (hterms v hv)
  have hposition : m.indexes.refPosition (.text index) =
      .ok (if d.values.isEmpty then none else some d.values.length) := by
    rw [IndexCatalog.refPosition, hget]
    rfl
  cases hempty : d.values.isEmpty with
  | true => exact ⟨_, entry, hmatching, hmatched, by rw [entryRef, hposition, hempty]; rfl, hentry⟩
  | false =>
    exact ⟨_, .query (.select [.int d.values.length] entry none), hmatching, hmatched,
      by rw [entryRef, hposition, hempty]; rfl,
      Value.sendable_query.2 (Query.Sendable.select rfl hentry)⟩

/-- **A request is compiled into a query that can be sent**, unless it names an index that there is
not. -/
theorem compiles {r : Request} (h : r.WellTyped m) :
    (∃ q, r.query m = .ok q ∧ q.Sendable) ∨
      ∃ fault, r.query m = .error fault ∧ fault.IsOperational := by
  cases r with
  | get id =>
    obtain ⟨⟨c, i⟩, hplace⟩ := h
    obtain ⟨q, hq, hsend, -⟩ := getQuery_spec hplace
    exact .inl ⟨q, hq, hsend⟩
  | getMany ids => exact .inl (sendable_getManyQuery h)
  | list size after before => exact .inl ⟨_, rfl, sendable_listQuery h.1 h.2.1 h.2.2⟩
  | getFirstByIndex index terms =>
    rcases index_cases m.indexes index with ⟨d, full, hget, hfull⟩ | ⟨fault, hfault, hnone⟩
    · obtain ⟨matched, target, hmatching, hmatched, htarget, hsend⟩ :=
        sendable_lookup hget hfull h sendable_firstEntry
      refine .inl ⟨_, Except.bind_eq_ok.2 ⟨_, hmatching, Except.bind_eq_ok.2 ⟨_, htarget, rfl⟩⟩, ?_⟩
      exact sendable_matched (by simp) hmatched (by simp [hsend])
    · exact .inr ⟨fault, by rw [query, firstByIndexQuery, hnone]; rfl, hfault⟩
  | listByIndex index terms options =>
    obtain ⟨hterms, request, hrequest, hafter, hbefore⟩ := h
    rcases index_cases m.indexes index with ⟨d, full, hget, hfull⟩ | ⟨fault, hfault, hnone⟩
    · obtain ⟨matched, target, hmatching, hmatched, htarget, hsend⟩ :=
        sendable_lookup hget hfull hterms (Query.sendable_named "entry")
      have hpage : (Query.page (named "matched") (.int request.size) request.after
          request.before).Sendable :=
        .page (Query.sendable_named "matched") (.plain rfl) (.plain hafter) (.plain hbefore)
      refine .inl ⟨_, Except.bind_eq_ok.2 ⟨_, hrequest, Except.bind_eq_ok.2 ⟨_, hmatching,
        Except.bind_eq_ok.2 ⟨_, htarget, rfl⟩⟩⟩, ?_⟩
      exact sendable_matched (by simp) hmatched (by simp [hsend, hpage])
    · exact .inr ⟨fault, by rw [query, hrequest]; simp [listByIndexQuery, hnone, bind, Except.bind],
        hfault⟩
  | update id data =>
    obtain ⟨⟨⟨c, i⟩, hplace⟩, entries, rfl, hplain⟩ := h
    have hstored : stored (.dict entries) = .ok (.dict entries) := rfl
    obtain ⟨q, hq, hsend, -⟩ := writeQuery_spec (w := .update) hplace hstored hplain
    exact .inl ⟨q, hq, hsend⟩
  | delete id =>
    obtain ⟨⟨c, i⟩, hplace⟩ := h
    obtain ⟨q, hq, hsend, -⟩ := deleteQuery_spec hplace
    exact .inl ⟨q, hq, hsend⟩

/-! ### Runs -/

variable {ex : Executor σ} {desk : Desk σ} {q : Query} {remote : σ}

theorem comesTo_run (h : desk.Staffed) (operation target : Value) (hq : q.Sendable)
    {out : Except Fault Value} (hreply : (ex.query q (.dict [])).perform desk.remote = (out, remote)) :
    desk.ComesTo (m.run ex operation target q) (out.mapError (transported operation target))
      remote :=
  Desk.ComesTo.run h rfl hq hreply

/-- What a reply is read as follows on the run of a query that it is the reply to. -/
theorem comesTo_read {α : Type} (next : Value → Op σ α) (read : Int → Value → Except Fault α)
    (hnext : ∀ mid : Desk σ, mid.Staffed →
      mid.ComesTo (next reply) (read mid.logging.ambient.now reply) mid.remote)
    (h : desk.Staffed) (operation target : Value) (hq : q.Sendable)
    (hreply : (ex.query q (.dict [])).perform desk.remote = (.ok reply, remote)) :
    desk.ComesTo (m.run ex operation target q >>= next) (read desk.logging.ambient.now reply)
      remote := by
  refine Desk.ComesTo.bind (comesTo_run h operation target hq hreply) fun mid hmid => ?_
  have hread := hnext mid hmid.staffed
  rwa [hmid.now, hmid.remote] at hread

theorem comesTo_documentOrNone (h : desk.Staffed) : desk.ComesTo (m.documentOrNone reply)
    (m.readDocument desk.logging.ambient.now reply) desk.remote := by
  unfold documentOrNone readDocument
  cases reply.truthy with
  | false => exact Desk.ComesTo.pure h none
  | true =>
    have hdocument : desk.ComesTo (m.documentNow reply)
        (m.buildDocument desk.logging.ambient.now reply) desk.remote :=
      Desk.ComesTo.now_bind (Desk.ComesTo.lift h _)
    exact hdocument.map some

theorem comesTo_presentDocuments (h : desk.Staffed) : desk.ComesTo (m.presentDocuments reply)
    (m.readDocuments desk.logging.ambient.now reply) desk.remote := by
  unfold presentDocuments readDocuments
  cases hpresent : present reply with
  | error fault => exact Desk.ComesTo.bind_error (Desk.ComesTo.lift h _)
  | ok raws =>
    exact Desk.ComesTo.lift_bind rfl (Desk.ComesTo.now_bind (Desk.ComesTo.lift h _))

theorem comesTo_pageNow (h : desk.Staffed) : desk.ComesTo (m.pageNow reply)
    (m.readPage desk.logging.ambient.now reply) desk.remote :=
  Desk.ComesTo.now_bind (Desk.ComesTo.lift h _)

/-- **An operation reads the reply to its query.** -/
theorem comesTo_op {r : Request} (h : desk.Staffed) (hq : r.query m = .ok q) (hsend : q.Sendable)
    (hreply : (ex.query q (.dict [])).perform desk.remote = (.ok reply, remote)) :
    desk.ComesTo (r.op m ex) (r.reading m desk.logging.ambient.now reply) remote := by
  have hdocument : ∀ operation target, desk.ComesTo
      (m.run ex operation target q >>= m.documentOrNone)
      (m.readDocument desk.logging.ambient.now reply) remote := fun operation target =>
    comesTo_read _ _ (fun _ => comesTo_documentOrNone) h operation target hsend hreply
  have hpage : ∀ operation target, desk.ComesTo (m.run ex operation target q >>= m.pageNow)
      (m.readPage desk.logging.ambient.now reply) remote := fun operation target =>
    comesTo_read _ _ (fun _ => comesTo_pageNow) h operation target hsend hreply
  cases r with
  | get id =>
    refine Desk.ComesTo.map _ (Desk.ComesTo.lift_bind hq ?_)
    refine Desk.ComesTo.bind (Desk.ComesTo.onLog_add h .debug _ (.inl rfl)) fun mid hmid => ?_
    rw [← hmid.now]
    rw [← hmid.remote] at hreply
    exact comesTo_read _ _ (fun _ => comesTo_documentOrNone) hmid.staffed _ _ hsend hreply
  | getMany ids =>
    refine Desk.ComesTo.map _ (Desk.ComesTo.lift_bind rfl (Desk.ComesTo.lift_bind hq ?_))
    refine Desk.ComesTo.lift_bind rfl ?_
    refine Desk.ComesTo.bind (Desk.ComesTo.onLog_add h .debug _ (.inl rfl)) fun mid hmid => ?_
    rw [← hmid.now]
    rw [← hmid.remote] at hreply
    exact comesTo_read _ _ (fun _ => comesTo_presentDocuments) hmid.staffed _ _ hsend hreply
  | list size after before =>
    cases hq
    exact (hpage _ _).map _
  | getFirstByIndex index terms => exact Desk.ComesTo.map _ (Desk.ComesTo.lift_bind hq (hdocument _ _))
  | listByIndex index terms options =>
    obtain ⟨request, hrequest, hquery⟩ := Except.bind_eq_ok.1 hq
    exact Desk.ComesTo.map _ (Desk.ComesTo.lift_bind hrequest (Desk.ComesTo.lift_bind rfl
      (Desk.ComesTo.lift_bind hquery (hpage _ _))))
  | update id data => exact Desk.ComesTo.map _ (Desk.ComesTo.lift_bind hq (hdocument _ _))
  | delete id => exact Desk.ComesTo.map _ (Desk.ComesTo.lift_bind hq (hdocument _ _))

/-- An operation that cannot be compiled ends in the fault of its compilation. -/
theorem comesTo_of_not_compiled {r : Request} (h : desk.Staffed) (hr : r.WellTyped m) {fault : Fault}
    (hq : r.query m = .error fault) : desk.ComesTo (r.op m ex) (.error fault) desk.remote := by
  cases r with
  | get | getFirstByIndex | update | delete =>
    exact Desk.ComesTo.map _ (Desk.ComesTo.lift_bind_error h hq)
  | getMany =>
    exact Desk.ComesTo.map _ (Desk.ComesTo.lift_bind rfl (Desk.ComesTo.lift_bind_error h hq))
  | list => cases hq
  | listByIndex index terms options =>
    obtain ⟨-, request, hrequest, -⟩ := hr
    have hlookup : m.listByIndexQuery (.text index) terms request = .error fault := by
      rw [query, hrequest] at hq
      exact hq
    have hop : desk.ComesTo (m.listByIndex ex (.text index) (.list terms) options) (.error fault)
        desk.remote := Desk.ComesTo.lift_bind hrequest
      (Desk.ComesTo.lift_bind rfl (Desk.ComesTo.lift_bind_error h hlookup))
    exact hop.map _

/-- **When a reply ends an operation with a fault of no operation.** Whatever the executor replies,
an operation with arguments of the right kinds ends so exactly if it is sent at all and the reply is
misread; otherwise it gives what was read or fails under its own name. -/
theorem escapes_iff (r : Request) (hr : r.WellTyped m) (h : desk.Staffed)
    (hreply : ∀ q, ((ex.query q (.dict [])).perform desk.remote).1 = .ok reply) :
    Escapes ((r.op m ex).perform desk).1 ↔
      (∃ q, r.query m = .ok q) ∧ r.Misread m desk.logging.ambient.now reply := by
  rcases compiles hr with ⟨q, hq, hsend⟩ | ⟨fault, hq, hfault⟩
  · have hcomes : desk.ComesTo (r.op m ex) (r.reading m desk.logging.ambient.now reply) _ :=
      comesTo_op h hq hsend (Prod.ext (hreply q) rfl)
    obtain ⟨after, hop, -⟩ := hcomes
    rw [hop, escapes_reading]
    exact ⟨fun hmisread => ⟨⟨q, hq⟩, hmisread⟩, And.right⟩
  · have hcomes : desk.ComesTo (r.op m ex) (.error fault) desk.remote :=
      comesTo_of_not_compiled h hr hq
    obtain ⟨after, hop, -⟩ := hcomes
    rw [hop, Escapes.error_iff]
    refine ⟨fun hnot => absurd hfault hnot, ?_⟩
    rintro ⟨⟨q, hsent⟩, -⟩
    cases hq.symm.trans hsent

/-! ## A document without a reference -/

/-- A reply that has data, but neither the reference of a document nor its time. -/
def nameless : Value := .dict [(.text "data", .dict [])]

/-- A desk whose executor gives one prepared reply. -/
def scripted (m : Model) (reply : Value) : Desk Script where
  remote := { replies := [.ok reply] }
  bound := true
  logging := ⟨m.newLog, {}⟩

theorem staffed_scripted (m : Model) (reply : Value) : (scripted m reply).Staffed := ⟨rfl, _, rfl⟩

/-- A read of an id ends with a fault of the reader when the reply is a document without a reference,
and a page of such documents does. -/
theorem escapes_iff_sample :
    Escapes (((Request.get (.text "1")).op sampleModel Script.executor).perform
      (scripted sampleModel nameless)).1 ∧
    Escapes (((Request.list (.int 5) .null .null).op sampleModel Script.executor).perform
      (scripted sampleModel (.dict [(.text "data", .list [nameless])]))).1 := by
  have hnone : ∀ doc, StoredDocument.read nameless ≠ .ok doc := nofun
  constructor
  · refine (escapes_iff (.get (.text "1")) ⟨_, rfl⟩ (staffed_scripted _ _) fun _ => rfl).2 ?_
    exact ⟨⟨_, rfl⟩, rfl, .inl hnone⟩
  · refine (escapes_iff (.list (.int 5) .null .null) ⟨rfl, rfl, rfl⟩ (staffed_scripted _ _)
      fun _ => rfl).2 ⟨⟨_, rfl⟩, rfl, fun members hmembers => ?_⟩
    cases hmembers
    refine ⟨rfl, fun items hitems => ?_⟩
    cases hitems
    exact ⟨[], nameless, [], rfl, by simp, .inl hnone⟩

end Request

end Model

end DocMapper
