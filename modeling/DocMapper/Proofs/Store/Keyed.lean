import DocMapper.Model.Queries
import DocMapper.Proofs.Data.Distinct
import DocMapper.Proofs.Execution.Performing
import DocMapper.Store.Write
/-!
# A store of documents under keys

Apart from how it is reached, a store is a table of documents, each in a place given by a collection
and an id (`Store.find`). `Store.writeAt` and `Store.removeAt` are what a write to a place and the
removal of its document mean for the table; both begin with a look whether there is a document.
`Store.insert` adds a document in a fresh place.

Main statements: the actions of the store on the reference of a document are these
(`Store.perform_writing`, `Store.perform_delete`), and none of them touches any other place
(`Store.SameElsewhere`).
-/

namespace DocMapper

/-- What a write leaves of the data of a document. -/
def Model.Writing.result (w : Model.Writing) (old new : Value) : Value :=
  match w with
  | .update => old.patch new
  | .replace => new

/-- The action that a write is. -/
def Model.Writing.action (w : Model.Writing) (target params : Value) : Action Store Value :=
  match w with
  | .update => Store.update target params
  | .replace => Store.replace target params

namespace Store

open Action Model

/-- The reference of the document of an id in a collection. -/
def documentRef (c i : String) : Ref := { id := i, collection := some (collectionRef c) }

/-- A document with new data, at the next time of the store. -/
def rewritten (s : Store) (doc : StoredDocument) (data : Value) : StoredDocument :=
  { doc with data := data, ts := s.clock + 1 }

/-- The store after the document of a place has been given new data. -/
def putRewritten (s : Store) (c i : String) (doc : StoredDocument) (data : Value) : Store :=
  s.tick.put c i (s.rewritten doc data)

/-- A write to a place: the document as it is then, if there is one, unless a unique index refuses
it. -/
def writeAt (s : Store) (w : Writing) (c i : String) (data : Value) :
    Except Fault (Option StoredDocument) × Store :=
  match s.find c i with
  | none => (.ok none, s)
  | some doc =>
    match s.checkUnique c (w.result doc.data data) (some i) with
    | .error fault => (.error fault, s)
    | .ok _ => (.ok (some (s.rewritten doc (w.result doc.data data))),
        s.putRewritten c i doc (w.result doc.data data))

/-- The fault of a removal that finds no document. -/
def nothingToDelete : Fault := .aborted "No document to delete!"

/-- The removal of the document of a place, which has to be there. -/
def removeAt (s : Store) (c i : String) : Except Fault (Option StoredDocument) × Store :=
  match s.find c i with
  | none => (.error nothingToDelete, s)
  | some doc => (.ok (some doc), s.erase c i)

/-- The creation of a document in a collection, which has to be there: the document as it is then,
under the next id, unless a unique index refuses it. -/
def createIn (s : Store) (c : String) (data ttl : Value) : Except Fault StoredDocument × Store :=
  if s.collections.has c then
    match s.checkUnique c data none with
    | .error fault => (.error fault, s)
    | .ok _ => (.ok (s.insert c data ttl).2, (s.insert c data ttl).1)
  else (.error (collectionMissing c), s)

/-- A document as queries see it, or null. -/
def shown : Option StoredDocument → Value
  | none => .null
  | some doc => .dict doc.members

/-! ## Other places -/

/-- Two stores that differ in one place at most, apart from the clock. -/
structure SameElsewhere (c i : String) (s t : Store) : Prop where
  find_eq : ∀ {c' i'}, (c', i') ≠ (c, i) → t.find c' i' = s.find c' i'
  indexes_eq : t.indexes = s.indexes
  lastId_eq : t.lastId = s.lastId

theorem SameElsewhere.refl (c i : String) (s : Store) : SameElsewhere c i s s := ⟨fun _ => rfl, rfl, rfl⟩

@[simp] theorem find_tick (s : Store) (c i : String) : s.tick.find c i = s.find c i := rfl

@[simp] theorem find_takeId (s : Store) (c i : String) : s.takeId.find c i = s.find c i := rfl

theorem sameElsewhere_putRewritten (s : Store) (c i : String) (doc : StoredDocument)
    (data : Value) : SameElsewhere c i s (s.putRewritten c i doc data) where
  find_eq h := by rw [putRewritten, find_put_of_ne _ _ (Ne.symm h), find_tick]
  indexes_eq := rfl
  lastId_eq := rfl

theorem sameElsewhere_erase (s : Store) (c i : String) : SameElsewhere c i s (s.erase c i) where
  find_eq h := find_erase_of_ne _ (Ne.symm h)
  indexes_eq := rfl
  lastId_eq := rfl

@[simp] theorem find_putRewritten (s : Store) (c i : String) (doc : StoredDocument) (data : Value) :
    (s.putRewritten c i doc data).find c i = some (s.rewritten doc data) :=
  find_put_self _ _ _ _

/-- A write touches no other place. -/
theorem sameElsewhere_writeAt (s : Store) (w : Writing) (c i : String) (data : Value) :
    SameElsewhere c i s (s.writeAt w c i data).2 := by
  unfold writeAt
  split
  · exact .refl c i s
  · split
    · exact .refl c i s
    · exact s.sameElsewhere_putRewritten c i _ _

/-- A removal touches no other place. -/
theorem sameElsewhere_removeAt (s : Store) (c i : String) :
    SameElsewhere c i s (s.removeAt c i).2 := by
  unfold removeAt
  split
  · exact .refl c i s
  · exact s.sameElsewhere_erase c i

/-- The document that a creation makes. -/
def fresh (s : Store) (c : String) (data ttl : Value) : StoredDocument :=
  { ref := documentRef c s.freshId, ts := s.clock + 1, data := data, ttl := ttl }

theorem insert_eq (s : Store) (c : String) (data ttl : Value) :
    s.insert c data ttl = (s.takeId.tick.put c s.freshId (s.fresh c data ttl), s.fresh c data ttl) :=
  rfl

/-- A creation gives the document that it makes. -/
theorem eq_fresh_of_createIn {s : Store} {c : String} {data ttl : Value} {doc : StoredDocument}
    (h : (s.createIn c data ttl).1 = .ok doc) : doc = s.fresh c data ttl := by
  unfold createIn at h
  split at h
  · split at h
    · cases h
    · cases h
      rfl
  · cases h

/-- A creation touches no place but the fresh one. -/
theorem find_insert_of_ne (s : Store) {c c' i' : String} (data ttl : Value)
    (h : (c', i') ≠ (c, s.freshId)) : (s.insert c data ttl).1.find c' i' = s.find c' i' := by
  rw [insert_eq, find_put_of_ne _ _ (Ne.symm h), find_tick, find_takeId]

@[simp] theorem find_insert_self (s : Store) (c : String) (data ttl : Value) :
    (s.insert c data ttl).1.find c s.freshId = some (s.fresh c data ttl) := by
  rw [insert_eq, find_put_self]

/-! ## Distinct names -/

/-- Collections, and the documents of each of them, are kept under distinct names. -/
structure Distinct (s : Store) : Prop where
  collections : s.collections.Distinct
  documents : ∀ e ∈ s.collections, Dict.Distinct e.2

theorem distinct_empty : Distinct {} := ⟨Dict.distinct_nil, by simp⟩

theorem Distinct.documents_of {s : Store} (hs : s.Distinct) (c : String) : (s.documents c).Distinct := by
  unfold Store.documents
  cases h : s.collections.get? c with
  | none => exact Dict.distinct_nil
  | some docs =>
    obtain ⟨k, hmem, -⟩ := Dict.exists_mem_of_get? h
    exact hs.documents _ hmem

theorem Distinct.put {s : Store} (hs : s.Distinct) (c i : String) (doc : StoredDocument) :
    (s.put c i doc).Distinct where
  collections := hs.collections.put _ _
  documents e he := by
    rcases Dict.mem_put he with ⟨hv, -⟩ | hmem
    · rw [hv]; exact (hs.documents_of c).put _ _
    · exact hs.documents e hmem

theorem Distinct.erase {s : Store} (hs : s.Distinct) (c i : String) : (s.erase c i).Distinct where
  collections := hs.collections.put _ _
  documents e he := by
    rcases Dict.mem_put he with ⟨hv, -⟩ | hmem
    · rw [hv]; exact (hs.documents_of c).erase _
    · exact hs.documents e hmem

theorem Distinct.insertAs {s : Store} (hs : s.Distinct) (c i : String) (data ttl : Value) :
    (s.insertAs c i data ttl).1.Distinct :=
  Distinct.put (s := s.tick) ⟨hs.collections, hs.documents⟩ c i _

/-- **A removed document is gone.** -/
theorem Distinct.find_erase_self {s : Store} (hs : s.Distinct) (c i : String) :
    (s.erase c i).find c i = none := by
  rw [find, documents_erase_self]
  exact (hs.documents_of c).get?_erase_self _

/-! ## The actions of the store -/

theorem exists?_documentRef (s : Store) (c i : String) :
    s.exists? (.ref (documentRef c i)) = .ok (s.find c i).isSome := by
  -- the collection of a document is in a collection itself, unlike the two built-in ones
  have hc : some (collectionRef c) ≠ some collectionsRef := by simp [collectionRef, collectionsRef]
  have hx : some (collectionRef c) ≠ some indexesRef := by simp [collectionRef, indexesRef]
  simp only [exists?, documentRef, hc, hx, if_false]
  rfl

theorem fetch_documentRef {s : Store} {c i : String} {doc : StoredDocument}
    (h : s.find c i = some doc) : s.fetch (.ref (documentRef c i)) = .ok (.dict doc.members) := by
  simp only [fetch, fetchRef, documentOf, documentRef, address, collectionRef, bind, Except.bind, h]
  rfl

theorem documentOf_documentRef {s : Store} {c i : String} {doc : StoredDocument}
    (h : s.find c i = some doc) : s.documentOf (.ref (documentRef c i)) = .ok doc := by
  simp only [documentOf, documentRef, address, collectionRef, bind, Except.bind, h]
  rfl

/-- What a write takes for some data: an empty dictionary where there is none. -/
def orEmpty (v : Value) : Value := if v.truthy then v else .dict []

@[simp] theorem orEmpty_dict (entries : Dict Value) : orEmpty (.dict entries) = .dict entries := by
  cases entries <;> rfl

/-- The data of a write is what stands under `data`. -/
theorem dataOf_data (v : Value) (rest : Dict Value) :
    dataOf (.dict ((.text "data", v) :: rest)) = .ok (orEmpty v) := rfl

theorem perform_write {s : Store} {c i : String} {doc : StoredDocument}
    (h : s.find c i = some doc) (f : Value → Value) :
    (write (.ref (documentRef c i)) f).perform s =
      match s.checkUnique c (f doc.data) (some i) with
      | .error fault => (.error fault, s)
      | .ok _ => (.ok (.dict (s.rewritten doc (f doc.data)).members),
          s.putRewritten c i doc (f doc.data)) := by
  have haddress : address (.ref (documentRef c i)) = .ok (c, i) := rfl
  simp only [write, perform_bind, perform_get, perform_liftM, documentOf_documentRef h, haddress]
  cases s.checkUnique c (f doc.data) (some i) <;> rfl

/-- **The write actions are writes to the place that the reference names**, if there is a document
in it. -/
theorem perform_writing {s : Store} {c i : String} {doc : StoredDocument}
    (h : s.find c i = some doc) (w : Writing) (v : Value) :
    (w.action (.ref (documentRef c i)) (.dict [(.text "data", v)])).perform s =
      ((s.writeAt w c i (orEmpty v)).1.map shown, (s.writeAt w c i (orEmpty v)).2) := by
  have key : (w.action (.ref (documentRef c i)) (.dict [(.text "data", v)])).perform s =
      (write (.ref (documentRef c i)) fun old => w.result old (orEmpty v)).perform s := by
    cases w <;> simp only [Writing.action, update, replace, perform_bind, perform_liftM,
      dataOf_data, Writing.result]
  rw [key, perform_write h, writeAt, h]
  simp only
  cases s.checkUnique c (w.result doc.data (orEmpty v)) (some i) <;> rfl

/-- **The removal action removes the document of the place that the reference names.** -/
theorem perform_delete {s : Store} {c i : String} {doc : StoredDocument}
    (h : s.find c i = some doc) :
    (delete (.ref (documentRef c i))).perform s =
      ((s.removeAt c i).1.map shown, (s.removeAt c i).2) := by
  have haddress : address (.ref (documentRef c i)) = .ok (c, i) := rfl
  simp only [delete, perform_bind, perform_get, perform_liftM, documentOf_documentRef h, haddress,
    removeAt, h]
  rfl

/-- The parameter of a creation that gives a time to live, if there is one. -/
def lifetime : Value → List (Key × Value)
  | .null => []
  | ttl => [(.text "ttl", ttl)]

/-- **The creation action is a creation in the collection that the reference names.** -/
theorem perform_create (s : Store) (c : String) (entries : Dict Value) (ttl : Value) :
    (create (.ref (collectionRef c))
      (.dict ((.text "data", .dict entries) :: lifetime ttl))).perform s =
      ((s.createIn c (.dict entries) ttl).1.map fun doc => .dict doc.members,
        (s.createIn c (.dict entries) ttl).2) := by
  have hid : IndexParams.idOf (.ref (collectionRef c)) = .ok c := rfl
  have hdata : dataOf (.dict ((.text "data", .dict entries) :: lifetime ttl)) =
      .ok (.dict entries) := by
    rw [dataOf_data, orEmpty_dict]
  have httl : Value.lookup ((.text "data", .dict entries) :: lifetime ttl) "ttl" = ttl := by
    cases ttl <;> simp [lifetime, Value.lookup, Dict.get?]
  simp only [create, perform_bind, perform_get, perform_liftM, hid, hdata, createIn, Value.entries]
  by_cases hc : s.collections.has c = true
  · simp only [hc, Bool.not_true, Bool.false_eq_true, if_false, if_true, perform_bind,
      perform_liftM]
    cases s.checkUnique c (.dict entries) none with
    | error fault => rfl
    | ok _ => simp only [perform_set, perform_pure, httl, Except.map]
  · simp only [hc, Bool.not_false, Bool.false_eq_true, if_false, if_true, perform_bind,
      perform_throw, Except.map]

end Store

end DocMapper
