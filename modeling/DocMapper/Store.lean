import DocMapper.Action
import DocMapper.Document.Stored
/-!
# The document store

A store keeps documents in collections, under their ids and in the order of their creation, and the
parameters of its indexes under their full names. Ids and the times of writes come from two counters
that only grow.

* `Store.find` looks a document up; `Store.put` and `Store.erase` are the two ways in which the
  documents of a store change.
* `Store.insert` takes a new document in under a fresh id and a fresh time.

Main statements: `Store.find_put_self`, `Store.find_put_of_ne` and `Store.find_erase_of_ne` say what
a change shows and that it leaves all other documents alone.
-/

namespace DocMapper

/-- Collections of documents, indexes, and the counters for ids and times. -/
structure Store where
  collections : Dict (Dict StoredDocument) := []
  indexes : Dict (Dict Value) := []
  /-- the last id that was given out -/
  lastId : Nat := 100
  /-- the time of the last write -/
  clock : Int := 1

instance : Inhabited Store := ⟨{}⟩

namespace StoredDocument

/-- The members of a document as queries see it; without a time to live there is no such member. -/
def members (doc : StoredDocument) : Dict Value :=
  [(.text "ref", .ref doc.ref), (.text "ts", .int doc.ts), (.text "data", doc.data)]
    ++ (match doc.ttl with
      | .null => []
      | ttl => [(.text "ttl", ttl)])

end StoredDocument

namespace Store

/-- The collection of all collections. -/
def collectionsRef : Ref := { id := "collections" }

/-- The collection of all indexes. -/
def indexesRef : Ref := { id := "indexes" }

/-- The reference of a collection. -/
def collectionRef (name : String) : Ref := { id := name, collection := some collectionsRef }

/-- The reference of an index. -/
def indexRef (name : String) : Ref := { id := name, collection := some indexesRef }

/-- The reference of a database. -/
def databaseRef (name : String) : Ref := { id := name, collection := some { id := "databases" } }

/-- The documents of a collection; an unknown collection has none. -/
def documents (s : Store) (collection : String) : Dict StoredDocument :=
  (s.collections.get? collection).getD []

/-- The document of an id in a collection. -/
def find (s : Store) (collection id : String) : Option StoredDocument :=
  (s.documents collection).get? id

/-- Writes a document under an id of a collection. -/
def put (s : Store) (collection id : String) (doc : StoredDocument) : Store :=
  { s with collections := s.collections.put collection ((s.documents collection).put id doc) }

/-- Removes the document of an id from a collection. -/
def erase (s : Store) (collection id : String) : Store :=
  { s with collections := s.collections.put collection ((s.documents collection).erase id) }

@[simp] theorem documents_put_self (s : Store) (collection id : String) (doc : StoredDocument) :
    (s.put collection id doc).documents collection = (s.documents collection).put id doc := by
  simp [documents, put]

theorem documents_put_of_ne (s : Store) {collection other : String} (id : String)
    (doc : StoredDocument) (h : collection ≠ other) :
    (s.put collection id doc).documents other = s.documents other := by
  simp [documents, put, Dict.get?_put_of_not_same, h]

@[simp] theorem documents_erase_self (s : Store) (collection id : String) :
    (s.erase collection id).documents collection = (s.documents collection).erase id := by
  simp [documents, erase]

theorem documents_erase_of_ne (s : Store) {collection other : String} (id : String)
    (h : collection ≠ other) :
    (s.erase collection id).documents other = s.documents other := by
  simp [documents, erase, Dict.get?_put_of_not_same, h]

@[simp] theorem find_put_self (s : Store) (collection id : String) (doc : StoredDocument) :
    (s.put collection id doc).find collection id = some doc := by
  simp [find]

theorem find_put_of_ne (s : Store) {collection id other otherId : String} (doc : StoredDocument)
    (h : (collection, id) ≠ (other, otherId)) :
    (s.put collection id doc).find other otherId = s.find other otherId := by
  by_cases hc : collection = other
  · subst hc
    have hi : id ≠ otherId := fun hi => h (by rw [hi])
    simp [find, Dict.get?_put_of_not_same, hi]
  · simp [find, documents_put_of_ne s id doc hc]

theorem find_erase_of_ne (s : Store) {collection id other otherId : String}
    (h : (collection, id) ≠ (other, otherId)) :
    (s.erase collection id).find other otherId = s.find other otherId := by
  by_cases hc : collection = other
  · subst hc
    have hi : id ≠ otherId := fun hi => h (by rw [hi])
    simp [find, Dict.get?_erase_of_not_same, hi]
  · simp [find, documents_erase_of_ne s id hc]

/-- The store after the clock has moved on. -/
def tick (s : Store) : Store := { s with clock := s.clock + 1 }

/-- The id that comes next. -/
def freshId (s : Store) : String := toString (s.lastId + 1)

/-- The store after the next id has been given out. -/
def takeId (s : Store) : Store := { s with lastId := s.lastId + 1 }

/-- Takes a document into a collection under an id, at the next time. -/
def insertAs (s : Store) (collection id : String) (data ttl : Value) : Store × StoredDocument :=
  let s := s.tick
  let doc : StoredDocument :=
    { ref := { id := id, collection := some (collectionRef collection) }, ts := s.clock,
      data := data, ttl := ttl }
  (s.put collection id doc, doc)

/-- Takes a document into a collection under the next id. -/
def insert (s : Store) (collection : String) (data ttl : Value) : Store × StoredDocument :=
  s.takeId.insertAs collection s.freshId data ttl

end Store

end DocMapper
