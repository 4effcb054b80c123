import DocMapper.Store
import DocMapper.Value.Order
import DocMapper.Value.Sorting
/-!
# Snapshots of a store

`Store.snapshot` is a value that shows everything in a store: the collections by name with their
documents in the order in which they were created, and the names of the indexes. Names that have no
order among each other cannot be shown.
-/

namespace DocMapper.Store

/-- The value that shows a document under its id. -/
def documentRow (id : Key) (doc : StoredDocument) : Value :=
  .list [Value.ofKey id, .int doc.ts, doc.ttl, doc.data]

/-- The value that shows a collection under its name. -/
def collectionRow (name : Value) (docs : Dict StoredDocument) : Value :=
  .list [name, .list (docs.map fun (id, doc) => documentRow id doc)]

/-- The entries of a dictionary in the order of their keys, which are given as values. -/
def byName {α : Type} (d : Dict α) : Except Fault (List (Value × α)) :=
  Sorting.sort (fun a b => a.1.isLess b.1) false (d.map fun (key, v) => (Value.ofKey key, v))

/-- Everything in a store, as a value. -/
def snapshot (s : Store) : Except Fault Value := do
  let collections ← byName s.collections
  let indexes ← byName s.indexes
  return .object [
    ("collections", .list (collections.map fun (name, docs) => collectionRow name docs)),
    ("indexes", .list (indexes.map Prod.fst))]

end DocMapper.Store
