import DocMapper.Data.RefReading
/-!
# Stored documents

A stored document is what the database keeps: the reference of the document, the point in time of
its last write, its data and, if it expires, its time to live. `StoredDocument.read` takes one from
a value that came back from a query; `StoredDocument.toValue` is the value that stands for it.
-/

namespace DocMapper

/-- A document as the database keeps it, with data that is not checked against any schema. -/
structure StoredDocument where
  ref : Ref
  ts : Int
  data : Value := .null
  ttl : Value := .null

namespace StoredDocument

/-- The name under which flaws of a stored document are reported. -/
def title : String := "RawDocument"

/-- Reads a stored document. Only the reference and the time have to be there. -/
def read (v : Value) : Checked StoredDocument :=
  match v.members? title with
  | some members =>
    (Checked.both (Checked.member members "ref" Ref.read)
      (Checked.member members "ts" Value.asInt)).map fun (ref, ts) => {
        ref := ref, ts := ts, data := Value.lookup members "data",
        ttl := Value.lookup members "ttl" }
  | none => Checked.reject (.notInstance title) v

/-- The instance that stands for a stored document. -/
def toValue (doc : StoredDocument) : Value :=
  .record title [("ref", .ref doc.ref), ("ts", .int doc.ts), ("data", doc.data), ("ttl", doc.ttl)]

end StoredDocument

end DocMapper
