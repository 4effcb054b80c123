/-!
# References

A reference names a document, a collection, an index or a database. A document's reference carries
the reference of its collection, and a collection may carry the database it lives in.
-/

namespace DocMapper

/-- The identity of a stored thing. -/
structure Ref where
  id : String
  collection : Option Ref := none
  database : Option Ref := none

namespace Ref

instance : Inhabited Ref := ⟨⟨"", none, none⟩⟩

mutual

/-- Decides equality of references. -/
def decEq : (a b : Ref) → Decidable (a = b)
  | ⟨i, c, d⟩, ⟨i', c', d'⟩ =>
    if hi : i = i' then
      match decEqOption c c', decEqOption d d' with
      | .isTrue hc, .isTrue hd => .isTrue (by rw [hi, hc, hd])
      | .isFalse hc, _ => .isFalse (by intro h; cases h; exact hc rfl)
      | _, .isFalse hd => .isFalse (by intro h; cases h; exact hd rfl)
    else .isFalse (by intro h; cases h; exact hi rfl)

/-- Decides equality of optional references. -/
def decEqOption : (a b : Option Ref) → Decidable (a = b)
  | none, none => .isTrue rfl
  | none, some _ => .isFalse (by intro h; cases h)
  | some _, none => .isFalse (by intro h; cases h)
  | some a, some b =>
    match decEq a b with
    | .isTrue h => .isTrue (by rw [h])
    | .isFalse h => .isFalse (by intro h'; cases h'; exact h rfl)

end

instance : DecidableEq Ref := decEq

/-- The path of a reference: the collection's path, a slash and the id. -/
def path : Ref → String
  | ⟨id, none, _⟩ => id
  | ⟨id, some collection, _⟩ => collection.path ++ "/" ++ id

end Ref

end DocMapper
