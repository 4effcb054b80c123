import DocMapper.Value
/-!
# Equality of values

Two values are the same when they hold the same data: numbers by their exact value whatever their
kind, timestamps by the point in time, dictionaries whatever the order of their entries, and
queries operation by operation. A word that is no number is the same as itself only. Lists and tuples keep their order and are never the same as each
other, and functions, which have no data to compare, are the same as nothing.

`Value.same` is the relation; `Value.sameEntries` says that every entry of one dictionary has its
like in another.
-/

namespace DocMapper

/-- The number a value is, if it is one. -/
def Value.magnitude? : Value → Option Magnitude
  | .bool b => some (.ofInt (if b then 1 else 0))
  | .int n => some (.ofInt n)
  | .float x => some (.ofBinary64 x)
  | _ => none

/-- Equality of numbers by their value; values that are no numbers are never the same here. -/
def Value.sameMagnitude (a b : Value) : Bool :=
  match a.magnitude?, b.magnitude? with
  | some x, some y => x.same y
  | _, _ => false

/-- Equality of numbers: the same word, or the same value. -/
def Value.sameNumber (a b : Value) : Bool :=
  match a, b with
  | .float x, .float y => decide (x = y) || Value.sameMagnitude (.float x) (.float y)
  | a, b => Value.sameMagnitude a b

/-- The field of a name in an instance. -/
def Value.field? (fields : List (String × Value)) (name : String) : Option Value :=
  fields.lookup name

mutual

/-- Whether two values hold the same data. -/
def Value.same : Value → Value → Bool
  | .null, .null => true
  | .text a, .text b => a == b
  | .bytes a, .bytes b => a == b
  | .timestamp a, .timestamp b => a.same b
  | .date a, .date b => decide (a = b)
  | .ref a, .ref b => decide (a = b)
  | .list a, .list b => Value.sameList a b
  | .tuple a, .tuple b => Value.sameList a b
  | .dict a, .dict b => a.length == b.length && Value.sameEntries a b
  | .record s a, .record t b => s == t && a.length == b.length && Value.sameFields a b
  | .query a, .query b => a.same b
  | a, b => Value.sameNumber a b
termination_by structural a => a

/-- Whether two lists agree element by element. -/
def Value.sameList : List Value → List Value → Bool
  | [], [] => true
  | a :: as, b :: bs => a.same b && Value.sameList as bs
  | _, _ => false
termination_by structural a => a

/-- Whether two optional values agree. -/
def Value.sameOption : Option Value → Option Value → Bool
  | none, none => true
  | some a, some b => a.same b
  | _, _ => false
termination_by structural a => a

/-- Whether every entry of one dictionary has its like in another. -/
def Value.sameEntries : List (Key × Value) → List (Key × Value) → Bool
  | [], _ => true
  | (k, v) :: rest, other =>
    (match Dict.get? other k with
      | some w => v.same w
      | none => false) && Value.sameEntries rest other
termination_by structural a => a

/-- Whether every field of one instance has its like in another. -/
def Value.sameFields : List (String × Value) → List (String × Value) → Bool
  | [], _ => true
  | (name, v) :: rest, other =>
    (match Value.field? other name with
      | some w => v.same w
      | none => false) && Value.sameFields rest other
termination_by structural a => a

/-- Whether two queries are the same operation on the same arguments. -/
def Query.same : Query → Query → Bool
  | .letIn a x, .letIn b y => a.length == b.length && Value.sameEntries a b && x.same y
  | .var a, .var b => a.same b
  | .ifElse a x u, .ifElse b y v => a.same b && x.same y && u.same v
  | .sequence a, .sequence b => Value.sameList a b
  | .abort a, .abort b => a.same b
  | .lambda a x, .lambda b y => a.same b && x.same y
  | .map a x, .map b y => a.same b && x.same y
  | .select a x u, .select b y v => Value.sameList a b && x.same y && Value.sameOption u v
  | .database a, .database b => a.same b
  | .collection a x, .collection b y => a.same b && Value.sameOption x y
  | .index a x, .index b y => a.same b && Value.sameOption x y
  | .ref a x, .ref b y => a.same b && x.same y
  | .documents a, .documents b => a.same b
  | .present a, .present b => a.same b
  | .get a, .get b => a.same b
  | .matching a x, .matching b y => a.same b && Value.sameOption x y
  | .paginate a x u i, .paginate b y v j =>
    a.same b && Value.sameOption x y && Value.sameOption u v && Value.sameOption i j
  | .count a, .count b => a.same b
  | .create a x, .create b y => a.same b && x.length == y.length && Value.sameEntries x y
  | .update a x, .update b y => a.same b && x.length == y.length && Value.sameEntries x y
  | .replace a x, .replace b y => a.same b && x.length == y.length && Value.sameEntries x y
  | .delete a, .delete b => a.same b
  | .createCollection a, .createCollection b => a.length == b.length && Value.sameEntries a b
  | .createIndex a, .createIndex b => a.length == b.length && Value.sameEntries a b
  | _, _ => false
termination_by structural a => a

end

end DocMapper
