import DocMapper.Value.Coerce
import DocMapper.Value.Equality
/-!
# The order of values

Numbers are ordered by size, texts and bytes alphabetically, times and dates by age, and sequences
by their first difference. Values of different kinds have no order, nor have dictionaries; a word
that is no number can be compared with numbers but is neither before nor after any of them.

`Value.compare?` is this order, and `Value.comesBefore` the one in which an index sorts: null comes
after everything, and a reference is placed by its id.
-/

namespace DocMapper

/-- How two values of one kind stand to each other. -/
inductive Comparison
  | less
  | equal
  | greater
  | unordered
  deriving DecidableEq

namespace Comparison

/-- The comparison that an ordering is. -/
def ofOrdering : Ordering → Comparison
  | .lt => less
  | .eq => equal
  | .gt => greater

end Comparison

namespace Value

mutual

/-- The comparison of two values, if they can be compared. -/
def compare? : Value → Value → Option Comparison
  | .text a, .text b => some (.ofOrdering (compare a b))
  | .bytes a, .bytes b => some (.ofOrdering (List.compareLex compare a b))
  | .timestamp a, .timestamp b => (a.compare? b).map .ofOrdering
  | .date a, .date b => some (.ofOrdering (compare a.ordinal b.ordinal))
  | .list a, .list b => compareList? a b
  | .tuple a, .tuple b => compareList? a b
  | a, b =>
    match a.magnitude?, b.magnitude? with
    | some x, some y => some ((x.compare? y).elim .unordered .ofOrdering)
    | _, _ => none

/-- The comparison of two sequences: that of their first difference. -/
def compareList? : List Value → List Value → Option Comparison
  | [], [] => some .equal
  | [], _ :: _ => some .less
  | _ :: _, [] => some .greater
  | a :: as, b :: bs => if a.same b then compareList? as bs else a.compare? b

end

/-- Whether one value is less than another, if they can be compared. -/
def isLess (a b : Value) : Except Fault Bool :=
  match a.compare? b with
  | some c => .ok (c == .less)
  | none => .error wrongKind

/-- What a value is sorted by: a reference by its id. -/
def sortKey : Value → Value
  | .ref r => .text r.id
  | v => v

/-- Whether an index puts one value before another, if it can tell: null comes last. -/
def comesBefore (a b : Value) : Except Fault Bool :=
  match a, b with
  | .null, _ => .ok false
  | _, .null => .ok true
  | a, b =>
    if a.sortKey.same b.sortKey then .ok false else a.sortKey.isLess b.sortKey

end Value

end DocMapper
