import DocMapper.Value.Coerce
/-!
# Members and parts of values

`Value.subscript` takes the member of a dictionary at a key, or the element of a sequence at a
position; positions below zero count from the end. `Value.fieldAt` follows a path of keys through
dictionaries and finds null where the path leads nowhere. `Value.slice` cuts a part out of a
sequence.
-/

namespace DocMapper

/-- The position in a sequence of a length that a number means; below zero it counts from the
end. -/
def position? (length : Nat) (n : Int) : Option Nat :=
  let n := if n < 0 then n + length else n
  if 0 ≤ n ∧ n < length then some n.toNat else none

/-- The place between elements that a number means as an end of a slice. -/
def sliceEnd (length : Nat) (n : Int) : Nat :=
  let n := if n < 0 then n + length else n
  min n.toNat length

/-- The elements from one place to another. -/
def slice {α : Type} (xs : List α) (start stop : Int) : List α :=
  let first := sliceEnd xs.length start
  (xs.drop first).take (sliceEnd xs.length stop - first)

theorem slice_natCast {α : Type} (xs : List α) (start stop : Nat) :
    slice xs start stop = (xs.drop start).take (stop - start) := by
  have hs : ¬ (stop : Int) < 0 := by omega
  have hf : ¬ (start : Int) < 0 := by omega
  simp only [slice, sliceEnd, hs, hf, if_false, Int.toNat_natCast]
  rcases Nat.le_total xs.length start with hstart | hstart
  · simp [Nat.min_eq_right hstart, List.drop_of_length_le hstart]
  · rcases Nat.le_total xs.length stop with hstop | hstop
    · rw [Nat.min_eq_left hstart, Nat.min_eq_right hstop, List.take_of_length_le (by simp),
        List.take_of_length_le (by rw [List.length_drop]; omega)]
    · rw [Nat.min_eq_left hstart, Nat.min_eq_left hstop]

namespace Value

/-- The integer that a value is as a position. -/
def asPosition : Value → Except Fault Int
  | .int n => .ok n
  | .bool b => .ok (if b then 1 else 0)
  | _ => .error wrongKind

/-- The element of a sequence at a position. -/
def element (items : List Value) (key : Value) : Except Fault Value := do
  let n ← key.asPosition
  match (position? items.length n).bind fun i => items[i]? with
  | some v => return v
  | none => throw outOfRange

/-- What a value has at a key or position. -/
def subscript (v key : Value) : Except Fault Value :=
  match v with
  | .dict entries => do
    match ← find entries key with
    | some v => return v
    | none => throw (.missingKey key.inspect)
  | .list items => element items key
  | .tuple items => element items key
  | .text s => element (s.toList.map fun c => .text (String.singleton c)) key
  | .bytes b => element (b.map fun byte => .int byte.toNat) key
  | _ => .error wrongKind

/-- What a path of keys leads to through dictionaries: null where it leads nowhere. -/
def fieldAt : Value → List Value → Except Fault Value
  | v, [] => .ok v
  | .dict entries, key :: rest => do
    match ← find entries key with
    | some v => fieldAt v rest
    | none => return .null
  | _, _ :: _ => .ok .null

/-- The number of elements of a value. -/
def length (v : Value) : Except Fault Nat :=
  match v with
  | .list items => .ok items.length
  | .tuple items => .ok items.length
  | .text s => .ok s.length
  | .bytes b => .ok b.length
  | .dict entries => .ok entries.length
  | _ => .error wrongKind

end Value

end DocMapper
