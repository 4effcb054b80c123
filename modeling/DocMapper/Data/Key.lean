import DocMapper.Calendar.Timestamp
import DocMapper.Data.Ref
import DocMapper.Number.Binary64
/-!
# Dictionary keys

A key is plain data that never changes: a text, a number, a truth value, null, bytes, a time, a
date, a reference, or a tuple of keys. Keys that are equal as data are one key, whatever their kind:
`1`, `1.0` and `true` address the same entry, and so do two spellings of one instant.

`Key.identity` spells out what a key is the same as, so that `Key.same` is an equivalence by
construction.
-/

namespace DocMapper

/-- A key of a dictionary. -/
inductive Key
  | text (value : String)
  | int (value : Int)
  | bool (value : Bool)
  | null
  | float (value : Binary64)
  | bytes (value : List UInt8)
  | timestamp (value : Timestamp)
  | date (value : Date)
  | ref (value : Ref)
  | tuple (items : List Key)

namespace Key

instance : Coe String Key := ⟨.text⟩

instance : Inhabited Key := ⟨.null⟩

/-- Whether a key is a text. -/
def isText : Key → Bool
  | .text _ => true
  | _ => false

/-- One part of what a key is the same as. -/
inductive Part
  | text (value : String)
  /-- an integral number -/
  | whole (value : Int)
  | null
  /-- a number that is not integral -/
  | float (value : Binary64)
  | bytes (value : List UInt8)
  /-- a point in time -/
  | instant (microseconds : Int)
  /-- a time without an offset -/
  | reading (microseconds : Int)
  | date (value : Date)
  | ref (value : Ref)
  /-- the beginning of a tuple -/
  | opening
  /-- the end of a tuple -/
  | closing
  deriving DecidableEq

/-- What a number is the same as. -/
def partOfFloat (x : Binary64) : Part :=
  match x.toInt? with
  | some n => .whole n
  | none => .float x

/-- What a time is the same as. -/
def partOfTimestamp (t : Timestamp) : Part :=
  match t.instant? with
  | some i => .instant i
  | none => .reading t.reading

mutual

/-- What a key is the same as. -/
def identity : Key → List Part
  | .text s => [.text s]
  | .int n => [.whole n]
  | .bool b => [.whole (if b then 1 else 0)]
  | .null => [.null]
  | .float x => [partOfFloat x]
  | .bytes b => [.bytes b]
  | .timestamp t => [partOfTimestamp t]
  | .date d => [.date d]
  | .ref r => [.ref r]
  | .tuple items => .opening :: (identities items ++ [.closing])

/-- What the elements of a tuple are the same as, in order. -/
def identities : List Key → List Part
  | [] => []
  | k :: rest => k.identity ++ identities rest

end

/-- Whether two keys address the same entry. -/
def same (a b : Key) : Bool := decide (a.identity = b.identity)

@[simp] theorem same_self (k : Key) : same k k = true := by simp [same]

theorem same_comm (a b : Key) : same a b = same b a := by
  simp only [same, eq_comm]

theorem same_trans {a b c : Key} (hab : same a b = true) (hbc : same b c = true) :
    same a c = true := by
  simp_all [same]

/-- Keys that are the same address the same entries. -/
theorem same_congr {a b : Key} (h : same a b = true) (c : Key) : same a c = same b c := by
  simp only [same, decide_eq_true_eq] at h
  simp [same, h]

@[simp] theorem same_text (s t : String) : same (.text s) (.text t) = decide (s = t) := by
  simp [same, identity]

end Key

end DocMapper
