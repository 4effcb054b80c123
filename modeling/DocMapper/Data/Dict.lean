import DocMapper.Data.Key
/-!
# Insertion-ordered dictionaries

A dictionary is the list of its entries in the order in which their keys first came. Writing to a
key that is present keeps the entry's place and spelling (`Dict.put`); a new key goes to the end.

Main statements: `Dict.get?_put_self` and `Dict.get?_put_of_not_same` say what a write shows,
`Dict.get?_erase_of_not_same` that erasing an entry leaves the others.
-/

namespace DocMapper

/-- The entries of a dictionary, in insertion order. -/
abbrev Dict (α : Type) := List (Key × α)

namespace Dict

variable {α β : Type}

/-- The value at a key. -/
def get? : Dict α → Key → Option α
  | [], _ => none
  | (k, v) :: rest, key => if k.same key then some v else get? rest key

/-- Whether a key is present. -/
def has (d : Dict α) (key : Key) : Bool := (d.get? key).isSome

/-- Writes a value at a key: in place when the key is present, at the end otherwise. -/
def put : Dict α → Key → α → Dict α
  | [], key, value => [(key, value)]
  | (k, v) :: rest, key, value =>
    if k.same key then (k, value) :: rest else (k, v) :: put rest key value

/-- Removes the entry of a key. -/
def erase : Dict α → Key → Dict α
  | [], _ => []
  | (k, v) :: rest, key => if k.same key then rest else (k, v) :: erase rest key

/-- Writes entries one after another. -/
def putAll (d : Dict α) (entries : List (Key × α)) : Dict α :=
  entries.foldl (fun d entry => d.put entry.1 entry.2) d

/-- The dictionary of a list of entries: a repeated key has its first place and last value. -/
def ofEntries (entries : List (Key × α)) : Dict α := putAll [] entries

/-- The dictionary of named fields. -/
def ofFields (fields : List (String × α)) : Dict α :=
  ofEntries (fields.map fun field => (Key.text field.1, field.2))

/-- The keys, in insertion order. -/
def keys (d : Dict α) : List Key := d.map Prod.fst

/-- The values, in insertion order. -/
def values (d : Dict α) : List α := d.map Prod.snd

@[simp] theorem get?_nil (key : Key) : get? ([] : Dict α) key = none := rfl

@[simp] theorem get?_put_self (d : Dict α) (key : Key) (value : α) :
    (d.put key value).get? key = some value := by
  induction d with
  | nil => simp [put, get?]
  | cons entry rest ih =>
    obtain ⟨k, v⟩ := entry
    by_cases h : k.same key = true
    · simp [put, get?, h]
    · simp [put, get?, h, ih]

theorem get?_put_of_not_same (d : Dict α) {key other : Key} (value : α)
    (h : key.same other = false) : (d.put key value).get? other = d.get? other := by
  induction d with
  | nil => simp [put, get?, h]
  | cons entry rest ih =>
    obtain ⟨k, v⟩ := entry
    by_cases hk : k.same key = true
    · have : k.same other = false := by rw [Key.same_congr hk]; exact h
      simp [put, get?, hk, this]
    · by_cases ho : k.same other = true
      · simp [put, get?, hk, ho]
      · simp [put, get?, hk, ho, ih]

theorem get?_erase_of_not_same (d : Dict α) {key other : Key} (h : key.same other = false) :
    (d.erase key).get? other = d.get? other := by
  induction d with
  | nil => rfl
  | cons entry rest ih =>
    obtain ⟨k, v⟩ := entry
    by_cases hk : k.same key = true
    · have : k.same other = false := by rw [Key.same_congr hk]; exact h
      simp [erase, get?, hk, this]
    · by_cases ho : k.same other = true
      · simp [erase, get?, hk, ho]
      · simp [erase, get?, hk, ho, ih]

/-- A write adds its key at the end unless the key is present. -/
theorem keys_put (d : Dict α) (key : Key) (value : α) :
    (d.put key value).keys = if d.has key then d.keys else d.keys ++ [key] := by
  induction d with
  | nil => simp [put, keys, has]
  | cons entry rest ih =>
    obtain ⟨k, v⟩ := entry
    by_cases hk : k.same key = true
    · simp [put, keys, has, get?, hk]
    · simp only [put, hk, keys, has, get?, List.map_cons] at ih ⊢
      simp only [Bool.false_eq_true, ite_false, List.map_cons, ih]
      split <;> simp_all

end Dict

end DocMapper
