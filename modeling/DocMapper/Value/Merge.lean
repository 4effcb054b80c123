import DocMapper.Value.Coerce
/-!
# Merges and patches

`Value.mergeEntries base update` lays `update` over `base`: where both hold a dictionary the two are
merged, and everything else in `update`, lists included, replaces what `base` has. Keys keep the
order of `base`, new ones follow in the order of `update`.

`Value.patch base update` is what an update leaves of stored data: dictionaries are patched entry by
entry, a null removes the entry, and anything else replaces what was there. A dictionary that has
nothing to be laid over is stored whole, with its nulls.
-/

namespace DocMapper.Value

/-! ## Merges -/

mutual

/-- What a merge leaves at a key where `base` has `current` and `update` has the value. -/
def mergeAt (current : Option Value) : Value → Value
  | .dict update =>
    match current with
    | some (.dict base) => .dict (mergeEntries base update)
    | _ => .dict update
  | v => v

/-- Lays the entries of `update` over those of `base`. -/
def mergeEntries (base : List (Key × Value)) : List (Key × Value) → List (Key × Value)
  | [] => base
  | (k, v) :: rest => mergeEntries (Dict.put base k (mergeAt (Dict.get? base k) v)) rest

end

/-- Merges two values; the first is read as a dictionary, the second has to be one. -/
def merge (base update : Value) : Except Fault (Dict Value) := do
  let base ← base.toDict
  let update ← update.entries
  return mergeEntries base update

/-! ## Patches -/

mutual

/-- What a patch leaves where the stored data has `current` and the patch has the value. -/
def patchAt (current : Option Value) : Value → Value
  | .dict update =>
    match current with
    | some (.dict base) => .dict (patchEntries base update)
    | _ => .dict update
  | v => v

/-- Patches the entries of a stored dictionary, one after another. -/
def patchEntries (base : List (Key × Value)) : List (Key × Value) → List (Key × Value)
  | [] => base
  | (k, v) :: rest =>
    match v with
    | .null => patchEntries (Dict.erase base k) rest
    | v => patchEntries (Dict.put base k (patchAt (Dict.get? base k) v)) rest

end

/-- Patches stored data. -/
def patch (base update : Value) : Value := patchAt (some base) update

end DocMapper.Value
