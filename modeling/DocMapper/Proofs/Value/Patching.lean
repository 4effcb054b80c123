import DocMapper.Proofs.Value.Plain
import DocMapper.Value.Merge
/-!
# Patches and merges, entry by entry

Where the keys of both dictionaries are distinct, what a patch leaves under a key depends on what the
two have under that key and on nothing else (`Value.get?_patchEntries`); a merge is like it but for
nulls, which it keeps (`Value.get?_mergeEntries`).
-/

namespace DocMapper.Value

attribute [local simp] patchAt patchEntries mergeAt mergeEntries

/-! ## Patches -/

/-- What a patch leaves under a key: a null in the patch removes what is there, anything else is
patched onto it. -/
def patchedAt (current : Option Value) : Option Value → Option Value
  | none => current
  | some .null => none
  | some v => some (patchAt current v)

theorem patchedAt_of_ne_null {current : Option Value} {v : Value} (h : v ≠ .null) :
    patchedAt current (some v) = some (patchAt current v) := by
  cases v with
  | null => exact absurd rfl h
  | _ => rfl

theorem patchEntries_cons {base rest : Dict Value} {k : Key} {v : Value} (h : v ≠ .null) :
    patchEntries base ((k, v) :: rest) =
      patchEntries (base.put k (patchAt (base.get? k) v)) rest := by
  cases v with
  | null => exact absurd rfl h
  | _ => rw [patchEntries]; simp

theorem distinct_patchEntries {base : Dict Value} (hb : base.Distinct) (update : Dict Value) :
    Dict.Distinct (patchEntries base update) := by
  induction update generalizing base with
  | nil => exact hb
  | cons e rest ih =>
    obtain ⟨k, v⟩ := e
    by_cases h : v = .null
    · rw [h, patchEntries]
      exact ih (hb.erase k)
    · rw [patchEntries_cons h]
      exact ih (hb.put k _)

/-- **What a patch leaves under a key** depends on what there is under it. -/
theorem get?_patchEntries {base update : Dict Value} (hb : base.Distinct) (hu : update.Distinct)
    (key : Key) : Dict.get? (patchEntries base update) key =
      patchedAt (base.get? key) (update.get? key) := by
  induction update generalizing base with
  | nil => rfl
  | cons e rest ih =>
    obtain ⟨k, v⟩ := e
    obtain ⟨hhead, hrest⟩ := List.pairwise_cons.1 hu
    by_cases hk : k.same key = true
    · -- no later entry of the patch has the key
      have hlater : Dict.get? rest key = none := by
        refine Dict.get?_eq_none_of_forall fun e he => ?_
        rw [Key.same_comm, ← Key.same_congr hk]
        exact hhead e he
      have hkey : Dict.get? ((k, v) :: rest) key = some v := by simp [Dict.get?, hk]
      rw [hkey]
      by_cases hv : v = .null
      · rw [hv, patchEntries, ih (hb.erase k) hrest, hlater, ← Dict.get?_congr _ hk,
          hb.get?_erase_self]
        rfl
      · rw [patchEntries_cons hv, ih (hb.put k _) hrest, hlater, patchedAt_of_ne_null hv,
          ← Dict.get?_congr _ hk, ← Dict.get?_congr _ hk, Dict.get?_put_self]
        rfl
    · have hkey : Dict.get? ((k, v) :: rest) key = Dict.get? rest key := by simp [Dict.get?, hk]
      have hne : k.same key = false := by simpa using hk
      rw [hkey]
      by_cases hv : v = .null
      · rw [hv, patchEntries, ih (hb.erase k) hrest, Dict.get?_erase_of_not_same _ hne]
      · rw [patchEntries_cons hv, ih (hb.put k _) hrest, Dict.get?_put_of_not_same _ _ hne]

/-- **A patch brings no keys** but those of what it is laid over and its own. -/
theorem mem_keys_patchEntries {base update : Dict Value} {key : Key}
    (h : key ∈ Dict.keys (patchEntries base update)) : key ∈ base.keys ∨ key ∈ update.keys := by
  induction update generalizing base with
  | nil => exact Or.inl h
  | cons e rest ih =>
    obtain ⟨k, v⟩ := e
    have hlater : key ∈ Dict.keys rest → key ∈ Dict.keys ((k, v) :: rest) :=
      List.mem_cons_of_mem k
    by_cases hv : v = .null
    · rw [hv, patchEntries] at h
      rcases ih h with h | h
      · obtain ⟨e, he, hkey⟩ := List.mem_map.1 h
        exact Or.inl (List.mem_map.2 ⟨e, Dict.mem_of_mem_erase he, hkey⟩)
      · exact Or.inr (hlater h)
    · rw [patchEntries_cons hv] at h
      rcases ih h with h | h
      · rcases Dict.mem_keys_put h with rfl | h
        · exact Or.inr List.mem_cons_self
        · exact Or.inl h
      · exact Or.inr (hlater h)

/-- Only dictionaries are laid over what is there. -/
theorem patchAt_of_not_dict {current : Option Value} {v : Value} (h : ∀ entries, v ≠ .dict entries) :
    patchAt current v = v := by
  cases v with
  | dict entries => exact absurd rfl (h entries)
  | _ => rw [patchAt]; simp

/-- Only dictionaries are patched. -/
theorem patchAt_of_not_base {current : Option Value} (h : ∀ base, current ≠ some (.dict base))
    (v : Value) : patchAt current v = v := by
  cases v with
  | dict update =>
    rw [patchAt]
    exact h
  | _ => rw [patchAt]; simp

@[simp] theorem patchAt_dict (base update : Dict Value) :
    patchAt (some (.dict base)) (.dict update) = .dict (patchEntries base update) := by
  rw [patchAt]

/-- A dictionary that is laid over anything gives a dictionary. -/
theorem exists_patchAt_dict (current : Option Value) (update : Dict Value) :
    ∃ members, patchAt current (.dict update) = .dict members := by
  unfold patchAt
  split <;> exact ⟨_, rfl⟩

/-- What is laid over something is null only if it was null before. -/
theorem patchAt_ne_null {current : Option Value} {v : Value} (h : v ≠ .null) :
    patchAt current v ≠ .null := by
  cases v with
  | null => exact absurd rfl h
  | dict update => unfold patchAt; split <;> simp
  | _ => simp [patchAt]

section Preserving

variable {P : Value → Prop} (hparts : ∀ {entries}, P (.dict entries) → ∀ e ∈ entries, P e.2)
  (hpatch : ∀ {base update}, P (.dict base) → (∀ e ∈ patchEntries base update, P e.2) →
    P (.dict (patchEntries base update)))

include hparts hpatch

set_option linter.unusedSectionVars false in
mutual

/-- What passes from dictionaries to their values and back to what is patched holds of a patch onto
anything of which it holds. -/
theorem forall_patchAt : {v : Value} → P v → {current : Option Value} →
    (∀ old, current = some old → P old) → P (patchAt current v)
  | .dict update, h, current, hcurrent => by
    unfold patchAt
    split
    · exact hpatch (hcurrent _ rfl) (forall_patchEntries (hparts h) (hparts (hcurrent _ rfl)))
    · exact h
  | .null, h, _, _ | .bool _, h, _, _ | .int _, h, _, _ | .float _, h, _, _ | .text _, h, _, _
  | .bytes _, h, _, _ | .timestamp _, h, _, _ | .date _, h, _, _ | .ref _, h, _, _
  | .list _, h, _, _ | .tuple _, h, _, _ | .record .., h, _, _ | .accessor _, h, _, _
  | .thunk _, h, _, _ | .query _, h, _, _ | .rows _, h, _, _ | .closure .., h, _, _
  | .foreign _, h, _, _ => by simpa only [patchAt] using h

theorem forall_patchEntries : {update : List (Key × Value)} → (∀ e ∈ update, P e.2) →
    {base : List (Key × Value)} → (∀ e ∈ base, P e.2) → ∀ e ∈ patchEntries base update, P e.2
  | [], _, _, hbase => hbase
  | (k, v) :: rest, h, base, hbase => by
    obtain ⟨hv, hrest⟩ := List.forall_mem_cons.1 h
    by_cases hnull : v = .null
    · rw [hnull, patchEntries]
      exact forall_patchEntries hrest fun e he => hbase e (Dict.mem_of_mem_erase he)
    · rw [patchEntries_cons hnull]
      refine forall_patchEntries hrest fun e he => ?_
      rcases Dict.mem_put he with ⟨hvalue, -⟩ | hmem
      · rw [hvalue]
        refine forall_patchAt hv fun old hold => ?_
        obtain ⟨k', hmem, -⟩ := Dict.exists_mem_of_get? hold
        exact hbase _ hmem
      · exact hbase e hmem

end

end Preserving

/-- Plain data patched with plain data is plain. -/
theorem isPlain_patchAt {v : Value} (h : v.isPlain = true) {current : Option Value}
    (hcurrent : ∀ old, current = some old → old.isPlain = true) :
    (patchAt current v).isPlain = true :=
  forall_patchAt (P := fun v => v.isPlain = true) isPlain_dict.1 (fun _ => isPlain_dict.2) h hcurrent

/-! ## Merges -/

theorem distinct_mergeEntries {base : Dict Value} (hb : base.Distinct) (update : Dict Value) :
    Dict.Distinct (mergeEntries base update) := by
  induction update generalizing base with
  | nil => exact hb
  | cons e rest ih => exact ih (hb.put e.1 _)

/-- Only dictionaries are laid over what is there. -/
theorem mergeAt_of_not_dict {current : Option Value} {v : Value} (h : ∀ entries, v ≠ .dict entries) :
    mergeAt current v = v := by
  cases v with
  | dict entries => exact absurd rfl (h entries)
  | _ => rw [mergeAt]; simp

/-- Only dictionaries are merged into. -/
theorem mergeAt_of_not_base {current : Option Value} (h : ∀ base, current ≠ some (.dict base))
    (v : Value) : mergeAt current v = v := by
  cases v with
  | dict update =>
    rw [mergeAt]
    exact h
  | _ => rw [mergeAt]; simp

@[simp] theorem mergeAt_dict (base update : Dict Value) :
    mergeAt (some (.dict base)) (.dict update) = .dict (mergeEntries base update) := by
  rw [mergeAt]

/-- A dictionary that is laid over anything gives a dictionary. -/
theorem exists_mergeAt_dict (current : Option Value) (update : Dict Value) :
    ∃ members, mergeAt current (.dict update) = .dict members := by
  unfold mergeAt
  split <;> exact ⟨_, rfl⟩

/-- The keys of a merge are those of the two dictionaries. -/
theorem mem_keys_mergeEntries {base update : Dict Value} {k : Key}
    (h : k ∈ Dict.keys (mergeEntries base update)) : k ∈ base.keys ∨ k ∈ update.keys := by
  induction update generalizing base with
  | nil => exact Or.inl h
  | cons e rest ih =>
    rcases ih h with hput | hrest
    · rcases Dict.mem_keys_put hput with rfl | hbase
      · exact Or.inr List.mem_cons_self
      · exact Or.inl hbase
    · exact Or.inr (List.mem_cons_of_mem _ hrest)

/-- What a merge leaves under a key. -/
def mergedAt (current : Option Value) : Option Value → Option Value
  | none => current
  | some v => some (mergeAt current v)

/-- **What a merge leaves under a key** depends on what there is under it. -/
theorem get?_mergeEntries {base update : Dict Value} (hu : update.Distinct) (key : Key) :
    Dict.get? (mergeEntries base update) key = mergedAt (base.get? key) (update.get? key) := by
  induction update generalizing base with
  | nil => rfl
  | cons e rest ih =>
    obtain ⟨k, v⟩ := e
    obtain ⟨hhead, hrest⟩ := List.pairwise_cons.1 hu
    rw [mergeEntries, ih hrest]
    by_cases hk : k.same key = true
    · have hlater : Dict.get? rest key = none := by
        refine Dict.get?_eq_none_of_forall fun e he => ?_
        rw [Key.same_comm, ← Key.same_congr hk]
        exact hhead e he
      have hkey : Dict.get? ((k, v) :: rest) key = some v := by simp [Dict.get?, hk]
      rw [hkey, hlater, ← Dict.get?_congr _ hk, ← Dict.get?_congr _ hk, Dict.get?_put_self]
      rfl
    · have hkey : Dict.get? ((k, v) :: rest) key = Dict.get? rest key := by simp [Dict.get?, hk]
      have hne : k.same key = false := by simpa using hk
      rw [hkey, Dict.get?_put_of_not_same _ _ hne]

section Preserving

variable {P : Value → Prop} (hparts : ∀ {entries}, P (.dict entries) → ∀ e ∈ entries, P e.2)
  (hmerge : ∀ {base update}, P (.dict base) → (∀ e ∈ mergeEntries base update, P e.2) →
    P (.dict (mergeEntries base update)))

include hparts hmerge

set_option linter.unusedSectionVars false in
mutual

/-- What passes from dictionaries to their values and back to what is merged holds of a merge into
anything of which it holds. -/
theorem forall_mergeAt : {v : Value} → P v → {current : Option Value} →
    (∀ old, current = some old → P old) → P (mergeAt current v)
  | .dict update, h, current, hcurrent => by
    unfold mergeAt
    split
    · exact hmerge (hcurrent _ rfl) (forall_mergeEntries (hparts h) (hparts (hcurrent _ rfl)))
    · exact h
  | .null, h, _, _ | .bool _, h, _, _ | .int _, h, _, _ | .float _, h, _, _ | .text _, h, _, _
  | .bytes _, h, _, _ | .timestamp _, h, _, _ | .date _, h, _, _ | .ref _, h, _, _
  | .list _, h, _, _ | .tuple _, h, _, _ | .record .., h, _, _ | .accessor _, h, _, _
  | .thunk _, h, _, _ | .query _, h, _, _ | .rows _, h, _, _ | .closure .., h, _, _
  | .foreign _, h, _, _ => by simpa only [mergeAt] using h

theorem forall_mergeEntries : {update : List (Key × Value)} → (∀ e ∈ update, P e.2) →
    {base : List (Key × Value)} → (∀ e ∈ base, P e.2) → ∀ e ∈ mergeEntries base update, P e.2
  | [], _, _, hbase => hbase
  | (k, v) :: rest, h, base, hbase => by
    obtain ⟨hv, hrest⟩ := List.forall_mem_cons.1 h
    rw [mergeEntries]
    refine forall_mergeEntries hrest fun e he => ?_
    rcases Dict.mem_put he with ⟨hvalue, -⟩ | hmem
    · rw [hvalue]
      refine forall_mergeAt hv fun old hold => ?_
      obtain ⟨k', hmem, -⟩ := Dict.exists_mem_of_get? hold
      exact hbase _ hmem
    · exact hbase e hmem

end

end Preserving

/-- Plain entries merged into plain entries are plain. -/
theorem isPlain_mergeEntries {update base : List (Key × Value)}
    (h : ∀ e ∈ update, e.2.isPlain = true) (hbase : ∀ e ∈ base, e.2.isPlain = true) :
    ∀ e ∈ mergeEntries base update, e.2.isPlain = true :=
  forall_mergeEntries (P := fun v => v.isPlain = true) isPlain_dict.1 (fun _ => isPlain_dict.2) h
    hbase

end DocMapper.Value
