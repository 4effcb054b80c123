import DocMapper.Proofs.Data.Assigning
import DocMapper.Proofs.Value.WellKeyed
/-!
# Nulls in patches

A null in a patch (`Value.Removes`) takes away what is under its key, but only where the patch is laid
over a dictionary: one that is stored whole keeps its nulls. Two things follow.

* A patch without nulls is a merge (`Value.patchAt_eq_mergeAt`).
* A patch that was applied can be applied once more to no effect exactly if each of its nulls stands
  where there was a dictionary to begin with (`Value.Lands`, `Value.patchAt_patchAt_iff`). The other
  nulls are stored by the first application and taken away by the second
  (`Value.under?_patchAt_of_not_hasDict`, `Value.under?_patchAt_of_hasDict`).

Patches and merges follow dictionaries into dictionaries and look into nothing else, so what is proved
of them goes by induction along dictionaries (`Value.dictInduction`), and what they do is told by what a
path of keys leads to (`Value.under?`). Settling data leaves its paths as they are
(`Value.under?_settled`).
-/

namespace DocMapper.Value

/-! ## Induction along dictionaries -/

section Induction

variable {P : Value → Prop} (dict : ∀ entries, (∀ e ∈ entries, P e.2) → P (.dict entries))
  (other : ∀ v, (∀ entries, v ≠ .dict entries) → P v)

include dict other

set_option linter.unusedSectionVars false in
mutual

/-- What passes from the values of a dictionary to the dictionary, and holds of all that are none,
holds of every value. -/
theorem dictInduction : (v : Value) → P v
  | .dict entries => dict entries (dictInduction_entries entries)
  | .null | .bool _ | .int _ | .float _ | .text _ | .bytes _ | .timestamp _ | .date _ | .ref _
  | .list _ | .tuple _ | .record .. | .accessor _ | .thunk _ | .query _ | .rows _ | .closure ..
  | .foreign _ => other _ (by simp)

theorem dictInduction_entries : (entries : List (Key × Value)) → ∀ e ∈ entries, P e.2
  | [] => by simp
  | (_, v) :: rest => List.forall_mem_cons.2 ⟨dictInduction v, dictInduction_entries rest⟩

end

end Induction

/-! ## Paths -/

/-- What a path of keys leads to through dictionaries, if each of the keys is there. -/
def under? : Value → List Key → Option Value
  | v, [] => some v
  | .dict entries, key :: rest => (Dict.get? entries key).bind fun v => v.under? rest
  | _, _ :: _ => none

@[simp] theorem under?_nil (v : Value) : v.under? [] = some v := by rw [under?]

@[simp] theorem under?_dict (entries : Dict Value) (key : Key) (rest : List Key) :
    (dict entries).under? (key :: rest) = (entries.get? key).bind fun v => v.under? rest := by
  rw [under?]

/-- Only dictionaries have something under a key. -/
theorem exists_dict_of_under? {v w : Value} {key : Key} {rest : List Key}
    (h : v.under? (key :: rest) = some w) : ∃ (entries : Dict Value) (u : Value),
      v = .dict entries ∧ entries.get? key = some u ∧ u.under? rest = some w := by
  cases v with
  | dict entries =>
    rw [under?_dict] at h
    obtain ⟨u, hu, hw⟩ := Option.bind_eq_some_iff.1 h
    exact ⟨entries, u, rfl, hu, hw⟩
  | _ => simp [under?] at h

/-- Paths lead one after another. -/
theorem under?_append (v : Value) (path rest : List Key) :
    v.under? (path ++ rest) = (v.under? path).bind fun w => w.under? rest := by
  induction path generalizing v with
  | nil => rfl
  | cons key path ih =>
    cases v with
    | dict entries =>
      rw [List.cons_append, under?_dict, under?_dict, Option.bind_assoc]
      exact Option.bind_congr fun u _ => ih u
    | _ => simp [under?]

/-- What is under a key of data whose dictionaries have distinct keys is such data. -/
theorem WellKeyed.member {entries : Dict Value} (h : WellKeyed (.dict entries)) {key : Key}
    {v : Value} (hv : entries.get? key = some v) : v.WellKeyed := by
  obtain ⟨k, hmem, -⟩ := Dict.exists_mem_of_get? hv
  exact (wellKeyed_dict.1 h).2 _ hmem

/-- A dictionary of one entry is data if its value is. -/
theorem isData_single {v : Value} (h : v.IsData) (key : Key) : IsData (.dict [(key, v)]) :=
  isData_dict.2 ⟨List.pairwise_singleton _ _, by simpa using h⟩

/-- **Settling leaves paths as they are.** -/
theorem under?_settled (v : Value) (path : List Key) :
    v.settled.under? path = (v.under? path).map settled := by
  induction path generalizing v with
  | nil => simp
  | cons key rest ih =>
    cases v with
    | dict entries =>
      rw [settled, settledEntries_eq_map, under?_dict, under?_dict, Dict.get?_map,
        Option.bind_map, Option.map_bind]
      exact Option.bind_congr fun u _ => ih u
    | _ => simp [under?, settled]

@[simp] theorem settled_eq_null {v : Value} : v.settled = .null ↔ v = .null := by
  cases v <;> simp [settled]

/-- The patch has a null under a key of the dictionary that a path leads to. -/
def Removes (patch : Value) (path : List Key) (key : Key) : Prop :=
  patch.under? (path ++ [key]) = some .null

/-- No dictionary of the patch has a null. -/
def NullFree (patch : Value) : Prop := ∀ path key, ¬ patch.Removes path key

/-- A path leads to a dictionary. -/
def HasDict (current : Option Value) (path : List Key) : Prop :=
  ∃ held, (current.bind fun v => v.under? path) = some (.dict held)

/-- Wherever the patch has a null, there is a dictionary that it is laid over. -/
def Lands (current : Option Value) (patch : Value) : Prop :=
  ∀ path key, patch.Removes path key → HasDict current path

variable {current : Option Value} {v u : Value} {base update : Dict Value} {path : List Key}
  {k key : Key}

/-! ## Where the nulls are -/

theorem removes_nil : Removes (.dict update) [] key ↔ update.get? key = some .null := by
  rw [Removes, List.nil_append, under?_dict]
  simp

theorem removes_cons : Removes (.dict update) (k :: path) key ↔
    ∃ u, update.get? k = some u ∧ Removes u path key := by
  rw [Removes, List.cons_append, under?_dict, Option.bind_eq_some_iff]
  rfl

/-- Only dictionaries have nulls under keys. -/
theorem Removes.exists_dict (h : Removes v path key) : ∃ update, v = .dict update := by
  rw [Removes] at h
  cases hpath : path ++ [key] with
  | nil => simp at hpath
  | cons k rest =>
    rw [hpath] at h
    obtain ⟨update, u, rfl, -⟩ := exists_dict_of_under? h
    exact ⟨update, rfl⟩

theorem nullFree_of_not_dict (h : ∀ update, v ≠ .dict update) : NullFree v := by
  intro path key hremoves
  obtain ⟨update, rfl⟩ := hremoves.exists_dict
  exact h update rfl

theorem nullFree_dict : NullFree (.dict update) ↔
    ∀ key u, update.get? key = some u → u ≠ .null ∧ NullFree u := by
  constructor
  · intro h key u hu
    refine ⟨fun hnull => h [] key (removes_nil.2 (hnull ▸ hu)), fun path k hremoves => ?_⟩
    exact h (key :: path) k (removes_cons.2 ⟨u, hu, hremoves⟩)
  · intro h path key hremoves
    cases path with
    | nil => exact (h key .null (removes_nil.1 hremoves)).1 rfl
    | cons k rest =>
      obtain ⟨u, hu, hinner⟩ := removes_cons.1 hremoves
      exact (h k u hu).2 rest key hinner

theorem nullFree_of_forall (h : ∀ e ∈ update, e.2 ≠ .null ∧ NullFree e.2) :
    NullFree (.dict update) := nullFree_dict.2 fun key u hu => by
  obtain ⟨k, hmem, -⟩ := Dict.exists_mem_of_get? hu
  exact h _ hmem

/-- Settling moves no nulls. -/
theorem removes_settled : Removes v.settled path key ↔ Removes v path key := by
  rw [Removes, under?_settled, Option.map_eq_some_iff, Removes]
  simp

theorem nullFree_settled : NullFree v.settled ↔ NullFree v := by
  simp only [NullFree, removes_settled]

/-! ## Where they land -/

theorem hasDict_nil : HasDict current [] ↔ ∃ base, current = some (.dict base) := by
  simp [HasDict]

theorem hasDict_cons : HasDict current (k :: path) ↔
    ∃ base : Dict Value, current = some (.dict base) ∧ HasDict (base.get? k) path := by
  constructor
  · rintro ⟨held, hheld⟩
    obtain ⟨v, rfl, hunder⟩ := Option.bind_eq_some_iff.1 hheld
    obtain ⟨base, u, rfl, hu, hrest⟩ := exists_dict_of_under? hunder
    exact ⟨base, rfl, held, by rw [hu, Option.bind_some, hrest]⟩
  · rintro ⟨base, rfl, held, hheld⟩
    exact ⟨held, by rwa [Option.bind_some, under?_dict]⟩

/-- What leads to a dictionary starts at one. -/
theorem HasDict.exists_base (h : HasDict current path) : ∃ base, current = some (.dict base) := by
  cases path with
  | nil => exact hasDict_nil.1 h
  | cons k rest =>
    obtain ⟨base, hbase, -⟩ := hasDict_cons.1 h
    exact ⟨base, hbase⟩

/-- A null stands in a dictionary. -/
theorem Removes.hasDict (h : Removes v path key) : HasDict (some v) path := by
  rw [Removes, under?_append] at h
  obtain ⟨w, hw, hkey⟩ := Option.bind_eq_some_iff.1 h
  obtain ⟨held, u, rfl, -⟩ := exists_dict_of_under? hkey
  exact ⟨held, hw⟩

/-- A patch that is laid over a dictionary lands if each of its values does. -/
theorem Lands.value (h : Lands (some (.dict base)) (.dict update)) (hu : update.get? key = some u) :
    Lands (base.get? key) u := by
  intro path k hremoves
  obtain ⟨base', hbase, hdict⟩ := hasDict_cons.1 (h (key :: path) k (removes_cons.2 ⟨u, hu, hremoves⟩))
  cases hbase
  exact hdict

/-- Where there is no dictionary, only what has no nulls lands. -/
theorem Lands.nullFree (h : Lands current v) (hbase : ¬ ∃ base, current = some (.dict base)) :
    NullFree v := fun path key hremoves => hbase (h path key hremoves).exists_base

theorem lands_settled : Lands current v.settled ↔ Lands current v := by
  simp only [Lands, removes_settled]

/-! ## Patches without nulls -/

theorem patchEntries_eq_mergeEntries
    (h : ∀ e ∈ update, e.2 ≠ .null ∧ ∀ current, patchAt current e.2 = mergeAt current e.2)
    (base : Dict Value) : patchEntries base update = mergeEntries base update := by
  induction update generalizing base with
  | nil => rw [patchEntries, mergeEntries]
  | cons e rest ih =>
    obtain ⟨⟨hne, hhead⟩, hrest⟩ := List.forall_mem_cons.1 h
    rw [patchEntries_cons hne, mergeEntries, hhead, ih hrest]

/-- **A patch without nulls is a merge.** -/
theorem patchAt_eq_mergeAt (hv : v.WellKeyed) (h : NullFree v) (current : Option Value) :
    patchAt current v = mergeAt current v := by
  induction v using dictInduction generalizing current with
  | other v hdict => rw [patchAt_of_not_dict hdict, mergeAt_of_not_dict hdict]
  | dict update ih =>
    by_cases hbase : ∃ base, current = some (.dict base)
    · obtain ⟨base, rfl⟩ := hbase
      obtain ⟨hdistinct, hvalues⟩ := wellKeyed_dict.1 hv
      rw [patchAt_dict, mergeAt_dict, patchEntries_eq_mergeEntries]
      intro e he
      obtain ⟨hne, hinner⟩ := nullFree_dict.1 h e.1 e.2 (hdistinct.get?_of_mem he)
      exact ⟨hne, ih e he (hvalues e he) hinner⟩
    · rw [patchAt_of_not_base (not_exists.1 hbase), mergeAt_of_not_base (not_exists.1 hbase)]

/-! ## Patches that are applied again -/

/-- A patch assigns to its keys one after another. -/
theorem patchEntries_cons_eq (base rest : Dict Value) (k : Key) (u : Value) :
    patchEntries base ((k, u) :: rest) =
      patchEntries (base.assign k (patchedAt (base.get? k) (some u))) rest := by
  by_cases hnull : u = .null
  · rw [hnull, patchEntries]
    rfl
  · rw [patchEntries_cons hnull, patchedAt_of_ne_null hnull, Dict.assign_some]

/-- A patch that leaves what is under each of its keys changes nothing. -/
theorem patchEntries_eq_self (hu : update.Distinct)
    (h : ∀ key u, update.get? key = some u → patchedAt (base.get? key) (some u) = base.get? key) :
    patchEntries base update = base := by
  induction update with
  | nil => rw [patchEntries]
  | cons e rest ih =>
    obtain ⟨k, u⟩ := e
    obtain ⟨hhead, hrest⟩ := List.pairwise_cons.1 hu
    have hk : patchedAt (base.get? k) (some u) = base.get? k := h k u (by simp [Dict.get?])
    rw [patchEntries_cons_eq, hk, Dict.assign_get?_self]
    refine ih hrest fun key w hw => h key w ?_
    -- the key is that of a later entry, so it is not that of the first
    obtain ⟨k', hmem, hsame⟩ := Dict.exists_mem_of_get? hw
    have hne : k.same key = false := by
      rw [Key.same_comm, ← Key.same_congr hsame, Key.same_comm]
      exact hhead _ hmem
    simp [Dict.get?, hne, hw]

/-- A value without nulls can be laid over itself. -/
theorem patchAt_self (hv : v.WellKeyed) (h : NullFree v) : patchAt (some v) v = v := by
  induction v using dictInduction with
  | other v hdict => exact patchAt_of_not_dict hdict
  | dict update ih =>
    rw [patchAt_dict, patchEntries_eq_self (wellKeyed_dict.1 hv).1]
    intro key u hu
    obtain ⟨hne, hinner⟩ := nullFree_dict.1 h key u hu
    obtain ⟨k, hmem, -⟩ := Dict.exists_mem_of_get? hu
    rw [hu, patchedAt_of_ne_null hne, ih _ hmem (hv.member hu) hinner]

/-- **A patch that lands can be applied again to no effect.** -/
theorem patchAt_patchAt_of_lands (hv : v.WellKeyed)
    (hcurrent : ∀ old, current = some old → old.WellKeyed) (h : Lands current v) :
    patchAt (some (patchAt current v)) v = patchAt current v := by
  induction v using dictInduction generalizing current with
  | other v hdict => simp only [patchAt_of_not_dict hdict]
  | dict update ih =>
    by_cases hbase : ∃ base, current = some (.dict base)
    · obtain ⟨base, rfl⟩ := hbase
      have hdistinct := (wellKeyed_dict.1 hv).1
      have hold := hcurrent _ rfl
      rw [patchAt_dict, patchAt_dict, patchEntries_eq_self hdistinct]
      intro key u hu
      rw [get?_patchEntries (wellKeyed_dict.1 hold).1 hdistinct, hu]
      by_cases hnull : u = .null
      · rw [hnull]
        rfl
      · obtain ⟨k, hmem, -⟩ := Dict.exists_mem_of_get? hu
        rw [patchedAt_of_ne_null hnull, patchedAt_of_ne_null hnull,
          ih _ hmem (hv.member hu) (fun _ => hold.member) (h.value hu)]
    · rw [patchAt_of_not_base (not_exists.1 hbase), patchAt_self hv (h.nullFree hbase)]

/-- What stands below a key of a patch is laid over what is there. -/
theorem exists_patchAt_below (hv : v.WellKeyed) (hbase : WellKeyed (.dict base))
    (h : Removes v (k :: path) key) : ∃ u, u.WellKeyed ∧
      (∀ old, base.get? k = some old → old.WellKeyed) ∧ Removes u path key ∧
      ∀ rest, (patchAt (some (.dict base)) v).under? (k :: rest) =
        (patchAt (base.get? k) u).under? rest := by
  obtain ⟨update, rfl⟩ := h.exists_dict
  obtain ⟨u, hk, hinner⟩ := removes_cons.1 h
  have hne : u ≠ .null := by
    obtain ⟨members, rfl⟩ := hinner.exists_dict
    simp
  refine ⟨u, hv.member hk, fun _ => hbase.member, hinner, fun rest => ?_⟩
  rw [patchAt_dict, under?_dict, get?_patchEntries (wellKeyed_dict.1 hbase).1
    (wellKeyed_dict.1 hv).1, hk, patchedAt_of_ne_null hne, Option.bind_some]

/-- **A null takes away** what is under its key of a dictionary that the patch is laid over. -/
theorem under?_patchAt_of_hasDict (hv : v.WellKeyed)
    (hcurrent : ∀ old, current = some old → old.WellKeyed) (h : Removes v path key)
    (hdict : HasDict current path) : (patchAt current v).under? (path ++ [key]) = none := by
  induction path generalizing current v with
  | nil =>
    obtain ⟨update, rfl⟩ := h.exists_dict
    obtain ⟨base, rfl⟩ := hdict.exists_base
    rw [patchAt_dict, List.nil_append, under?_dict, get?_patchEntries
      (wellKeyed_dict.1 (hcurrent _ rfl)).1 (wellKeyed_dict.1 hv).1, removes_nil.1 h]
    rfl
  | cons k rest ih =>
    obtain ⟨base, rfl, hbelow⟩ := hasDict_cons.1 hdict
    obtain ⟨u, hu, hold, hinner, hunder⟩ := exists_patchAt_below hv (hcurrent _ rfl) h
    rw [List.cons_append, hunder]
    exact ih hu hold hinner hbelow

/-- **A null is stored** where the patch is laid over no dictionary. -/
theorem under?_patchAt_of_not_hasDict (hv : v.WellKeyed)
    (hcurrent : ∀ old, current = some old → old.WellKeyed) (h : Removes v path key)
    (hdict : ¬ HasDict current path) :
    (patchAt current v).under? (path ++ [key]) = some .null := by
  induction path generalizing current v with
  | nil =>
    rw [hasDict_nil] at hdict
    rw [patchAt_of_not_base (not_exists.1 hdict)]
    exact h
  | cons k rest ih =>
    by_cases hbase : ∃ base, current = some (.dict base)
    · obtain ⟨base, rfl⟩ := hbase
      obtain ⟨u, hu, hold, hinner, hunder⟩ := exists_patchAt_below hv (hcurrent _ rfl) h
      rw [List.cons_append, hunder]
      exact ih hu hold hinner fun hbelow => hdict (hasDict_cons.2 ⟨base, rfl, hbelow⟩)
    · rw [patchAt_of_not_base (not_exists.1 hbase)]
      exact h

/-- Afterwards there is a dictionary wherever the patch has a null. -/
theorem hasDict_patchAt (hv : v.WellKeyed)
    (hcurrent : ∀ old, current = some old → old.WellKeyed) (h : Removes v path key) :
    HasDict (some (patchAt current v)) path := by
  induction path generalizing current v with
  | nil =>
    obtain ⟨update, rfl⟩ := h.exists_dict
    obtain ⟨members, hmembers⟩ := exists_patchAt_dict current update
    exact hasDict_nil.2 ⟨members, congrArg some hmembers⟩
  | cons k rest ih =>
    by_cases hbase : ∃ base, current = some (.dict base)
    · obtain ⟨base, rfl⟩ := hbase
      obtain ⟨u, hu, hold, hinner, hunder⟩ := exists_patchAt_below hv (hcurrent _ rfl) h
      rw [HasDict, Option.bind_some, hunder]
      exact ih hu hold hinner
    · rw [patchAt_of_not_base (not_exists.1 hbase)]
      exact h.hasDict

/-- **A patch can be applied again to no effect exactly if it lands.** -/
theorem patchAt_patchAt_iff (hv : v.WellKeyed)
    (hcurrent : ∀ old, current = some old → old.WellKeyed) :
    patchAt (some (patchAt current v)) v = patchAt current v ↔ Lands current v := by
  refine ⟨fun heq path key hremoves => ?_, patchAt_patchAt_of_lands hv hcurrent⟩
  by_contra hdict
  -- the null would be stored at first and taken away then
  have hstored := under?_patchAt_of_not_hasDict hv hcurrent hremoves hdict
  have hpatched : ∀ old, some (patchAt current v) = some old → old.WellKeyed := fun old hold =>
    Option.some.inj hold ▸ hv.patchAt hcurrent
  have htaken := under?_patchAt_of_hasDict hv hpatched hremoves
    (hasDict_patchAt hv hcurrent hremoves)
  rw [heq, hstored] at htaken
  cases htaken

end DocMapper.Value
