import DocMapper.Proofs.Value.Nulls
/-!
# Patches that do not meet

A patch assigns to each of its keys what it leaves there, which depends on what is under the key and
on nothing else. So patches of different keys (`Dict.Disjoint`) can be applied in any order: the
entries that they leave are the same, and only their order differs (`Value.perm_patchEntries`). Put
together they say under each key what the one says that has it (`Dict.get?_flatten`).
-/

namespace DocMapper

namespace Dict

variable {α : Type} {d e : Dict α} {ds : List (Dict α)} {key : Key}

/-- No key of one dictionary is one of the other. -/
def Disjoint (d e : Dict α) : Prop := ∀ key, d.has key = true → e.has key = false

theorem Disjoint.symm (h : d.Disjoint e) : e.Disjoint d := fun key he => by
  rw [← Bool.not_eq_true]
  intro hd
  rw [h key hd] at he
  cases he

theorem get?_eq_none_of_has (h : d.has key = false) : d.get? key = none := by
  simpa [has] using h

/-- Dictionaries that do not meet can be put together. -/
theorem Distinct.append (hd : d.Distinct) (he : e.Distinct) (h : d.Disjoint e) :
    Distinct (d ++ e) := by
  refine List.pairwise_append.2 ⟨hd, he, fun x hx y hy => ?_⟩
  rw [← Bool.not_eq_true]
  intro hsame
  have hyes : e.has x.1 = true := by
    rw [has, get?_congr e hsame]
    exact has_of_mem hy
  rw [h x.1 (has_of_mem hx)] at hyes
  cases hyes

/-- A key of the entries of several dictionaries is one of some of them. -/
theorem exists_of_has_flatten (h : has ds.flatten key = true) : ∃ d ∈ ds, d.has key = true := by
  induction ds with
  | nil => cases h
  | cons d rest ih =>
    rw [List.flatten_cons, has, get?_append, Option.isSome_or, Bool.or_eq_true] at h
    rcases h with h | h
    · exact ⟨d, List.mem_cons_self, h⟩
    · obtain ⟨e, he, hkey⟩ := ih h
      exact ⟨e, List.mem_cons_of_mem d he, hkey⟩

/-- A dictionary that meets none of several does not meet what they are put together. -/
theorem disjoint_flatten (h : ∀ e ∈ ds, d.Disjoint e) : d.Disjoint ds.flatten := by
  intro key hd
  rw [← Bool.not_eq_true]
  intro hkey
  obtain ⟨e, he, hkey⟩ := exists_of_has_flatten hkey
  rw [h e he key hd] at hkey
  cases hkey

theorem distinct_flatten (hds : ∀ d ∈ ds, d.Distinct) (h : ds.Pairwise Disjoint) :
    Distinct ds.flatten := by
  induction ds with
  | nil => exact distinct_nil
  | cons d rest ih =>
    obtain ⟨hd, hrest⟩ := List.forall_mem_cons.1 hds
    obtain ⟨hhead, htail⟩ := List.pairwise_cons.1 h
    exact hd.append (ih hrest htail) (disjoint_flatten hhead)

theorem get?_flatten_of_forall (h : ∀ d ∈ ds, d.has key = false) : get? ds.flatten key = none := by
  refine get?_eq_none_of_has ?_
  rw [← Bool.not_eq_true]
  intro hkey
  obtain ⟨d, hd, hyes⟩ := exists_of_has_flatten hkey
  rw [h d hd] at hyes
  cases hyes

/-- Of dictionaries that do not meet, the one that has a key says what is under it. -/
theorem get?_flatten (h : ds.Pairwise Disjoint) (hd : d ∈ ds) (hkey : d.has key = true) :
    get? ds.flatten key = d.get? key := by
  induction ds with
  | nil => cases hd
  | cons first rest ih =>
    obtain ⟨hhead, htail⟩ := List.pairwise_cons.1 h
    rw [List.flatten_cons, get?_append]
    rcases List.mem_cons.1 hd with rfl | hmem
    · rw [get?_eq_none_of_has (disjoint_flatten hhead key hkey), Option.or_none]
    · rw [get?_eq_none_of_has ((hhead d hmem).symm key hkey), Option.none_or, ih htail hmem]

end Dict

namespace Value

variable {base base' update update' : Dict Value}

/-! ## Settled patches -/

theorem settledEntries_append (update later : Dict Value) :
    settledEntries (update ++ later) = settledEntries update ++ settledEntries later := by
  simp only [settledEntries_eq_map, List.map_append]

theorem distinct_settledEntries (h : update.Distinct) : Dict.Distinct (settledEntries update) := by
  rw [settledEntries_eq_map]
  exact h.map fun e => e.2.settled

theorem get?_settledEntries (update : Dict Value) (key : Key) :
    Dict.get? (settledEntries update) key = (update.get? key).map settled := by
  rw [settledEntries_eq_map, Dict.get?_map]

/-! ## Order -/

/-- Patches that are put together are applied one after another. -/
theorem patchEntries_append (base update later : Dict Value) :
    patchEntries base (update ++ later) = patchEntries (patchEntries base update) later := by
  induction update generalizing base with
  | nil => rw [List.nil_append, patchEntries]
  | cons e rest ih =>
    obtain ⟨k, u⟩ := e
    rw [List.cons_append, patchEntries_cons_eq, patchEntries_cons_eq, ih]

/-- The order of what a patch is laid over decides no more than the order of what is left. -/
theorem perm_patchEntries_base (hb : base.Distinct) (h : base.Perm base') (update : Dict Value) :
    (patchEntries base update).Perm (patchEntries base' update) := by
  induction update generalizing base base' with
  | nil => simpa [patchEntries] using h
  | cons e rest ih =>
    obtain ⟨k, u⟩ := e
    rw [patchEntries_cons_eq, patchEntries_cons_eq, ← hb.get?_perm h]
    exact ih (hb.assign k _) (Dict.perm_assign hb h k _)

/-- **The order of the entries of a patch** decides no more than the order of what is left. -/
theorem perm_patchEntries (h : update.Perm update') (hu : update.Distinct) (hb : base.Distinct) :
    (patchEntries base update).Perm (patchEntries base update') := by
  induction h generalizing base with
  | nil => exact List.Perm.refl _
  | @cons e rest rest' h ih =>
    obtain ⟨k, u⟩ := e
    rw [patchEntries_cons_eq, patchEntries_cons_eq]
    exact ih (List.pairwise_cons.1 hu).2 (hb.assign k _)
  | swap first second rest =>
    obtain ⟨k, u⟩ := first
    obtain ⟨k', u'⟩ := second
    have hdiffer : k'.same k = false := (List.pairwise_cons.1 hu).1 _ List.mem_cons_self
    have hdiffer' : k.same k' = false := by rwa [Key.same_comm]
    simp only [patchEntries_cons_eq, Dict.get?_assign_of_not_same _ hdiffer,
      Dict.get?_assign_of_not_same _ hdiffer']
    exact perm_patchEntries_base ((hb.assign k' _).assign k _)
      (Dict.perm_assign_comm base hdiffer _ _) rest
  | trans h₁ h₂ ih₁ ih₂ => exact (ih₁ hu hb).trans (ih₂ (hu.perm h₁) hb)

end Value

end DocMapper
