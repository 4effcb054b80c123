import DocMapper.Proofs.Value.Likeness
/-!
# Assignments to dictionaries

To assign to a key is to write a value to it or to take its entry away (`Dict.assign`). Assigning what
is there changes nothing (`Dict.assign_get?_self`). Assignments to different keys can be made in
either order, which decides no more than the order of new entries (`Dict.perm_assign_comm`), and the
order of the entries decides nothing else (`Dict.perm_assign`).
-/

namespace DocMapper.Dict

variable {α : Type}

/-- Writes a value to a key, or removes its entry. -/
def assign (d : Dict α) (key : Key) : Option α → Dict α
  | none => d.erase key
  | some value => d.put key value

@[simp] theorem assign_none (d : Dict α) (key : Key) : d.assign key none = d.erase key := rfl

@[simp] theorem assign_some (d : Dict α) (key : Key) (value : α) :
    d.assign key (some value) = d.put key value := rfl

variable {d e : Dict α} {key other k : Key} {v : α} {value? other? : Option α}

/-! ## Assignments, entry by entry -/

theorem assign_nil (key : Key) (value? : Option α) :
    assign [] key value? = (value?.map fun v => (key, v)).toList := by
  cases value? <;> rfl

theorem assign_cons_of_same (h : k.same key = true) (v : α) (d : Dict α) (value? : Option α) :
    assign ((k, v) :: d) key value? = (value?.map fun w => (k, w)).toList ++ d := by
  cases value? with
  | none => rw [assign_none, erase, if_pos h]; rfl
  | some w => rw [assign_some, put, if_pos h]; rfl

theorem assign_cons_of_not_same (h : k.same key = false) (v : α) (d : Dict α)
    (value? : Option α) : assign ((k, v) :: d) key value? = (k, v) :: d.assign key value? := by
  have hne : ¬ k.same key = true := by simp [h]
  cases value? with
  | none => rw [assign_none, erase, if_neg hne]; rfl
  | some w => rw [assign_some, put, if_neg hne]; rfl

/-- An assignment passes by an entry that it is not made to, and by none. -/
theorem assign_toList_append (h : k.same key = false) (o : Option α) (d : Dict α)
    (value? : Option α) : assign ((o.map fun w => (k, w)).toList ++ d) key value? =
      (o.map fun w => (k, w)).toList ++ d.assign key value? := by
  cases o with
  | none => rfl
  | some w => exact assign_cons_of_not_same h w d value?

theorem Distinct.assign (hd : d.Distinct) (key : Key) (value? : Option α) :
    Distinct (d.assign key value?) := by
  cases value? with
  | none => exact hd.erase key
  | some v => exact hd.put key v

theorem get?_assign_of_not_same (d : Dict α) (h : key.same other = false) (value? : Option α) :
    (d.assign key value?).get? other = d.get? other := by
  cases value? with
  | none => exact get?_erase_of_not_same d h
  | some v => exact get?_put_of_not_same d v h

/-- **Assigning what is there** changes nothing. -/
theorem assign_get?_self (d : Dict α) (key : Key) : d.assign key (d.get? key) = d := by
  induction d with
  | nil => rfl
  | cons entry rest ih =>
    obtain ⟨k, v⟩ := entry
    by_cases hk : k.same key = true
    · simp [get?, hk, assign_cons_of_same hk]
    · have hne : k.same key = false := by simpa using hk
      rw [get?, if_neg hk, assign_cons_of_not_same hne, ih]

/-! ## Order -/

theorem Distinct.perm (hd : d.Distinct) (h : d.Perm e) : e.Distinct :=
  h.pairwise hd fun hxy => by rwa [Key.same_comm]

/-- **Assignments to different keys** can be made in either order. -/
theorem perm_assign_comm (d : Dict α) (h : key.same other = false) (value? other? : Option α) :
    ((d.assign key value?).assign other other?).Perm
      ((d.assign other other?).assign key value?) := by
  have h' : other.same key = false := by rwa [Key.same_comm]
  induction d with
  | nil =>
    have hkey := assign_toList_append h value? [] other?
    have hother := assign_toList_append h' other? [] value?
    rw [List.append_nil] at hkey hother
    rw [assign_nil, assign_nil, hkey, hother, assign_nil, assign_nil]
    exact List.perm_append_comm
  | cons entry rest ih =>
    obtain ⟨k, v⟩ := entry
    by_cases hk : k.same key = true
    · have hne : k.same other = false := by rwa [Key.same_congr hk]
      rw [assign_cons_of_same hk, assign_cons_of_not_same hne, assign_toList_append hne,
        assign_cons_of_same hk]
    · have hk' : k.same key = false := by simpa using hk
      by_cases ho : k.same other = true
      · rw [assign_cons_of_not_same hk', assign_cons_of_same ho, assign_cons_of_same ho,
          assign_toList_append hk']
      · have ho' : k.same other = false := by simpa using ho
        rw [assign_cons_of_not_same hk', assign_cons_of_not_same ho', assign_cons_of_not_same ho',
          assign_cons_of_not_same hk']
        exact ih.cons _

/-- Dictionaries that differ in the order of their entries still do after an assignment. -/
theorem perm_assign (hd : d.Distinct) (h : d.Perm e) (key : Key) (value? : Option α) :
    (d.assign key value?).Perm (e.assign key value?) := by
  induction h with
  | nil => exact List.Perm.refl _
  | @cons entry d e h ih =>
    obtain ⟨k, v⟩ := entry
    by_cases hk : k.same key = true
    · rw [assign_cons_of_same hk, assign_cons_of_same hk]
      exact h.append_left _
    · have hne : k.same key = false := by simpa using hk
      rw [assign_cons_of_not_same hne, assign_cons_of_not_same hne]
      exact (ih (List.pairwise_cons.1 hd).2).cons _
  | swap first second d =>
    obtain ⟨k, v⟩ := first
    obtain ⟨k', v'⟩ := second
    -- the two entries have different keys, so at most one of them is assigned to
    have hdiffer : k'.same k = false := (List.pairwise_cons.1 hd).1 _ List.mem_cons_self
    by_cases hk : k.same key = true
    · have hne : k'.same key = false := by
        rw [Key.same_comm, ← Key.same_congr hk, Key.same_comm]
        exact hdiffer
      rw [assign_cons_of_not_same hne, assign_cons_of_same hk, assign_cons_of_same hk]
      exact List.perm_middle.symm
    · have hne : k.same key = false := by simpa using hk
      by_cases hk' : k'.same key = true
      · rw [assign_cons_of_same hk', assign_cons_of_not_same hne, assign_cons_of_same hk']
        exact List.perm_middle
      · have hne' : k'.same key = false := by simpa using hk'
        rw [assign_cons_of_not_same hne', assign_cons_of_not_same hne,
          assign_cons_of_not_same hne, assign_cons_of_not_same hne']
        exact List.Perm.swap _ _ _
  | trans h₁ h₂ ih₁ ih₂ => exact (ih₁ hd).trans (ih₂ (hd.perm h₁))

end DocMapper.Dict
