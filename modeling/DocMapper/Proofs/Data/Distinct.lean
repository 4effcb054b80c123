import DocMapper.Data.Dict
/-!
# Dictionaries with distinct keys

A dictionary that came about by writes and removals has every key once (`Dict.Distinct`): a write to
a key that is there stays in its place. In such a dictionary a removed key is gone
(`Dict.get?_erase_self`), which is not so of a list of entries that repeats it. Entries with distinct
keys are a dictionary as they stand (`Dict.ofEntries_of_distinct`).
-/

namespace DocMapper

/-- Only a text addresses the entry of a text. -/
theorem Key.eq_text_of_same {k : Key} {s : String} (h : k.same (.text s) = true) : k = .text s := by
  have hidentity : k.identity = [.text s] := of_decide_eq_true h
  cases k with
  | text s' => simpa [identity] using hidentity
  | float x =>
    have hpart : partOfFloat x = .text s := List.head_eq_of_cons_eq hidentity
    unfold partOfFloat at hpart
    split at hpart <;> cases hpart
  | timestamp t =>
    have hpart : partOfTimestamp t = .text s := List.head_eq_of_cons_eq hidentity
    unfold partOfTimestamp at hpart
    split at hpart <;> cases hpart
  | _ => simp [identity] at hidentity

namespace Dict

variable {α β : Type}

/-- Every key stands once. -/
def Distinct (d : Dict α) : Prop := d.Pairwise fun a b => a.1.same b.1 = false

instance (d : Dict α) : Decidable (Distinct d) :=
  inferInstanceAs (Decidable (d.Pairwise fun a b => a.1.same b.1 = false))

theorem distinct_nil : Distinct ([] : Dict α) := List.Pairwise.nil

/-- A key that no entry has is not found. -/
theorem get?_eq_none_of_forall {d : Dict α} {key : Key} (h : ∀ e ∈ d, e.1.same key = false) :
    d.get? key = none := by
  induction d with
  | nil => rfl
  | cons entry rest ih =>
    obtain ⟨k, v⟩ := entry
    simp only [List.forall_mem_cons] at h
    simp [get?, h.1, ih h.2]

theorem get?_append (d e : Dict α) (key : Key) :
    Dict.get? (d ++ e) key = (d.get? key).or (e.get? key) := by
  induction d with
  | nil => rfl
  | cons entry rest ih =>
    obtain ⟨k, v⟩ := entry
    by_cases hk : k.same key = true
    · simp [get?, hk]
    · simp only [List.cons_append, get?, hk, if_false, Bool.false_eq_true]
      exact ih

/-- What is found under a key is an entry of a key that is the same. -/
theorem exists_mem_of_get? {d : Dict α} {key : Key} {v : α} (h : d.get? key = some v) :
    ∃ k, (k, v) ∈ d ∧ k.same key = true := by
  induction d with
  | nil => simp at h
  | cons entry rest ih =>
    obtain ⟨k, w⟩ := entry
    by_cases hk : k.same key = true
    · simp only [get?, hk, if_true, Option.some.injEq] at h
      exact ⟨k, by simp [h], hk⟩
    · simp only [get?, hk] at h
      obtain ⟨k', hmem, hsame⟩ := ih h
      exact ⟨k', List.mem_cons_of_mem _ hmem, hsame⟩

/-- An entry of a dictionary with distinct keys is found under its key. -/
theorem Distinct.get?_of_mem {d : Dict α} (hd : Distinct d) {k : Key} {v : α} (h : (k, v) ∈ d) :
    d.get? k = some v := by
  induction d with
  | nil => simp at h
  | cons entry rest ih =>
    obtain ⟨k', v'⟩ := entry
    obtain ⟨hhead, hrest⟩ := List.pairwise_cons.1 hd
    rcases List.mem_cons.1 h with heq | hmem
    · cases heq
      simp [get?]
    · simp [get?, hhead _ hmem, ih hrest hmem]

theorem mem_put {d : Dict α} {key : Key} {value : α} {e : Key × α} (h : e ∈ d.put key value) :
    (e.2 = value ∧ e.1.same key = true) ∨ e ∈ d := by
  induction d with
  | nil =>
    rw [put, List.mem_singleton] at h
    exact Or.inl (by simp [h])
  | cons entry rest ih =>
    obtain ⟨k, v⟩ := entry
    by_cases hk : k.same key = true
    · rw [put, if_pos hk] at h
      rcases List.mem_cons.1 h with rfl | hmem
      · exact Or.inl ⟨rfl, hk⟩
      · exact Or.inr (List.mem_cons_of_mem _ hmem)
    · rw [put, if_neg hk] at h
      rcases List.mem_cons.1 h with rfl | hmem
      · exact Or.inr List.mem_cons_self
      · exact (ih hmem).imp_right (List.mem_cons_of_mem _)

theorem mem_of_mem_erase {d : Dict α} {key : Key} {e : Key × α} (h : e ∈ d.erase key) : e ∈ d := by
  induction d with
  | nil => exact h
  | cons entry rest ih =>
    obtain ⟨k, v⟩ := entry
    by_cases hk : k.same key = true
    · rw [erase, if_pos hk] at h
      exact List.mem_cons_of_mem _ h
    · rw [erase, if_neg hk] at h
      rcases List.mem_cons.1 h with rfl | hmem
      · exact List.mem_cons_self
      · exact List.mem_cons_of_mem _ (ih hmem)

theorem Distinct.put {d : Dict α} (hd : Distinct d) (key : Key) (value : α) :
    Distinct (d.put key value) := by
  induction d with
  | nil => simp [Dict.put, Distinct]
  | cons entry rest ih =>
    obtain ⟨k, v⟩ := entry
    obtain ⟨hhead, hrest⟩ := List.pairwise_cons.1 hd
    by_cases hk : k.same key = true
    · rw [Dict.put, if_pos hk]
      exact List.pairwise_cons.2 ⟨hhead, hrest⟩
    · rw [Dict.put, if_neg hk]
      refine List.pairwise_cons.2 ⟨fun e he => ?_, ih hrest⟩
      rcases mem_put he with ⟨-, hsame⟩ | hmem
      · -- a key that is the same as the new one is as different from `k` as the new one
        rw [Key.same_comm, Key.same_congr hsame, Key.same_comm]
        simpa using hk
      · exact hhead e hmem

theorem Distinct.erase {d : Dict α} (hd : Distinct d) (key : Key) : Distinct (d.erase key) := by
  induction d with
  | nil => exact hd
  | cons entry rest ih =>
    obtain ⟨k, v⟩ := entry
    obtain ⟨hhead, hrest⟩ := List.pairwise_cons.1 hd
    by_cases hk : k.same key = true
    · rw [Dict.erase, if_pos hk]
      exact hrest
    · rw [Dict.erase, if_neg hk]
      exact List.pairwise_cons.2 ⟨fun e he => hhead e (mem_of_mem_erase he), ih hrest⟩

/-- **A removed key is gone.** -/
theorem Distinct.get?_erase_self {d : Dict α} (hd : Distinct d) (key : Key) :
    (d.erase key).get? key = none := by
  induction d with
  | nil => rfl
  | cons entry rest ih =>
    obtain ⟨k, v⟩ := entry
    obtain ⟨hhead, hrest⟩ := List.pairwise_cons.1 hd
    by_cases hk : k.same key = true
    · rw [Dict.erase, if_pos hk]
      refine get?_eq_none_of_forall fun e he => ?_
      rw [Key.same_comm, ← Key.same_congr hk]
      exact hhead e he
    · simp [Dict.erase, get?, hk, ih hrest]

/-- A key of a dictionary that was written to is the key that was written, or was there. -/
theorem mem_keys_put {d : Dict α} {key k : Key} {value : α} (h : k ∈ (d.put key value).keys) :
    k = key ∨ k ∈ d.keys := by
  rw [keys_put] at h
  split at h
  · exact Or.inr h
  · rcases List.mem_append.1 h with h | h
    · exact Or.inr h
    · exact Or.inl (List.mem_singleton.1 h)

/-! ## Dictionaries of entries -/

/-- What holds of the values of two dictionaries holds of those of the first with the second written
to it. -/
theorem forall_mem_putAll {p : α → Prop} {d entries : Dict α}
    (hd : ∀ e ∈ d, p e.2) (he : ∀ e ∈ entries, p e.2) : ∀ e ∈ putAll d entries, p e.2 := by
  induction entries generalizing d with
  | nil => exact hd
  | cons entry rest ih =>
    obtain ⟨hentry, hrest⟩ := List.forall_mem_cons.1 he
    refine ih (fun e hmem => ?_) hrest
    rcases mem_put hmem with ⟨hv, -⟩ | hmem
    · rw [hv]; exact hentry
    · exact hd e hmem

/-- The keys of a dictionary with entries written to it are its own and those of the entries. -/
theorem mem_keys_putAll {d entries : Dict α} {k : Key} (h : k ∈ (putAll d entries).keys) :
    k ∈ d.keys ∨ k ∈ entries.keys := by
  induction entries generalizing d with
  | nil => exact Or.inl h
  | cons entry rest ih =>
    rcases ih h with h | h
    · rcases mem_keys_put h with rfl | h
      · exact Or.inr List.mem_cons_self
      · exact Or.inl h
    · exact Or.inr (List.mem_cons_of_mem _ h)

theorem Distinct.putAll {d : Dict α} (hd : Distinct d) (entries : List (Key × α)) :
    Distinct (Dict.putAll d entries) := by
  induction entries generalizing d with
  | nil => exact hd
  | cons entry rest ih => exact ih (hd.put entry.1 entry.2)

theorem distinct_ofEntries (entries : List (Key × α)) : Distinct (ofEntries entries) :=
  distinct_nil.putAll entries

/-- A new key goes to the end. -/
theorem put_of_forall {d : Dict α} {key : Key} (h : ∀ e ∈ d, e.1.same key = false) (value : α) :
    d.put key value = d ++ [(key, value)] := by
  induction d with
  | nil => rfl
  | cons entry rest ih =>
    obtain ⟨hentry, hrest⟩ := List.forall_mem_cons.1 h
    rw [put, if_neg (by simp [hentry]), ih hrest, List.cons_append]

theorem putAll_of_distinct {d entries : List (Key × α)} (h : Distinct (d ++ entries)) :
    Dict.putAll d entries = d ++ entries := by
  induction entries generalizing d with
  | nil => exact (List.append_nil d).symm
  | cons entry rest ih =>
    have hnew : ∀ e ∈ d, e.1.same entry.1 = false := fun e he =>
      (List.pairwise_append.1 h).2.2 e he entry List.mem_cons_self
    have happend : d ++ entry :: rest = d ++ [entry] ++ rest := by simp
    rw [happend] at h ⊢
    rw [putAll, List.foldl_cons, put_of_forall hnew]
    exact ih h

/-- **Entries with distinct keys are a dictionary as they stand.** -/
theorem ofEntries_of_distinct {entries : List (Key × α)} (h : Distinct entries) :
    ofEntries entries = entries :=
  putAll_of_distinct (d := []) h

/-- A key that is not there is not removed. -/
theorem erase_of_forall {d : Dict α} {key : Key} (h : ∀ e ∈ d, e.1.same key = false) :
    d.erase key = d := by
  induction d with
  | nil => rfl
  | cons entry rest ih =>
    obtain ⟨hentry, hrest⟩ := List.forall_mem_cons.1 h
    rw [erase, if_neg (by simp [hentry]), ih hrest]

/-- Entries written to a dictionary leave its first entry in its place, with the value that they have
under its key if they have one. -/
theorem putAll_cons {d entries : Dict α} {key : Key} {value : α}
    (hd : ∀ e ∈ d, e.1.same key = false) (he : Distinct entries) :
    putAll ((key, value) :: d) entries =
      (key, (entries.get? key).getD value) :: putAll d (entries.erase key) := by
  induction entries generalizing d value with
  | nil => rfl
  | cons entry rest ih =>
    obtain ⟨k, v⟩ := entry
    obtain ⟨hhead, hrest⟩ := List.pairwise_cons.1 he
    rw [putAll, List.foldl_cons, ← putAll]
    by_cases hk : k.same key = true
    · have hnone : ∀ e ∈ rest, e.1.same key = false := fun e hmem => by
        rw [Key.same_comm, ← Key.same_congr hk]
        exact hhead e hmem
      rw [put, if_pos (by rwa [Key.same_comm]), ih hd hrest, get?_eq_none_of_forall hnone,
        erase_of_forall hnone]
      simp [get?, erase, hk]
    · have hput : ∀ e ∈ d.put k v, e.1.same key = false := by
        intro e hmem
        rcases mem_put hmem with ⟨-, hsame⟩ | hmem
        · rw [Key.same_congr hsame]
          simpa using hk
        · exact hd e hmem
      rw [put, if_neg (by rwa [Key.same_comm]), ih hput hrest]
      simp [get?, erase, hk, putAll]

/-! ## Counting entries -/

/-- The same key finds the same. -/
theorem get?_congr (d : Dict α) {key other : Key} (h : key.same other = true) :
    d.get? key = d.get? other := by
  induction d with
  | nil => rfl
  | cons entry rest ih =>
    obtain ⟨k, v⟩ := entry
    rw [get?, get?, Key.same_comm k key, Key.same_comm k other, Key.same_congr h, ih]

/-- Whether a key is present depends on the keys alone. -/
theorem has_eq_any (d : Dict α) (key : Key) : d.has key = d.keys.any fun k => k.same key := by
  induction d with
  | nil => rfl
  | cons entry rest ih =>
    obtain ⟨k, v⟩ := entry
    rw [has] at ih
    by_cases hk : k.same key = true
    · simp [has, get?, keys, hk]
    · simp [has, get?, keys, hk, ih]

theorem has_of_mem {d : Dict α} {e : Key × α} (h : e ∈ d) : d.has e.1 = true := by
  induction d with
  | nil => cases h
  | cons entry rest ih =>
    obtain ⟨k, v⟩ := entry
    by_cases hk : k.same e.1 = true
    · simp [has, get?, hk]
    · rcases List.mem_cons.1 h with rfl | hmem
      · simp at hk
      · simpa [has, get?, hk] using ih hmem

/-- No entry has a key that is not found. -/
theorem forall_of_get?_eq_none {d : Dict α} {key : Key} (h : d.get? key = none) :
    ∀ e ∈ d, e.1.same key = false := by
  intro e he
  rw [← Bool.not_eq_true]
  intro hsame
  have hthere := has_of_mem he
  rw [has, get?_congr d hsame, h] at hthere
  cases hthere

theorem length_erase_of_has {d : Dict α} {key : Key} (h : d.has key = true) :
    (d.erase key).length + 1 = d.length := by
  induction d with
  | nil => cases h
  | cons entry rest ih =>
    obtain ⟨k, v⟩ := entry
    by_cases hk : k.same key = true
    · simp [erase, hk]
    · have hrest : has rest key = true := by simpa [has, get?, hk] using h
      simp [erase, hk, ih hrest]

/-- A dictionary with distinct keys has no more entries than one that has all its keys. -/
theorem Distinct.length_le {d : Dict α} {e : Dict β} (hd : Distinct d)
    (h : ∀ x ∈ d, e.has x.1 = true) : d.length ≤ e.length := by
  induction d generalizing e with
  | nil => exact Nat.zero_le _
  | cons entry rest ih =>
    obtain ⟨k, v⟩ := entry
    obtain ⟨hhead, hrest⟩ := List.pairwise_cons.1 hd
    obtain ⟨hk, hothers⟩ := List.forall_mem_cons.1 h
    have hle : rest.length ≤ (e.erase k).length := by
      refine ih hrest fun x hx => ?_
      rw [has, get?_erase_of_not_same _ (hhead x hx)]
      exact hothers x hx
    have hlength : (e.erase k).length + 1 = e.length := length_erase_of_has hk
    rw [List.length_cons]
    omega

/-- Where a dictionary has all keys of another and no more entries, the other has all of its. -/
theorem Distinct.has_of_length_le {d : Dict α} {e : Dict β} (hd : Distinct d)
    (h : ∀ x ∈ d, e.has x.1 = true) (hle : e.length ≤ d.length) {key : Key}
    (hkey : e.has key = true) : d.has key = true := by
  refine Decidable.byContradiction fun hnot => ?_
  have hothers : ∀ x ∈ d, (e.erase key).has x.1 = true := by
    intro x hx
    have hne : key.same x.1 = false := by
      rw [← Bool.not_eq_true]
      intro hsame
      rw [has, get?_congr d hsame] at hnot
      exact hnot (has_of_mem hx)
    rw [has, get?_erase_of_not_same _ hne]
    exact h x hx
  have hlength := length_erase_of_has hkey
  have hcount := hd.length_le hothers
  omega

/-- Dictionaries with distinct keys that have the same keys are equally long, and the other way round
if one has all keys of the other. -/
theorem Distinct.length_eq_iff {d : Dict α} {e : Dict β} (hd : Distinct d) (he : Distinct e)
    (h : ∀ key, d.has key = true → e.has key = true) :
    d.length = e.length ↔ ∀ key, e.has key = true → d.has key = true := by
  have hkeys : ∀ x ∈ d, e.has x.1 = true := fun x hx => h x.1 (has_of_mem hx)
  constructor
  · intro hlength key hkey
    exact hd.has_of_length_le hkeys (Nat.le_of_eq hlength.symm) hkey
  · intro hback
    exact Nat.le_antisymm (hd.length_le hkeys) (he.length_le fun x hx => hback x.1 (has_of_mem hx))

/-- A write to a key brings no other key. -/
theorem has_put_of_not_same (d : Dict α) {key other : Key} (value : α)
    (h : key.same other = false) : (d.put key value).has other = d.has other := by
  rw [has, has, get?_put_of_not_same d value h]

/-- **Dictionaries are equal** if they have the same keys in the same order and the same under each of
them. -/
theorem Distinct.ext {d e : Dict α} (hd : Distinct d) (hkeys : d.keys = e.keys)
    (h : ∀ key, d.get? key = e.get? key) : d = e := by
  induction d generalizing e with
  | nil => exact (List.map_eq_nil_iff.1 hkeys.symm).symm
  | cons entry rest ih =>
    obtain ⟨k, v⟩ := entry
    obtain ⟨hhead, hrest⟩ := List.pairwise_cons.1 hd
    cases e with
    | nil => cases hkeys
    | cons other others =>
      obtain ⟨k', w⟩ := other
      obtain ⟨rfl, hothers⟩ := List.cons_eq_cons.1 hkeys
      have hvalue : some v = some w := by simpa [get?] using h k
      cases hvalue
      refine congrArg _ (ih hrest hothers fun key => ?_)
      by_cases hk : k.same key = true
      · -- neither of the rests has the key of the first entry
        have hnone : ∀ x ∈ rest, x.1.same key = false := fun x hx => by
          rw [Key.same_comm, ← Key.same_congr hk]
          exact hhead x hx
        have hlater : has rest key = has others key := by
          rw [has_eq_any, has_eq_any]
          exact congrArg (fun keys : List Key => keys.any fun k => k.same key) hothers
        rw [get?_eq_none_of_forall hnone]
        rw [has, has, get?_eq_none_of_forall hnone] at hlater
        exact (Option.not_isSome_iff_eq_none.1 (by simp [← hlater])).symm
      · simpa [get?, hk] using h key

theorem distinct_iff {d : Dict α} : Distinct d ↔ d.keys.Pairwise fun a b => a.same b = false := by
  rw [keys, List.pairwise_map]
  rfl

theorem Distinct.of_keys_eq {d : Dict α} {e : Dict β} (hd : Distinct d) (h : e.keys = d.keys) :
    Distinct e := by
  rw [distinct_iff, h, ← distinct_iff]
  exact hd

@[simp] theorem get?_map (d : Dict α) (f : α → β) (key : Key) :
    get? (d.map fun e => (e.1, f e.2)) key = (d.get? key).map f := by
  induction d with
  | nil => rfl
  | cons e rest ih =>
    simp only [List.map_cons, get?, ih]
    split <;> rfl

/-- The keys of entries whose values were changed are as distinct as before. -/
theorem Distinct.map {d : Dict α} (hd : Distinct d) (f : Key × α → β) :
    Distinct (d.map fun e => (e.1, f e)) :=
  List.pairwise_map.2 hd

theorem put_map (d : Dict α) (f : α → β) (key : Key) (v : α) :
    put (d.map fun e => (e.1, f e.2)) key (f v) = (d.put key v).map fun e => (e.1, f e.2) := by
  induction d with
  | nil => rfl
  | cons e rest ih =>
    simp only [List.map_cons, put]
    split
    · rfl
    · rw [ih, List.map_cons]

/-- The values of a dictionary can be changed before or after it is put together. -/
theorem ofEntries_map (entries : List (Key × α)) (f : α → β) :
    ofEntries (entries.map fun e => (e.1, f e.2)) =
      (ofEntries entries).map fun e => (e.1, f e.2) := by
  have hall : ∀ d : Dict α, putAll (d.map fun e => (e.1, f e.2)) (entries.map fun e => (e.1, f e.2)) =
      (putAll d entries).map fun e => (e.1, f e.2) := by
    induction entries with
    | nil => exact fun _ => rfl
    | cons e rest ih =>
      intro d
      rw [List.map_cons, putAll, putAll, List.foldl_cons, List.foldl_cons, put_map]
      exact ih _
  exact hall []

end Dict

end DocMapper
