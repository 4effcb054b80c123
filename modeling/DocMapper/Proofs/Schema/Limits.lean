import DocMapper.Proofs.Data.Outcome
import DocMapper.Schema.Limits
/-!
# Limits pass values on

Holding a value against limits and checking its bounds never changes it, so a check within limits
gives the value that was read (`Limits.hold_eq_ok`, `Limits.checkBounds_eq_ok` and the like).
-/

namespace DocMapper.Limits

variable {limits : Limits} {v w : Value}

/-! ## Limits of a type of its own -/

theorem checkBound_eq_ok {standing : Standing} {breaks : Comparison → Bool}
    {compare : Value → Option Comparison} {bound : Option Value}
    (h : checkBound standing breaks compare bound v = .ok w) : w = v := by
  unfold checkBound at h
  split at h
  · cases h; rfl
  · split at h
    · cases h
    · cases h; rfl

theorem checkBounds_eq_ok (h : limits.checkBounds v = .ok w) : w = v := by
  simp only [checkBounds, Except.bind_eq_ok] at h
  obtain ⟨_, -, _, -, _, -, h⟩ := h
  exact checkBound_eq_ok h

theorem checkText_eq_ok {s : String} (h : limits.checkText s = .ok w) : w = .text s := by
  unfold checkText at h
  split at h
  · cases h
  · split at h
    · cases h
    · cases h; rfl

theorem checkDict_eq_ok {entries : Dict Value} (h : limits.checkDict entries = .ok w) :
    w = .dict entries := by
  unfold checkDict at h
  split at h
  · cases h
  · split at h
    · cases h
    · cases h; rfl

/-- A list is put together from items that all pass. -/
theorem checkList_eq_ok {given : Value} {items : List (Checked Value)}
    (h : limits.checkList given items = .ok w) :
    ∃ values, items = values.map .ok ∧ w = .list values := by
  simp only [checkList] at h
  split at h
  · cases h
  · split at h
    · cases h
    · rename_i hmost
      split at h
      · cases h
      · rename_i values hvalues
        split at h
        · cases h
        · cases h
          rw [List.take_of_length_le (by omega)] at hvalues
          exact ⟨values, Checked.all_eq_ok.1 hvalues, rfl⟩

/-! ## Limits that are held against a value -/

theorem holdBound_eq_ok {standing : Standing} {keeps : Comparison → Bool} {bound : Option Value}
    (h : holdBound standing keeps bound v = .ok w) : w = v := by
  unfold holdBound at h
  split at h
  · cases h; rfl
  · split at h
    · cases h
    · split at h
      · cases h; rfl
      · cases h

theorem holdBounds_eq_ok (h : limits.holdBounds v = .ok w) : w = v := by
  simp only [holdBounds, Except.bind_eq_ok] at h
  obtain ⟨_, -, _, -, _, -, h⟩ := h
  exact holdBound_eq_ok h

theorem holdLengths_eq_ok (h : limits.holdLengths v = .ok w) : w = v := by
  have hpass : ∀ {n bound : Nat} {reason : Reason} {rest : Checked Value},
      (if n < bound then (do Checked.reject reason v; rest) else rest) = .ok w → rest = .ok w := by
    intro n bound reason rest h
    split at h
    · cases h
    · exact h
  cases hmin : limits.minLength with
  | none =>
    cases hmax : limits.maxLength with
    | none =>
      simp only [holdLengths, hmin, hmax] at h
      cases h
      rfl
    | some most =>
      simp only [holdLengths, hmin, hmax, Except.bind_eq_ok] at h
      obtain ⟨n, -, h⟩ := h
      cases hpass h
      rfl
  | some least =>
    cases hmax : limits.maxLength with
    | none =>
      simp only [holdLengths, hmin, hmax, Except.bind_eq_ok] at h
      obtain ⟨n, -, h⟩ := h
      cases hpass h
      rfl
    | some most =>
      simp only [holdLengths, hmin, hmax, Except.bind_eq_ok] at h
      obtain ⟨n, -, h⟩ := h
      obtain ⟨k, -, h⟩ := Except.bind_eq_ok.1 (hpass h)
      cases hpass h
      rfl

/-- What is held against limits stays as it is. -/
theorem hold_eq_ok (h : limits.hold v = .ok w) : w = v := by
  obtain ⟨u, hu, hw⟩ := Except.bind_eq_ok.1 h
  rw [holdLengths_eq_ok hw, holdBounds_eq_ok hu]

/-! ## Values that limits do not tell apart -/

theorem checkBound_congr {standing : Standing} {breaks : Comparison → Bool}
    {compare compare' : Value → Option Comparison} {bound : Option Value}
    (h : ∀ b, compare' b = compare b) (hv : checkBound standing breaks compare bound v = .ok v) :
    checkBound standing breaks compare' bound w = .ok w := by
  cases bound with
  | none => rfl
  | some b =>
    simp only [checkBound, h] at hv ⊢
    split at hv
    · cases hv
    · exact if_neg ‹_›

/-- A value that stands to all others as one within the bounds of its type is within them. -/
theorem checkBounds_congr (h : ∀ b, compareOwn w b = compareOwn v b)
    (hv : limits.checkBounds v = .ok v) : limits.checkBounds w = .ok w := by
  simp only [checkBounds, Except.bind_eq_ok] at hv ⊢
  obtain ⟨_, h₁, _, h₂, _, h₃, h₄⟩ := hv
  cases checkBound_eq_ok h₁
  cases checkBound_eq_ok h₂
  cases checkBound_eq_ok h₃
  exact ⟨w, checkBound_congr h h₁, w, checkBound_congr h h₂, w, checkBound_congr h h₃,
    checkBound_congr h h₄⟩

theorem holdBound_congr {standing : Standing} {keeps : Comparison → Bool} {bound : Option Value}
    (h : ∀ b ∈ bound, w.compare? b = v.compare? b) (hv : holdBound standing keeps bound v = .ok v) :
    holdBound standing keeps bound w = .ok w := by
  cases bound with
  | none => rfl
  | some b =>
    simp only [holdBound, h b rfl] at hv ⊢
    cases hc : v.compare? b with
    | none => simp [hc] at hv
    | some c =>
      simp only [hc] at hv ⊢
      split at hv
      · exact if_pos ‹_›
      · cases hv

/-- The bounds among limits. -/
def bounds (limits : Limits) : List Value :=
  [limits.above, limits.atLeast, limits.below, limits.atMost].filterMap id

/-- A value that stands to bounds as one within them is within them. -/
theorem holdBounds_congr_of_mem (h : ∀ b ∈ limits.bounds, w.compare? b = v.compare? b)
    (hv : limits.holdBounds v = .ok v) : limits.holdBounds w = .ok w := by
  simp only [holdBounds, Except.bind_eq_ok] at hv ⊢
  obtain ⟨_, h₁, _, h₂, _, h₃, h₄⟩ := hv
  cases holdBound_eq_ok h₁
  cases holdBound_eq_ok h₂
  cases holdBound_eq_ok h₃
  have hone : ∀ bound ∈ [limits.above, limits.atLeast, limits.below, limits.atMost],
      ∀ b ∈ bound, w.compare? b = v.compare? b :=
    fun bound hbound b hb => h b (List.mem_filterMap.2 ⟨bound, hbound, hb⟩)
  exact ⟨w, holdBound_congr (hone _ (by simp)) h₁, w, holdBound_congr (hone _ (by simp)) h₂, w,
    holdBound_congr (hone _ (by simp)) h₃, holdBound_congr (hone _ (by simp)) h₄⟩

/-- A value that stands to all others as one within bounds is within them. -/
theorem holdBounds_congr (h : ∀ b, w.compare? b = v.compare? b)
    (hv : limits.holdBounds v = .ok v) : limits.holdBounds w = .ok w :=
  holdBounds_congr_of_mem (fun b _ => h b) hv

/-- A value is within limits of length when it has a length that is, as far as there are any. -/
theorem holdLengths_self_iff : limits.holdLengths v = .ok v ↔
    (∀ least, limits.minLength = some least → ∃ n, lengthOf v = .ok n ∧ least ≤ n) ∧
    (∀ most, limits.maxLength = some most → ∃ n, lengthOf v = .ok n ∧ n ≤ most) := by
  have hguard : ∀ (n bound : Nat) (reason : Reason) (rest : Checked Value),
      (if n < bound then (do Checked.reject reason v; rest) else rest) = .ok v ↔
        bound ≤ n ∧ rest = .ok v := by
    intro n bound reason rest
    split
    · simp only [Checked.reject, bind, Except.bind, reduceCtorEq, false_iff, not_and]
      omega
    · simp only [iff_and_self]
      omega
  cases hmin : limits.minLength <;> cases hmax : limits.maxLength <;>
    cases hn : lengthOf v <;>
    simp only [holdLengths, hmin, hmax, hn, Except.bind_eq_ok, Except.ok.injEq, exists_eq_left',
      hguard, reduceCtorEq, false_and, exists_false, Option.some.injEq, forall_eq', and_true,
      true_and, and_false, pure, Except.pure, forall_const, false_imp_iff]

/-- A value that is as long as one within limits is within them. -/
theorem holdLengths_congr (h : w.length = v.length) (hv : limits.holdLengths v = .ok v) :
    limits.holdLengths w = .ok w := by
  have hlength : lengthOf w = lengthOf v := by rw [lengthOf, lengthOf, h]
  rw [holdLengths_self_iff] at hv ⊢
  rwa [hlength]

/-- A value that limits do not tell apart from one within them is within them. -/
theorem hold_congr (h : ∀ b, w.compare? b = v.compare? b) (hlength : w.length = v.length)
    (hv : limits.hold v = .ok v) : limits.hold w = .ok w := by
  simp only [hold, Except.bind_eq_ok] at hv ⊢
  obtain ⟨u, hu, hv⟩ := hv
  cases holdBounds_eq_ok hu
  exact ⟨w, holdBounds_congr h hu, holdLengths_congr hlength hv⟩

theorem checkDict_congr {entries others : Dict Value} (h : others.length = entries.length)
    (hv : limits.checkDict entries = .ok (.dict entries)) :
    limits.checkDict others = .ok (.dict others) := by
  unfold checkDict at hv ⊢
  simp only [h]
  split at hv
  · cases hv
  · rw [if_neg ‹_›]
    split at hv
    · cases hv
    · exact if_neg ‹_›

theorem checkList_congr {given given' : Value} {items others : List Value}
    (h : others.length = items.length)
    (hv : limits.checkList given (items.map .ok) = .ok (.list items)) :
    limits.checkList given' (others.map .ok) = .ok (.list others) := by
  simp only [checkList, List.length_map, h] at hv ⊢
  split at hv
  · cases hv
  · split at hv
    · cases hv
    · rename_i hmost
      have htake : ∀ xs : List Value, xs.length = items.length →
          Checked.all ((xs.map Except.ok).take (limits.maxLength.getD items.length + 1)) =
            (.ok xs : Checked (List Value)) := by
        intro xs hxs
        rw [List.take_of_length_le (by rw [List.length_map]; omega)]
        exact Checked.all_eq_ok.2 rfl
      rw [htake items rfl] at hv
      rw [htake others h]
      simp only [if_neg hmost, h] at hv ⊢
      split at hv
      · cases hv
      · exact if_neg ‹_›

end DocMapper.Limits
