import DocMapper.Calendar.Date
import Mathlib.Tactic.Tauto
/-!
# Counting days

Different dates have different day counts (`Date.eq_of_ordinal_eq`): the days of a month come before
those of the next, and the days of a year before those of the next.
-/

namespace DocMapper

namespace Calendar

theorem daysBeforeMonth_succ (year : Nat) {month : Nat} (h : 1 ≤ month) :
    daysBeforeMonth year (month + 1) = daysBeforeMonth year month + daysInMonth year month := by
  have hsum : ∀ (l : List Nat) (n : Nat), (l ++ [n]).foldr (· + ·) 0 = l.foldr (· + ·) 0 + n := by
    intro l n
    induction l with
    | nil => simp
    | cons a rest ih => rw [List.cons_append, List.foldr_cons, List.foldr_cons, ih, Nat.add_assoc]
  obtain ⟨n, rfl⟩ : ∃ n, month = n + 1 := ⟨month - 1, by omega⟩
  simp only [daysBeforeMonth, Nat.add_sub_cancel]
  rw [List.range_succ, List.map_append, List.map_singleton, hsum]

theorem daysBeforeMonth_le (year : Nat) {month later : Nat} (h : 1 ≤ month) (hle : month ≤ later) :
    daysBeforeMonth year month ≤ daysBeforeMonth year later := by
  induction hle with
  | refl => exact Nat.le_refl _
  | @step n hle ih =>
    rw [daysBeforeMonth_succ year (Nat.le_trans h hle)]
    exact Nat.le_trans ih (Nat.le_add_right _ _)

/-- The number of days of a year. -/
def daysInYear (year : Nat) : Nat := if isLeap year then 366 else 365

theorem daysBeforeMonth_thirteen (year : Nat) : daysBeforeMonth year 13 = daysInYear year := by
  cases hleap : isLeap year <;>
    simp [daysBeforeMonth, daysInMonth, daysInYear, hleap, List.range, List.range.loop]

/-- A year is one more to count of those that a number divides, or not. -/
theorem div_eq_pred_div {year : Nat} (h : 1 ≤ year) (k : Nat) :
    year / k = (year - 1) / k + if year % k = 0 then 1 else 0 := by
  obtain ⟨n, rfl⟩ : ∃ n, year = n + 1 := ⟨year - 1, by omega⟩
  rw [Nat.succ_div, Nat.add_sub_cancel]
  simp only [Nat.dvd_iff_mod_eq_zero]

theorem daysBeforeYear_succ {year : Nat} (h : 1 ≤ year) :
    daysBeforeYear (year + 1) = daysBeforeYear year + daysInYear year := by
  have h100 : year % 100 = 0 → year % 4 = 0 := by omega
  have h400 : year % 400 = 0 → year % 100 = 0 := by omega
  have hsmall : (year - 1) / 100 ≤ (year - 1) / 4 := by omega
  simp only [daysBeforeYear, daysInYear, isLeap, Nat.add_sub_cancel, div_eq_pred_div h 4,
    div_eq_pred_div h 100, div_eq_pred_div h 400]
  generalize (year - 1) / 4 = a, (year - 1) / 100 = b, (year - 1) / 400 = c at hsmall ⊢
  by_cases hfour : year % 4 = 0 <;> by_cases hhundred : year % 100 = 0 <;>
    by_cases hall : year % 400 = 0 <;> simp [hfour, hhundred, hall] at h100 h400 ⊢ <;> omega

theorem daysBeforeYear_le {year later : Nat} (h : 1 ≤ year) (hle : year ≤ later) :
    daysBeforeYear year ≤ daysBeforeYear later := by
  induction hle with
  | refl => exact Nat.le_refl _
  | @step n hle ih =>
    rw [daysBeforeYear_succ (Nat.le_trans h hle)]
    exact Nat.le_trans ih (Nat.le_add_right _ _)

end Calendar

namespace Date

open Calendar

/-- A date of an earlier month comes before the first day of a later one. -/
theorem day_le_of_month_lt (d : Date) {later : Nat} (h : d.month < later) :
    daysBeforeMonth d.year d.month + d.day ≤ daysBeforeMonth d.year later := by
  obtain ⟨-, -, hmonth, -, -, hday⟩ := d.valid
  have hnext := daysBeforeMonth_succ d.year hmonth
  have hlater : daysBeforeMonth d.year (d.month + 1) ≤ daysBeforeMonth d.year later :=
    daysBeforeMonth_le d.year (Nat.le_succ_of_le hmonth) h
  omega

/-- A date of an earlier year has a smaller day count. -/
theorem ordinal_lt_of_year_lt {d e : Date} (h : d.year < e.year) : d.ordinal < e.ordinal := by
  obtain ⟨hyear, -, -, hmonth, -, -⟩ := d.valid
  obtain ⟨-, -, -, -, hday, -⟩ := e.valid
  have hend := d.day_le_of_month_lt (Nat.lt_succ_of_le hmonth)
  have hnext := daysBeforeYear_succ hyear
  have hlater : daysBeforeYear (d.year + 1) ≤ daysBeforeYear e.year :=
    daysBeforeYear_le (Nat.le_succ_of_le hyear) h
  rw [daysBeforeMonth_thirteen] at hend
  simp only [ordinal]
  omega

/-- A date of an earlier month of the same year has a smaller day count. -/
theorem ordinal_lt_of_month_lt {d e : Date} (hyear : d.year = e.year) (h : d.month < e.month) :
    d.ordinal < e.ordinal := by
  obtain ⟨-, -, -, -, hday, -⟩ := e.valid
  have hend := d.day_le_of_month_lt h
  simp only [ordinal, ← hyear]
  omega

/-- **Different dates have different day counts.** -/
theorem eq_of_ordinal_eq {d e : Date} (h : d.ordinal = e.ordinal) : d = e := by
  have hyear : d.year = e.year := by
    rcases Nat.lt_trichotomy d.year e.year with hlt | heq | hgt
    · exact absurd (ordinal_lt_of_year_lt hlt) (by omega)
    · exact heq
    · exact absurd (ordinal_lt_of_year_lt hgt) (by omega)
  have hmonth : d.month = e.month := by
    rcases Nat.lt_trichotomy d.month e.month with hlt | heq | hgt
    · exact absurd (ordinal_lt_of_month_lt hyear hlt) (by omega)
    · exact heq
    · exact absurd (ordinal_lt_of_month_lt hyear.symm hgt) (by omega)
  have hday : d.day = e.day := by
    simp only [ordinal, hyear, hmonth] at h
    omega
  cases d
  cases e
  simp only at hyear hmonth hday
  subst hyear hmonth hday
  rfl

end Date

end DocMapper
