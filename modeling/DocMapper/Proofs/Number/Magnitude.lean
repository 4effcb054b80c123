import DocMapper.Number.Binary64
/-!
# The order of exact numbers

Whatever their exponents, exact numbers stand to each other as at any exponent that is common to them
(`Magnitude.compare_levelled`). So they are ordered as integers are: the comparison turns around with
its sides, equal numbers compare alike, and what is not above goes on (`Magnitude.compare?_swap`,
`Magnitude.compare?_congr`, `Magnitude.AtMost.trans`).
-/

namespace DocMapper.Magnitude

variable {x y z : Magnitude}

/-- Numbers stand to each other as they do at any exponent that is common to them. -/
theorem compare_levelled (m n : Int) {d e k : Int} (hd : k ≤ d) (he : k ≤ e) :
    compare (m * Nat.pow 2 (d - e).toNat) (n * Nat.pow 2 (e - d).toNat) =
      compare (m * Nat.pow 2 (d - k).toNat) (n * Nat.pow 2 (e - k).toNat) := by
  have hpow : ∀ {a b c : Nat}, c = a + b → (Nat.pow 2 c : Int) = Nat.pow 2 a * Nat.pow 2 b := by
    intro a b c h
    rw [h]
    simp only [Nat.pow_eq, Nat.pow_add, Int.natCast_mul]
  have hpos : (0 : Int) < Nat.pow 2 (min d e - k).toNat := by
    simp only [Nat.pow_eq, Int.natCast_pos]
    exact Nat.two_pow_pos _
  have hm : m * (Nat.pow 2 (d - k).toNat : Int) =
      m * Nat.pow 2 (d - e).toNat * Nat.pow 2 (min d e - k).toNat := by
    rw [hpow (a := (d - e).toNat) (b := (min d e - k).toNat) (by omega), Int.mul_assoc]
  have hn : n * (Nat.pow 2 (e - k).toNat : Int) =
      n * Nat.pow 2 (e - d).toNat * Nat.pow 2 (min d e - k).toNat := by
    rw [hpow (a := (e - d).toNat) (b := (min d e - k).toNat) (by omega), Int.mul_assoc]
  rw [hm, hn]
  generalize m * (Nat.pow 2 (d - e).toNat : Int) = x, n * (Nat.pow 2 (e - d).toNat : Int) = y
  simp only [compare, compareOfLessAndEq, Int.mul_lt_mul_right hpos,
    Int.mul_eq_mul_right_iff (Int.ne_of_gt hpos)]

/-- **The comparison turns around with its sides.** -/
theorem compare?_swap (x y : Magnitude) : y.compare? x = (x.compare? y).map Ordering.swap := by
  cases x with
  | scaled m d =>
    cases y with
    | scaled n e =>
      simp only [compare?, Option.map_some]
      rw [Int.compare_swap]
    | _ => simp [compare?]
  | _ => cases y <;> simp [compare?]

/-- One number is not above another. -/
def AtMost (x y : Magnitude) : Prop := x.compare? y = some .lt ∨ x.compare? y = some .eq

theorem atMost_scaled (m n : Int) {d e k : Int} (hd : k ≤ d) (he : k ≤ e) :
    AtMost (.scaled m d) (.scaled n e) ↔
      m * Nat.pow 2 (d - k).toNat ≤ n * Nat.pow 2 (e - k).toNat := by
  simp only [AtMost, compare?, Option.some.injEq]
  rw [compare_levelled m n hd he]
  generalize m * (Nat.pow 2 (d - k).toNat : Int) = a, n * (Nat.pow 2 (e - k).toNat : Int) = b
  simp only [compare, compareOfLessAndEq]
  split
  · simp only [true_or, true_iff]
    omega
  · split
    · simp only [or_true, true_iff]
      omega
    · simp only [reduceCtorEq, or_self, false_iff]
      omega

/-- **What is not above a number is not above any that the number is not above.** -/
theorem AtMost.trans (hxy : AtMost x y) (hyz : AtMost y z) : AtMost x z := by
  cases x with
  | scaled m d =>
    cases y with
    | scaled n e =>
      cases z with
      | scaled p f =>
        -- all three at one exponent
        have hd : min d (min e f) ≤ d := by omega
        have he : min d (min e f) ≤ e := by omega
        have hf : min d (min e f) ≤ f := by omega
        rw [atMost_scaled m n hd he] at hxy
        rw [atMost_scaled n p he hf] at hyz
        exact (atMost_scaled m p hd hf).2 (Int.le_trans hxy hyz)
      | _ => simp_all [AtMost, compare?]
    | _ => cases z <;> simp_all [AtMost, compare?]
  | _ => cases y <;> cases z <;> simp_all [AtMost, compare?]

theorem same_iff : x.same y = true ↔ x.compare? y = some .eq := by simp [same]

/-- Numbers are the same when neither is above the other. -/
theorem same_iff_atMost : x.same y = true ↔ AtMost x y ∧ AtMost y x := by
  rw [same_iff, AtMost, AtMost, compare?_swap x y]
  rcases x.compare? y with _ | _ | _ | _ <;> simp

theorem same_comm (x y : Magnitude) : x.same y = y.same x := by
  rw [Bool.eq_iff_iff, same_iff_atMost, same_iff_atMost, and_comm]

theorem same_trans (hxy : x.same y = true) (hyz : y.same z = true) : x.same z = true := by
  rw [same_iff_atMost] at *
  exact ⟨hxy.1.trans hyz.1, hyz.2.trans hxy.2⟩

end DocMapper.Magnitude
