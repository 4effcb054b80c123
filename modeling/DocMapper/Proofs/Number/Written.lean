import DocMapper.Proofs.Wire.Written
/-!
# The JSON texts of numbers

A number is written with digits, signs, letters and a point, and with one of them at least. So its text
has neither brackets nor quotes nor commas (`Text.isPlainText_int`, `Wire.isPlainText_numberText`).
-/

namespace DocMapper

namespace Text

variable {s t : String}

theorem IsPlainText.append (hs : IsPlainText s) (ht : IsPlainText t) : IsPlainText (s ++ t) := by
  intro c hc
  rw [String.toList_append] at hc
  exact (List.mem_append.1 hc).elim (hs c) (ht c)

theorem isPlainText_ofList {chars : List Char} (h : ∀ c ∈ chars, IsPlainChar c) :
    IsPlainText (String.ofList chars) := by
  rwa [IsPlainText, String.toList_ofList]

theorem isPlainChar_of_mem_toDigits {n : Nat} {c : Char} (h : c ∈ Nat.toDigits 10 n) :
    IsPlainChar c := by
  have hdigit := Nat.isDigit_of_mem_toDigits (by decide) (Nat.le_refl _) h
  refine ⟨?_, ?_, ?_, ?_, ?_, ?_⟩ <;> (rintro rfl; revert hdigit; decide)

theorem isPlainChar_of_mem_replicate {n : Nat} {c : Char} (h : c ∈ List.replicate n '0') :
    IsPlainChar c := by
  rw [List.eq_of_mem_replicate h]
  decide

/-! ## Integers -/

theorem isPlainText_nat (n : Nat) : IsPlainText (toString n) := by
  rw [Nat.toString_eq_ofList_toDigits]
  exact isPlainText_ofList fun c hc => isPlainChar_of_mem_toDigits hc

theorem toString_nat_ne (n : Nat) : toString n ≠ "" := by
  rw [Nat.toString_eq_ofList_toDigits, Ne, ← String.toList_inj, String.toList_ofList]
  exact Nat.toDigits_ne_nil

theorem isPlainText_int (n : Int) : IsPlainText (toString n) := by
  rw [Int.toString_eq_repr, Int.repr_eq_if]
  split
  · exact isPlainText_nat _
  · exact IsPlainText.append (by decide) (isPlainText_nat _)

theorem toString_int_ne (n : Int) : toString n ≠ "" := by
  rw [Int.toString_eq_repr, Int.repr_eq_if]
  split
  · exact toString_nat_ne _
  · simp [String.append_eq_empty_iff]

end Text

namespace Binary64

open Text

/-! ## Floating-point numbers -/

theorem isPlainText_positional (digits : Nat) (exponent : Int) :
    IsPlainText (positional digits exponent) := by
  have hpadded : ∀ {n : Nat} {c : Char}, c ∈ Nat.toDigits 10 digits ++ List.replicate n '0' →
      IsPlainChar c := fun hc =>
    (List.mem_append.1 hc).elim isPlainChar_of_mem_toDigits isPlainChar_of_mem_replicate
  unfold positional
  simp only
  split
  · refine IsPlainText.append (by decide) (isPlainText_ofList fun c hc => ?_)
    exact (List.mem_append.1 hc).elim isPlainChar_of_mem_replicate isPlainChar_of_mem_toDigits
  · refine (isPlainText_ofList fun c hc => hpadded (List.mem_of_mem_take hc)).append ?_
    split
    · decide
    · exact IsPlainText.append (by decide)
        (isPlainText_ofList fun c hc => hpadded (List.mem_of_mem_drop hc))

theorem positional_ne (digits : Nat) (exponent : Int) : positional digits exponent ≠ "" := by
  unfold positional
  simp only
  split
  · simp [String.append_eq_empty_iff]
  · rw [Ne, String.append_eq_empty_iff, not_and_or]
    left
    rw [← String.toList_inj, String.toList_ofList]
    simp [Nat.toDigits_ne_nil]

theorem isPlainText_exponentText (exponent : Int) : IsPlainText (exponentText exponent) := by
  unfold exponentText
  simp only
  refine IsPlainText.append (by split <;> decide) ?_
  split
  · exact IsPlainText.append (by decide) (isPlainText_nat _)
  · exact isPlainText_nat _

theorem isPlainText_layout (digits : Nat) (exponent : Int) :
    IsPlainText (layout digits exponent) := by
  unfold layout
  simp only
  split
  · exact (isPlainText_positional _ _).append (by split <;> decide)
  · refine (IsPlainText.append ?_ (by decide)).append (isPlainText_exponentText _)
    have hplain : ∀ c ∈ Nat.toDigits 10 digits, IsPlainChar c :=
      fun c hc => isPlainChar_of_mem_toDigits hc
    generalize Nat.toDigits 10 digits = text at hplain
    split
    · decide
    · exact isPlainText_ofList hplain
    · rename_i d rest
      obtain ⟨hd, hrest⟩ := List.forall_mem_cons.1 hplain
      refine (IsPlainText.append ?_ (by decide)).append (isPlainText_ofList hrest)
      exact isPlainText_ofList (List.forall_mem_singleton.2 hd)

theorem layout_ne (digits : Nat) (exponent : Int) : layout digits exponent ≠ "" := by
  unfold layout
  simp only
  split
  · rw [Ne, String.append_eq_empty_iff, not_and_or]
    exact Or.inl (positional_ne _ _)
  · simp [String.append_eq_empty_iff]

end Binary64

namespace Wire

open Text

theorem isPlainText_numberText (x : Binary64) : IsPlainText (numberText x) := by
  unfold numberText
  split
  · decide
  · split <;> decide
  · rename_i negative significand exponent hkind
    rw [Binary64.text, hkind]
    exact IsPlainText.append (by split <;> decide) (Binary64.isPlainText_layout _ _)

theorem numberText_ne (x : Binary64) : numberText x ≠ "" := by
  unfold numberText
  split
  · decide
  · split <;> decide
  · rename_i negative significand exponent hkind
    rw [Binary64.text, hkind]
    simp only [Binary64.spell]
    rw [Ne, String.append_eq_empty_iff, not_and_or]
    exact Or.inr (Binary64.layout_ne _ _)

end Wire

end DocMapper
