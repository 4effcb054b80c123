import DocMapper.Text.Quoted
import DocMapper.Wire.Reading
/-!
# JSON strings are read back

A character that JSON does not take as it stands is written by its 16-bit units, as four hexadecimal
digits each. The reader finds the character again, whatever follows (`Wire.readString_jsonChar`), and so
the text (`Wire.readText_jsonString`). A JSON string is therefore told from what follows it
(`Text.jsonString_append_inj`).
-/

namespace DocMapper

namespace Text

/-! ## Hexadecimal digits -/

theorem hex_one {n : Nat} (h : n < 16) : (hex 1 n).toList = [n.digitChar] := by
  rw [hex, Nat.toDigits_of_lt_base h, String.toList_ofList]
  rfl

/-- The last digit of a number of some width. -/
theorem hex_succ (w n : Nat) :
    (hex (w + 2) n).toList = (hex (w + 1) (n / 16)).toList ++ [(n % 16).digitChar] := by
  by_cases h : n < 16
  · have hdiv : n / 16 = 0 := by omega
    have hmod : n % 16 = n := by omega
    simp only [hex, hdiv, hmod, Nat.toDigits_of_lt_base h,
      Nat.toDigits_of_lt_base (show 0 < 16 by omega), List.length_singleton, Nat.add_one_sub_one,
      String.toList_ofList]
    rw [List.replicate_succ']
    rfl
  · rw [hex, Nat.toDigits_of_base_le (by omega) (by omega), hex]
    simp only [List.length_append, List.length_singleton, String.toList_ofList]
    rw [show w + 2 - ((Nat.toDigits 16 (n / 16)).length + 1) =
      w + 1 - (Nat.toDigits 16 (n / 16)).length by omega, List.append_assoc]

/-- The four digits of a 16-bit unit. -/
theorem hex_unit {n : Nat} (h : n < 0x10000) : (hex 4 n).toList =
    [(n / 4096).digitChar, (n / 256 % 16).digitChar, (n / 16 % 16).digitChar, (n % 16).digitChar] := by
  rw [hex_succ 2, hex_succ 1, hex_succ 0]
  simp only [Nat.div_div_eq_div_mul, Nat.reduceMul, Nat.zero_add, hex_one (show n / 4096 < 16 by omega),
    List.cons_append, List.nil_append]

end Text

namespace Wire

open Text

theorem hexValue?_digitChar {n : Nat} (h : n < 16) : hexValue? n.digitChar = some n := by
  have hcases : ∀ n < 16, hexValue? (Nat.digitChar n) = some n := by decide
  exact hcases n h

/-- A unit is read back from its digits. -/
theorem unit?_hex {n : Nat} (h : n < 0x10000) (rest : List Char) :
    unit? ((hex 4 n).toList ++ rest) = some (n, rest) := by
  rw [hex_unit h]
  simp only [List.cons_append, List.nil_append, unit?, hexValue?_digitChar (show n / 4096 < 16 by omega),
    hexValue?_digitChar (show n / 256 % 16 < 16 by omega),
    hexValue?_digitChar (show n / 16 % 16 < 16 by omega),
    hexValue?_digitChar (show n % 16 < 16 by omega), Option.bind_eq_bind, Option.bind_some,
    Option.some.injEq, Prod.mk.injEq, and_true]
  omega

/-! ## Characters -/

variable (read : List Char) (fuel : Nat) (rest : List Char)

theorem toList_unitEscape (n : Nat) :
    (unitEscape n).toList ++ rest = '\\' :: 'u' :: ((hex 4 n).toList ++ rest) := by
  rw [unitEscape, String.toList_append, List.append_assoc]
  rfl

theorem readString_unitEscape {n : Nat} (h : n < 0x10000) :
    readString read (fuel + 1) ((unitEscape n).toList ++ rest) =
      readString ((unitChar n rest).1 :: read) fuel (unitChar n rest).2 := by
  rw [toList_unitEscape, readString]
  simp only [Char.reduceEq, if_false, if_true, unit?_hex h]

/-- A printable character stands for itself. -/
theorem readString_printable {c : Char} (hquote : c ≠ '"') (hslash : c ≠ '\\')
    (h : 0x20 ≤ c.toNat) : readString read (fuel + 1) (c :: rest) = readString (c :: read) fuel rest := by
  rw [readString.eq_def]
  simp only [if_neg hquote, if_neg hslash, if_neg (Nat.not_lt.2 h)]

/-- The unit of a character is read as the character. -/
theorem unitChar_toNat (c : Char) : unitChar c.toNat rest = (c, rest) := by
  have hvalid : c.toNat < 0xD800 ∨ (0xDFFF < c.toNat ∧ c.toNat < 0x110000) := c.valid
  unfold unitChar
  rw [if_neg (by omega), if_neg (by omega), Char.ofNat_toNat]

/-- The units of a pair are read as one character. -/
theorem unitChar_pair {n : Nat} (h : n < 0x100000) :
    unitChar (0xD800 + n / 0x400) ((unitEscape (0xDC00 + n % 0x400)).toList ++ rest) =
      (Char.ofNat (0x10000 + n), rest) := by
  rw [toList_unitEscape, unitChar, if_pos (by omega)]
  simp only [unit?_hex (show 0xDC00 + n % 0x400 < 0x10000 by omega)]
  have hchar : 0x10000 + (0xD800 + n / 0x400 - 0xD800) * 0x400 + (0xDC00 + n % 0x400 - 0xDC00) =
      0x10000 + n := by omega
  rw [if_pos (by omega), hchar]

/-- **A character is read back** from what is written for it, whatever follows. -/
theorem readString_jsonChar (c : Char) :
    readString read (fuel + 1) ((jsonChar c).toList ++ rest) = readString (c :: read) fuel rest := by
  unfold jsonChar
  split
  · subst_vars; rfl
  split
  · subst_vars; rfl
  split
  · subst_vars; rfl
  split
  · subst_vars; rfl
  split
  · subst_vars; rfl
  split
  · subst_vars; rfl
  split
  · subst_vars; rfl
  rename_i hquote hslash _ _ _ _ _
  split
  · rename_i hprintable
    rw [String.toList_singleton, List.singleton_append]
    exact readString_printable _ _ _ hquote hslash hprintable.1
  split
  · rename_i hsmall
    rw [readString_unitEscape _ _ _ hsmall, unitChar_toNat]
  · rename_i hlarge
    have hvalid : c.toNat < 0xD800 ∨ (0xDFFF < c.toNat ∧ c.toNat < 0x110000) := c.valid
    rw [String.toList_append, List.append_assoc, readString_unitEscape _ _ _ (by omega),
      unitChar_pair _ (by omega), show 0x10000 + (c.toNat - 0x10000) = c.toNat by omega,
      Char.ofNat_toNat]

/-! ## Strings -/

theorem length_jsonChar_pos (c : Char) : 0 < (jsonChar c).toList.length := by
  rw [List.length_pos_iff]
  intro hnil
  have hread := readString_jsonChar [] 0 ['"'] c
  rw [hnil] at hread
  cases hread

/-- What is written is no shorter than the text. -/
theorem length_le_written (chars : List Char) :
    chars.length ≤ (chars.flatMap fun c => (jsonChar c).toList).length := by
  induction chars with
  | nil => exact Nat.zero_le _
  | cons c chars ih =>
    rw [List.flatMap_cons, List.length_append, List.length_cons]
    have hpos := length_jsonChar_pos c
    omega

/-- Characters are read back up to the closing quote. -/
theorem readString_chars (chars : List Char) (h : chars.length < fuel) :
    readString read fuel (chars.flatMap (fun c => (jsonChar c).toList) ++ '"' :: rest) =
      some (String.ofList (read.reverse ++ chars), rest) := by
  induction chars generalizing read fuel with
  | nil =>
    obtain ⟨fuel, rfl⟩ : ∃ n, fuel = n + 1 := ⟨fuel - 1, by simp at h; omega⟩
    rw [List.flatMap_nil, List.nil_append, List.append_nil]
    rfl
  | cons c chars ih =>
    obtain ⟨fuel, rfl⟩ : ∃ n, fuel = n + 1 := ⟨fuel - 1, by simp at h; omega⟩
    rw [List.flatMap_cons, List.append_assoc, readString_jsonChar, ih _ _ (by simpa using h),
      List.reverse_cons, List.append_assoc, List.singleton_append]

/-- The characters between the quotes of a JSON string. -/
theorem toList_jsonString (s : String) : (jsonString s).toList ++ rest =
    '"' :: (s.toList.flatMap (fun c => (jsonChar c).toList) ++ '"' :: rest) := by
  rw [jsonString]
  simp [String.toList_join, List.flatMap_map]

/-- **A JSON string is read back**, whatever follows. -/
theorem readText_jsonString (s : String) {text : List Char}
    (h : (jsonString s).toList ++ rest = '"' :: text) : readText text = .ok (s, rest) := by
  rw [toList_jsonString] at h
  obtain rfl := (List.cons.inj h).2
  have hlength : s.toList.length < (s.toList.flatMap (fun c => (jsonChar c).toList) ++
      '"' :: rest).length + 1 := by
    have hle := length_le_written s.toList
    rw [List.length_append]
    omega
  rw [readText, readString_chars _ _ _ _ hlength]
  simp

end Wire

/-- **A JSON string is told from what follows it.** -/
theorem Text.jsonString_append_inj {s t r r' : String}
    (h : jsonString s ++ r = jsonString t ++ r') : s = t ∧ r = r' := by
  have hchars := congrArg String.toList h
  rw [String.toList_append, String.toList_append] at hchars
  have hs := Wire.readText_jsonString r.toList s (Wire.toList_jsonString r.toList s)
  have ht := Wire.readText_jsonString r'.toList t (hchars ▸ Wire.toList_jsonString r.toList s)
  have hread := hs.symm.trans ht
  simp only [Except.ok.injEq, Prod.mk.injEq, String.toList_inj] at hread
  exact hread

end DocMapper
