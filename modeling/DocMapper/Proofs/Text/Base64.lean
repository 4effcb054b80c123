import DocMapper.Text.Base64
/-!
# Bytes are read back from their base64 text

Of a digit's character its six-bit value is read (`Base64.value?_digit`), four digits give three bytes
back, and a text that ends in padding ends in a shorter group: `Base64.decode?_encode`.
-/

namespace DocMapper.Base64

attribute [local simp] decodeFrom? encode

/-- A pair of characters that the reader knows as the values 62 and 63. -/
def IsKnown (pair : Char × Char) : Prop := pair = standard ∨ pair = urlSafe

variable {pair : Char × Char} {n : Nat}

/-- A digit is a plain character of which its value is read. -/
theorem digit_is_read (hpair : IsKnown pair) (hn : n < 64) :
    value? (digit pair n) = some n ∧ (digit pair n).toNat < 0x80 := by
  have hall : ∀ pair ∈ [standard, urlSafe], ∀ n < 64,
      value? (digit pair n) = some n ∧ (digit pair n).toNat < 0x80 := by decide +kernel
  exact hall pair (by simpa [IsKnown] using hpair) n hn

theorem value?_digit (hpair : IsKnown pair) (hn : n < 64) : value? (digit pair n) = some n :=
  (digit_is_read hpair hn).1

/-- No digit is written as padding. -/
theorem digit_ne_pad (hpair : IsKnown pair) (hn : n < 64) : digit pair n ≠ '=' := by
  intro h
  have hvalue := value?_digit hpair hn
  rw [h] at hvalue
  cases hvalue

/-- Digits are plain characters. -/
theorem digit_lt (hpair : IsKnown pair) (hn : n < 64) : (digit pair n).toNat < 0x80 :=
  (digit_is_read hpair hn).2

section Reading

variable {a b c : UInt8} {left pads : Nat} {rest : List Char}

/-- The first digit of a group is kept. -/
theorem decodeFrom?_first (hpair : IsKnown pair) (hn : n < 64) :
    decodeFrom? 0 left pads (digit pair n :: rest) = decodeFrom? 1 n 0 rest := by
  simp only [decodeFrom?, digit_ne_pad hpair hn, value?_digit hpair hn, if_false]

/-- The second digit completes the first byte. -/
theorem decodeFrom?_second (hpair : IsKnown pair) (hn : n < 64) (h : left * 4 + n / 16 = a.toNat) :
    decodeFrom? 1 left pads (digit pair n :: rest) =
      (decodeFrom? 2 (n % 16) 0 rest).map (a :: ·) := by
  simp only [decodeFrom?, digit_ne_pad hpair hn, value?_digit hpair hn, if_false, h,
    UInt8.ofNat_toNat]

/-- The third digit completes the second byte. -/
theorem decodeFrom?_third (hpair : IsKnown pair) (hn : n < 64) (h : left * 16 + n / 4 = b.toNat) :
    decodeFrom? 2 left pads (digit pair n :: rest) =
      (decodeFrom? 3 (n % 4) 0 rest).map (b :: ·) := by
  simp only [decodeFrom?, digit_ne_pad hpair hn, value?_digit hpair hn, if_false, h,
    UInt8.ofNat_toNat]

/-- The fourth digit completes the third byte and the group. -/
theorem decodeFrom?_fourth (hpair : IsKnown pair) (hn : n < 64) (h : left * 64 + n = c.toNat) :
    decodeFrom? 3 left pads (digit pair n :: rest) = (decodeFrom? 0 0 0 rest).map (c :: ·) := by
  simp only [decodeFrom?, digit_ne_pad hpair hn, value?_digit hpair hn, if_false, h,
    UInt8.ofNat_toNat]

end Reading

/-- **Bytes are read back from their text.** -/
theorem decode?_encode (hpair : IsKnown pair) (bytes : List UInt8) :
    decode? (encode pair bytes) = some bytes := by
  rw [decode?]
  -- the induction takes three bytes at a time, as the writer does
  induction bytes using encode.induct with
  | case1 => rfl
  | case2 a =>
    have ha := a.toNat_lt
    rw [encode, decodeFrom?_first hpair (by omega),
      decodeFrom?_second (a := a) hpair (by omega) (by omega)]
    rfl
  | case3 a b =>
    have ha := a.toNat_lt
    have hb := b.toNat_lt
    rw [encode, decodeFrom?_first hpair (by omega),
      decodeFrom?_second (a := a) hpair (by omega) (by omega),
      decodeFrom?_third (b := b) hpair (by omega) (by omega)]
    rfl
  | case4 a b c rest ih =>
    have ha := a.toNat_lt
    have hb := b.toNat_lt
    have hc := c.toNat_lt
    rw [encode, decodeFrom?_first hpair (by omega),
      decodeFrom?_second (a := a) hpair (by omega) (by omega),
      decodeFrom?_third (b := b) hpair (by omega) (by omega),
      decodeFrom?_fourth (c := c) hpair (by omega) (by omega), ih]
    rfl

/-- The text of bytes is plain. -/
theorem lt_of_mem_encode (hpair : IsKnown pair) (bytes : List UInt8) :
    ∀ c ∈ encode pair bytes, c.toNat < 0x80 := by
  induction bytes using encode.induct with
  | case1 => simp [encode]
  | case2 a =>
    have ha := a.toNat_lt
    simp only [encode, List.forall_mem_cons]
    exact ⟨digit_lt hpair (by omega), digit_lt hpair (by omega), by decide, by decide, by simp⟩
  | case3 a b =>
    have ha := a.toNat_lt
    have hb := b.toNat_lt
    simp only [encode, List.forall_mem_cons]
    exact ⟨digit_lt hpair (by omega), digit_lt hpair (by omega), digit_lt hpair (by omega),
      by decide, by simp⟩
  | case4 a b c rest ih =>
    have ha := a.toNat_lt
    have hb := b.toNat_lt
    have hc := c.toNat_lt
    simp only [encode, List.forall_mem_cons]
    exact ⟨digit_lt hpair (by omega), digit_lt hpair (by omega), digit_lt hpair (by omega),
      digit_lt hpair (by omega), ih⟩

end DocMapper.Base64
