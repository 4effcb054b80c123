import DocMapper.Calendar.Input
import DocMapper.Calendar.Iso
/-!
# Stored times and dates are read back

A date is stored as its canonical text, and a timestamp as its exchange text, which gives its offset
in whole minutes. Read as input, the first comes back as it was (`Calendar.readInputDate_iso`) and
the second as `Timestamp.reread`: the reading stays, and seconds of the offset are lost
(`Calendar.readInputTimestamp_zulu`). That is the same point in time just for offsets of whole minutes
(`Timestamp.same_reread_iff`).

`Calendar.padded` writes a number with a fixed number of digits (`Calendar.padded_succ` takes the last
one off), and the readers get the number back from them, digit by digit or all at once.
-/

namespace DocMapper

/-! ## Numbers of a fixed width -/

theorem isDigit_digitChar {n : Nat} (h : n < 10) : isDigit n.digitChar = true := by
  have hcases : ∀ n < 10, isDigit (Nat.digitChar n) = true := by decide
  exact hcases n h

@[simp] theorem digitValue_digitChar {n : Nat} (h : n < 10) : digitValue n.digitChar = n := by
  have hcases : ∀ n < 10, digitValue (Nat.digitChar n) = n := by decide
  exact hcases n h

namespace Calendar

theorem padded_one {n : Nat} (h : n < 10) : padded 1 n = [n.digitChar] := by
  rw [padded, Nat.toDigits_of_lt_base h]
  rfl

/-- The last digit of a padded number. -/
theorem padded_succ (w n : Nat) :
    padded (w + 2) n = padded (w + 1) (n / 10) ++ [(n % 10).digitChar] := by
  by_cases h : n < 10
  · have hdiv : n / 10 = 0 := by omega
    have hmod : n % 10 = n := by omega
    simp only [padded, hdiv, hmod, Nat.toDigits_of_lt_base h,
      Nat.toDigits_of_lt_base (show 0 < 10 by omega), List.length_singleton,
      Nat.add_one_sub_one]
    rw [List.replicate_succ']
    rfl
  · rw [padded, Nat.toDigits_of_base_le (by omega) (by omega), padded]
    simp only [List.length_append, List.length_singleton]
    rw [show w + 2 - ((Nat.toDigits 10 (n / 10)).length + 1) =
      w + 1 - (Nat.toDigits 10 (n / 10)).length by omega, List.append_assoc]

/-- Without its last digit a number is one digit shorter. -/
theorem div_lt_pow {w n : Nat} (h : n < Nat.pow 10 (w + 2)) : n / 10 < Nat.pow 10 (w + 1) := by
  rw [Nat.div_lt_iff_lt_mul (by omega)]
  exact h

theorem length_padded {w n : Nat} (h : n < Nat.pow 10 (w + 1)) : (padded (w + 1) n).length = w + 1 := by
  induction w generalizing n with
  | zero => rw [padded_one h]; rfl
  | succ w ih =>
    have hdiv := div_lt_pow h
    rw [padded_succ, List.length_append, ih hdiv]
    rfl

theorem isDigit_of_mem_padded {w n : Nat} (h : n < Nat.pow 10 (w + 1)) :
    ∀ c ∈ padded (w + 1) n, isDigit c = true := by
  induction w generalizing n with
  | zero =>
    rw [padded_one h]
    simpa using isDigit_digitChar h
  | succ w ih =>
    have hdiv := div_lt_pow h
    rw [padded_succ]
    intro c hc
    rcases List.mem_append.1 hc with hc | hc
    · exact ih hdiv c hc
    · rw [List.mem_singleton.1 hc]
      exact isDigit_digitChar (by omega)

/-- **The digits of a padded number spell it.** -/
theorem natOfDigits_padded {w n : Nat} (h : n < Nat.pow 10 (w + 1)) :
    natOfDigits (padded (w + 1) n) = n := by
  induction w generalizing n with
  | zero =>
    have hn : n < 10 := h
    rw [padded_one hn]
    simp [natOfDigits, hn]
  | succ w ih =>
    have hdiv := div_lt_pow h
    have hlast : n % 10 < 10 := by omega
    have hinit := ih hdiv
    rw [natOfDigits] at hinit
    rw [padded_succ, natOfDigits, List.foldl_append, hinit]
    simp only [List.foldl_cons, List.foldl_nil, digitValue_digitChar hlast]
    omega

/-- Two digits. -/
theorem padded_two {n : Nat} (h : n < 100) :
    padded 2 n = [(n / 10).digitChar, (n % 10).digitChar] := by
  rw [padded_succ, padded_one (by omega)]
  rfl

/-- Four digits, as two times two. -/
theorem padded_four (n : Nat) :
    padded 4 n = padded 2 (n / 100) ++ padded 2 (n % 100) := by
  rw [padded_succ, padded_succ, padded_two (n := n % 100) (by omega), Nat.div_div_eq_div_mul,
    List.append_assoc]
  have htens : n / 10 % 10 = n % 100 / 10 := by omega
  have hones : n % 100 % 10 = n % 10 := by omega
  rw [htens, hones]
  rfl

end Calendar

/-! ## Offsets and timestamps -/

/-- The offset that is read back: whole minutes of it, towards universal time. -/
def Offset.reread (o : Offset) : Offset where
  microseconds :=
    let whole : Int := (o.microseconds.natAbs / 60000000 * 60000000 : Nat)
    if o.microseconds < 0 then -whole else whole
  fromInput := true
  valid := by
    have h := o.valid
    simp only
    split <;> omega

theorem Offset.of?_reread {o : Offset} {microseconds : Int}
    (h : microseconds = o.reread.microseconds) : of? microseconds true = some o.reread := by
  rw [h]
  exact of?_self o.reread

/-- Nothing of an offset of whole minutes is lost. -/
theorem Offset.microseconds_reread_eq_iff {o : Offset} :
    o.reread.microseconds = o.microseconds ↔ o.microseconds % 60000000 = 0 := by
  simp only [reread]
  split <;> omega

/-- The timestamp that is read back. -/
def Timestamp.reread (t : Timestamp) : Timestamp := { t with offset := t.offset.map Offset.reread }

/-- The offset is a number of whole minutes, if there is one. -/
def Timestamp.IsMinutely (t : Timestamp) : Prop :=
  ∀ o, t.offset = some o → o.microseconds % 60000000 = 0

namespace Calendar

/-! ## Reading at a position -/

theorem length_le_size (text : List Char) : text.length ≤ size text := by
  induction text with
  | nil => exact Nat.le_refl 0
  | cons c rest ih =>
    have hc : 0 < c.utf8Size := c.utf8Size_pos
    simp only [size, List.map_cons, List.foldr_cons, List.length_cons] at ih ⊢
    omega

theorem twoDigits_eq {text : List Char} {position n : Nat} {reason : String} (hn : n < 100)
    (htens : text[position]? = some (n / 10).digitChar)
    (hones : text[position + 1]? = some (n % 10).digitChar) :
    twoDigits text position reason = .ok n := by
  have hdiv : n / 10 < 10 := by omega
  have hmod : n % 10 < 10 := by omega
  simp only [twoDigits, digitAt, htens, hones, isDigit_digitChar hdiv, isDigit_digitChar hmod,
    if_true, digitValue_digitChar hdiv, digitValue_digitChar hmod, bind, Except.bind, pure,
    Except.pure, Except.ok.injEq]
  omega

theorem demand_eq (allowed : List Char) {text : List Char} {position : Nat} {reason : String}
    {c : Char} (hc : text[position]? = some c) (hmem : allowed.contains c = true) :
    demand text position allowed reason = .ok () := by
  rw [demand, hc]
  exact if_pos hmem

/-! ## Dates -/

theorem daysInMonth_le (year month : Nat) : daysInMonth year month ≤ 31 := by
  unfold daysInMonth
  split
  · split <;> omega
  · split
    · omega
    · split <;> omega

theorem day_lt (d : Date) : d.day < 100 := by
  have hday := d.valid.2.2.2.2.2
  have hmonth := daysInMonth_le d.year d.month
  omega

/-- The ten characters of a date, one by one. -/
theorem isoChars_eq (d : Date) : d.isoChars =
    [(d.year / 100 / 10).digitChar, (d.year / 100 % 10).digitChar,
      (d.year % 100 / 10).digitChar, (d.year % 100 % 10).digitChar, '-',
      (d.month / 10).digitChar, (d.month % 10).digitChar, '-',
      (d.day / 10).digitChar, (d.day % 10).digitChar] := by
  have hvalid := d.valid
  have hday := day_lt d
  rw [Date.isoChars, padded_four, padded_two (n := d.year / 100) (by unfold IsDate at hvalid; omega),
    padded_two (n := d.year % 100) (by omega),
    padded_two (n := d.month) (by unfold IsDate at hvalid; omega), padded_two hday]
  rfl

theorem leadingDate_iso (d : Date) (rest : List Char) :
    leadingDate (d.isoChars ++ rest) = .ok (some d) := by
  obtain ⟨hy, hy', hm, hm', hd, hd'⟩ := d.valid
  have hday := day_lt d
  have hyear : d.year / 100 * 100 + d.year % 100 = d.year := by omega
  have hsize : ¬ size (d.isoChars ++ rest) < 10 := by
    have hlength := length_le_size (d.isoChars ++ rest)
    rw [isoChars_eq] at hlength ⊢
    simp only [List.length_append, List.length_cons, List.length_nil] at hlength
    omega
  have hcentury : twoDigits (d.isoChars ++ rest) 0
      "invalid character in year" = .ok (d.year / 100) :=
    twoDigits_eq (by omega) (by rw [isoChars_eq]; rfl) (by rw [isoChars_eq]; rfl)
  have hrest : twoDigits (d.isoChars ++ rest) 2 "invalid character in year" = .ok (d.year % 100) :=
    twoDigits_eq (by omega) (by rw [isoChars_eq]; rfl) (by rw [isoChars_eq]; rfl)
  have hmonth : twoDigits (d.isoChars ++ rest) 5 "invalid character in month" = .ok d.month :=
    twoDigits_eq (by omega) (by rw [isoChars_eq]; rfl) (by rw [isoChars_eq]; rfl)
  have hdayDigits : twoDigits (d.isoChars ++ rest) 8 "invalid character in day" = .ok d.day :=
    twoDigits_eq hday (by rw [isoChars_eq]; rfl) (by rw [isoChars_eq]; rfl)
  have hdash : (d.isoChars ++ rest)[4]? = some '-' := by rw [isoChars_eq]; rfl
  have hdash' : (d.isoChars ++ rest)[7]? = some '-' := by rw [isoChars_eq]; rfl
  have hmonthRange : ¬ (d.month < 1 ∨ 12 < d.month) := by omega
  have hdayRange : ¬ (d.day < 1 ∨ daysInMonth d.year d.month < d.day) := by omega
  simp only [leadingDate, hsize, if_false, hcentury, hrest, hmonth, hdayDigits,
    demand_eq ['-'] hdash (by decide), demand_eq ['-'] hdash' (by decide),
    hmonthRange, hyear, hdayRange, Date.of?_self, bind, Except.bind, pure, Except.pure]

/-- **A date is read back.** -/
theorem readInputDate_iso (d : Date) : readInputDate d.iso.toList = .ok d := by
  have hread := leadingDate_iso d []
  rw [List.append_nil] at hread
  have hlength : ¬ 10 < d.isoChars.length := by
    rw [isoChars_eq]
    simp
  simp only [readInputDate, Date.iso, String.toList_ofList, hread, hlength, if_false]

/-! ## Times -/

/-- The characters of the offset in an exchange text. -/
def zuluOffset : Option Offset → List Char
  | none => []
  | some o =>
    if o.microseconds = 0 then ['Z']
    else (if o.microseconds < 0 then '-' else '+')
      :: padded 2 (o.microseconds.natAbs / 60000000 / 60)
        ++ ':' :: padded 2 (o.microseconds.natAbs / 60000000 % 60)

theorem toList_zulu (t : Timestamp) :
    t.zulu.toList = t.date.isoChars ++ 'T' :: t.clockChars ++ zuluOffset t.offset := by
  unfold Timestamp.zulu zuluOffset
  cases t.offset with
  | none => simp
  | some o =>
    simp only
    split <;> simp

/-- The six characters of an offset that is not zero. -/
theorem zuluOffset_eq {o : Offset} (h : o.microseconds ≠ 0) :
    zuluOffset (some o) = [if o.microseconds < 0 then '-' else '+',
      (o.microseconds.natAbs / 60000000 / 60 / 10).digitChar,
      (o.microseconds.natAbs / 60000000 / 60 % 10).digitChar, ':',
      (o.microseconds.natAbs / 60000000 % 60 / 10).digitChar,
      (o.microseconds.natAbs / 60000000 % 60 % 10).digitChar] := by
  have hvalid := o.valid
  rw [microsecondsPerDay] at hvalid
  rw [zuluOffset, if_neg h, padded_two (by omega), padded_two (by omega)]
  rfl

/-- An offset behind the rest of a text is read back. -/
theorem offsetAt_zulu (head : List Char) (offset : Option Offset) :
    offsetAt (head ++ zuluOffset offset) head.length =
      .ok (offset.map Offset.reread, (head ++ zuluOffset offset).length) := by
  have hat : ∀ k, (head ++ zuluOffset offset)[head.length + k]? = (zuluOffset offset)[k]? := by
    intro k
    rw [List.getElem?_append_right (Nat.le_add_right ..), Nat.add_sub_cancel_left]
  have hhead := hat 0
  rw [Nat.add_zero] at hhead
  rw [offsetAt, hhead]
  cases offset with
  | none => simp [zuluOffset, pure, Except.pure]
  | some o =>
    by_cases hzero : o.microseconds = 0
    · have hreread : o.reread = { Offset.utc with fromInput := true } := by
        simp [Offset.reread, Offset.utc, hzero]
      simp only [zuluOffset, hzero, if_true, List.getElem?_cons_zero, true_or,
        Option.map_some, hreread, List.length_append, List.length_singleton]
      rfl
    · have hvalid := o.valid
      rw [microsecondsPerDay] at hvalid
      have hchars := zuluOffset_eq hzero
      have hhour : twoDigits (head ++ zuluOffset (some o)) (head.length + 1)
          "invalid timezone hour" = .ok (o.microseconds.natAbs / 60000000 / 60) :=
        twoDigits_eq (by omega) (by rw [hat, hchars]; rfl) (by rw [Nat.add_assoc, hat, hchars]; rfl)
      have hminute : twoDigits (head ++ zuluOffset (some o)) (head.length + 4)
          "invalid timezone minute" = .ok (o.microseconds.natAbs / 60000000 % 60) :=
        twoDigits_eq (by omega) (by rw [hat, hchars]; rfl) (by rw [Nat.add_assoc, hat, hchars]; rfl)
      have hcolon : (head ++ zuluOffset (some o))[head.length + 3]? = some ':' := by
        rw [hat, hchars]; rfl
      have hrange : ¬ 59 < o.microseconds.natAbs / 60000000 % 60 := by omega
      have hwhole : o.microseconds.natAbs / 60000000 / 60 * 60
          + o.microseconds.natAbs / 60000000 % 60 = o.microseconds.natAbs / 60000000 := by omega
      have hend : (head ++ zuluOffset (some o)).length = head.length + 6 := by
        rw [hchars]; simp
      have hsign : (head ++ zuluOffset (some o))[head.length]? =
          some (if o.microseconds < 0 then '-' else '+') := by
        rw [hhead, hchars]; rfl
      rw [← hhead, hsign, hend]
      by_cases hneg : o.microseconds < 0
      · have hreread : Offset.of? (-((o.microseconds.natAbs / 60000000 * 60000000 : Nat) : Int)) true
            = some o.reread := Offset.of?_reread (by simp [Offset.reread, hneg])
        simp only [hneg, if_true, if_false, Char.reduceEq, or_self, or_false, or_true, hhour, hcolon,
          hminute, hrange, hwhole, hreread, Option.map_some, bind, Except.bind, pure, Except.pure]
      · have hreread : Offset.of? ((o.microseconds.natAbs / 60000000 * 60000000 : Nat) : Int) true
            = some o.reread := Offset.of?_reread (by simp [Offset.reread, hneg])
        simp only [hneg, if_true, if_false, Char.reduceEq, or_self, or_false, hhour, hcolon,
          hminute, hrange, hwhole, hreread, Option.map_some, bind, Except.bind, pure, Except.pure]

/-- No offset begins like the fraction of a second. -/
theorem head_zuluOffset (offset : Option Offset) :
    ∀ c, (zuluOffset offset)[0]? = some c → c ≠ '.' ∧ c ≠ ',' ∧ isDigit c = false := by
  intro c hc
  unfold zuluOffset at hc
  split at hc
  · cases hc
  · split at hc
    · cases hc; decide
    · split at hc <;> (cases hc; decide)

theorem takeWhile_zuluOffset (offset : Option Offset) :
    (zuluOffset offset).takeWhile isDigit = [] := by
  have hhead := head_zuluOffset offset
  cases h : zuluOffset offset with
  | nil => rfl
  | cons c rest =>
    rw [h] at hhead
    simp [(hhead c rfl).2.2]

/-- The fraction of a second in a text, left out when it is zero. -/
def fraction (microsecond : Nat) : List Char :=
  if microsecond = 0 then [] else '.' :: padded 6 microsecond

/-- The first nineteen characters of the text of a timestamp. -/
def untilSeconds (t : Timestamp) : List Char :=
  t.date.isoChars ++ 'T' :: padded 2 t.hour ++ ':' :: padded 2 t.minute ++ ':' :: padded 2 t.second

theorem untilSeconds_eq (t : Timestamp) : untilSeconds t = t.date.isoChars ++
    ['T', (t.hour / 10).digitChar, (t.hour % 10).digitChar, ':', (t.minute / 10).digitChar,
      (t.minute % 10).digitChar, ':', (t.second / 10).digitChar, (t.second % 10).digitChar] := by
  obtain ⟨hh, hm, hs, -⟩ := t.valid
  rw [untilSeconds, padded_two (by omega), padded_two (by omega), padded_two (by omega)]
  simp

theorem length_untilSeconds (t : Timestamp) : (untilSeconds t).length = 19 := by
  rw [untilSeconds_eq, isoChars_eq]
  rfl

theorem toList_zulu_eq (t : Timestamp) : t.zulu.toList =
    untilSeconds t ++ (fraction t.microsecond ++ zuluOffset t.offset) := by
  rw [toList_zulu, Timestamp.clockChars, untilSeconds, fraction]
  simp

/-- Seconds with their fraction are read back. -/
theorem secondsAt_zulu (t : Timestamp) : secondsAt t.zulu.toList 16 =
    .ok (t.second, t.microsecond, (untilSeconds t ++ fraction t.microsecond).length) := by
  obtain ⟨-, -, hs, hmicro⟩ := t.valid
  have hat : ∀ k, t.zulu.toList[19 + k]? =
      (fraction t.microsecond ++ zuluOffset t.offset)[k]? := by
    intro k
    rw [toList_zulu_eq, List.getElem?_append_right (by rw [length_untilSeconds]; omega),
      length_untilSeconds, Nat.add_sub_cancel_left]
  have hcolon : t.zulu.toList[16]? = some ':' := by
    rw [toList_zulu_eq, untilSeconds_eq, isoChars_eq]; rfl
  have hsecond : twoDigits t.zulu.toList 17 "invalid character in second" = .ok t.second :=
    twoDigits_eq (by omega) (by rw [toList_zulu_eq, untilSeconds_eq, isoChars_eq]; rfl)
      (by rw [toList_zulu_eq, untilSeconds_eq, isoChars_eq]; rfl)
  have hrange : ¬ 59 < t.second := by omega
  have hmark := hat 0
  rw [Nat.add_zero] at hmark
  simp only [secondsAt, hcolon, if_true, hsecond, hrange, if_false, hmark, bind, Except.bind,
    pure, Except.pure]
  by_cases hzero : t.microsecond = 0
  · have hhead := head_zuluOffset t.offset
    have hnot : ¬ ((zuluOffset t.offset)[0]? = some '.' ∨ (zuluOffset t.offset)[0]? = some ',') := by
      rintro (h | h)
      · exact (hhead _ h).1 rfl
      · exact (hhead _ h).2.1 rfl
    simp only [fraction, hzero, if_true, List.nil_append, List.append_nil, hnot, if_false,
      length_untilSeconds]
  · have hdrop : t.zulu.toList.drop 20 = padded 6 t.microsecond ++ zuluOffset t.offset := by
      rw [toList_zulu_eq, List.drop_append, length_untilSeconds,
        List.drop_eq_nil_of_le (by rw [length_untilSeconds]; omega), fraction, if_neg hzero]
      rfl
    have hdigits : (t.zulu.toList.drop 20).takeWhile isDigit = padded 6 t.microsecond := by
      rw [hdrop, List.takeWhile_append_of_pos (isDigit_of_mem_padded hmicro),
        takeWhile_zuluOffset, List.append_nil]
    have hlength : (padded 6 t.microsecond).length = 6 := length_padded hmicro
    have htake : (padded 6 t.microsecond).take 6 = padded 6 t.microsecond :=
      List.take_of_length_le (by omega)
    have hnonempty : (padded 6 t.microsecond).isEmpty = false := by
      rw [List.isEmpty_eq_false_iff]
      intro hnil
      rw [hnil] at hlength
      cases hlength
    have hvalue : natOfDigits (padded 6 t.microsecond) = t.microsecond :=
      natOfDigits_padded hmicro
    have hfraction : fraction t.microsecond = '.' :: padded 6 t.microsecond := if_neg hzero
    simp only [hfraction, List.cons_append, List.getElem?_cons_zero, true_or, if_true, hdigits,
      hnonempty, Bool.false_eq_true, if_false, htake, hlength, hvalue, Nat.sub_self, Nat.pow_eq,
      Nat.pow_zero, Nat.mul_one, List.length_append, length_untilSeconds, List.length_cons]

/-- The time of day and the offset are read back. -/
theorem trailingTime_zulu (t : Timestamp) : trailingTime t.zulu.toList =
    .ok ((t.hour, t.minute, t.second, t.microsecond), t.offset.map Offset.reread) := by
  obtain ⟨hh, hm, -, -⟩ := t.valid
  have hseparator : t.zulu.toList[10]? = some 'T' := by
    rw [toList_zulu_eq, untilSeconds_eq, isoChars_eq]; rfl
  have hcolon : t.zulu.toList[13]? = some ':' := by
    rw [toList_zulu_eq, untilSeconds_eq, isoChars_eq]; rfl
  have hhour : twoDigits t.zulu.toList 11 "invalid character in hour" = .ok t.hour :=
    twoDigits_eq (by omega) (by rw [toList_zulu_eq, untilSeconds_eq, isoChars_eq]; rfl)
      (by rw [toList_zulu_eq, untilSeconds_eq, isoChars_eq]; rfl)
  have hminute : twoDigits t.zulu.toList 14 "invalid character in minute" = .ok t.minute :=
    twoDigits_eq (by omega) (by rw [toList_zulu_eq, untilSeconds_eq, isoChars_eq]; rfl)
      (by rw [toList_zulu_eq, untilSeconds_eq, isoChars_eq]; rfl)
  have hsize : ¬ size t.zulu.toList < 16 := by
    have hlength := length_le_size t.zulu.toList
    rw [toList_zulu_eq, List.length_append, length_untilSeconds] at hlength
    rw [toList_zulu_eq]
    omega
  have hhourRange : ¬ 23 < t.hour := by omega
  have hminuteRange : ¬ 59 < t.minute := by omega
  have hoffset := offsetAt_zulu (untilSeconds t ++ fraction t.microsecond) t.offset
  rw [List.append_assoc, ← toList_zulu_eq] at hoffset
  simp only [trailingTime, demand_eq ['T', 't', ' ', '_'] hseparator (by decide), hsize,
    if_false, hhour, demand_eq [':'] hcolon (by decide), hminute, hhourRange,
    hminuteRange, secondsAt_zulu, hoffset, Nat.lt_irrefl, bind, Except.bind, pure, Except.pure]

theorem fullTimestamp_zulu (t : Timestamp) : fullTimestamp t.zulu.toList = .ok t.reread := by
  have hdate := leadingDate_iso t.date ('T' :: t.clockChars ++ zuluOffset t.offset)
  rw [← List.append_assoc, ← toList_zulu] at hdate
  have hself := Timestamp.of?_self t.reread
  have hwhole : Timestamp.of? t.date t.hour t.minute t.second t.microsecond
      (t.offset.map Offset.reread) = some t.reread := hself
  have hread : ∀ {α : Type} (a : α), (Except.ok a : Except String α).mapError Unread.reason =
      .ok a := fun a => rfl
  rw [fullTimestamp, hdate, trailingTime_zulu]
  simp only [hread, hwhole, bind, Except.bind, pure, Except.pure]

/-- **A timestamp is read back**, with its offset in whole minutes. -/
theorem readInputTimestamp_zulu (t : Timestamp) :
    readInputTimestamp t.zulu.toList = .ok t.reread := by
  rw [readInputTimestamp, fullTimestamp_zulu]

end Calendar

namespace Timestamp

@[simp] theorem reading_reread (t : Timestamp) : t.reread.reading = t.reading := rfl

theorem instant?_reread (t : Timestamp) :
    t.reread.instant? = t.offset.map fun o => t.reading - o.reread.microseconds := by
  rw [instant?, reread, Option.map_map]
  rfl

/-- With whole minutes the instant stays. -/
theorem IsMinutely.instant?_reread {t : Timestamp} (h : t.IsMinutely) :
    t.reread.instant? = t.instant? := by
  rw [Timestamp.instant?_reread, instant?]
  cases hoffset : t.offset with
  | none => rfl
  | some o => rw [Option.map_some, Option.map_some, Offset.microseconds_reread_eq_iff.2 (h o hoffset)]

/-- **What is read back is the same point in time just for offsets of whole minutes.** -/
theorem same_reread_iff {t : Timestamp} : t.reread.same t = true ↔ t.IsMinutely := by
  rw [same, Timestamp.instant?_reread, instant?, IsMinutely]
  cases t.offset with
  | none => simp
  | some o =>
    simp only [Option.map_some, beq_iff_eq, Option.some.injEq, forall_eq']
    rw [← Offset.microseconds_reread_eq_iff]
    omega

end Timestamp

end DocMapper
