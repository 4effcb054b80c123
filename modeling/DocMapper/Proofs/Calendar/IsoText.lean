import DocMapper.Calendar.Iso
import DocMapper.Proofs.Calendar.InputText
/-!
# Canonical texts are read back

The reader of the international notation measures a text in bytes and finds its parts by position. In
the canonical texts, which are plain, it finds what was written: a date (`Date.ofIso?_iso`), and a
timestamp (`Timestamp.ofIso?_iso`) unless its offset is shorter than a second without being zero,
which is read as universal time.
-/

namespace DocMapper

namespace Offset

/-- The offset, given rather than worked out from input. -/
def given (o : Offset) : Offset := { o with fromInput := false }

/-- The reader tells the offset from universal time: it is zero, or at least a second long. -/
def IsLegible (o : Offset) : Prop := o.microseconds = 0 ∨ 1000000 ≤ o.microseconds.natAbs

/-- The offset that the reader takes its text for: universal time if it is shorter than a second. -/
def asRead (o : Offset) : Offset := if o.microseconds.natAbs < 1000000 then .utc else o.given

theorem asRead_of_isLegible {o : Offset} (h : o.IsLegible) : o.asRead = o.given := by
  rw [asRead]
  split
  · have hzero : o.microseconds = 0 := h.resolve_right (by omega)
    simp [given, utc, hzero]
  · rfl

theorem isLegible_of_asRead {o : Offset} (h : o.asRead = o.given) : o.IsLegible := by
  rw [asRead] at h
  split at h
  · exact Or.inl (congrArg microseconds h).symm
  · exact Or.inr (by omega)

@[simp] theorem given_asRead (o : Offset) : o.asRead.given = o.asRead := by
  rw [asRead]
  split <;> rfl

end Offset

namespace Timestamp

/-- The timestamp with an offset that is given rather than worked out from input. -/
def given (t : Timestamp) : Timestamp := { t with offset := t.offset.map Offset.given }

/-- The reader tells the offset from universal time, if there is one. -/
def IsLegible (t : Timestamp) : Prop := ∀ o, t.offset = some o → o.IsLegible

/-- The timestamp that the reader takes its text for. -/
def asRead (t : Timestamp) : Timestamp := { t with offset := t.offset.map Offset.asRead }

theorem asRead_of_isLegible {t : Timestamp} (h : t.IsLegible) : t.asRead = t.given := by
  rw [asRead, given]
  cases hoffset : t.offset with
  | none => rfl
  | some o => simp only [Option.map_some, Offset.asRead_of_isLegible (h o hoffset)]

theorem isLegible_of_asRead {t : Timestamp} (h : t.asRead = t.given) : t.IsLegible := by
  intro o ho
  have hoffset : t.offset.map Offset.asRead = t.offset.map Offset.given := congrArg offset h
  rw [ho] at hoffset
  exact Offset.isLegible_of_asRead (Option.some.inj hoffset)

@[simp] theorem given_asRead (t : Timestamp) : t.asRead.given = t.asRead := by
  simp only [asRead, given, Option.map_map]
  congr 1
  exact congrFun (congrArg Option.map (funext Offset.given_asRead)) t.offset

end Timestamp

namespace Calendar

/-! ## Numbers -/

theorem takeNumber?_padded {w n : Nat} (h : n < Nat.pow 10 (w + 1)) (rest : List Char) :
    takeNumber? (w + 1) (padded (w + 1) n ++ rest) = some (n, rest) := by
  have hlength := length_padded h
  have htake : (padded (w + 1) n ++ rest).take (w + 1) = padded (w + 1) n := List.take_left' hlength
  have hdrop : (padded (w + 1) n ++ rest).drop (w + 1) = rest := List.drop_left' hlength
  have hdigits : (padded (w + 1) n).all isDigit = true :=
    List.all_eq_true.2 (isDigit_of_mem_padded h)
  rw [takeNumber?, htake, hdrop, if_pos ⟨hlength, hdigits⟩, natOfDigits_padded h]

/-- Two digits in front are taken as a number. -/
theorem takeNumber?_two {n : Nat} (h : n < 100) (rest : List Char) :
    takeNumber? 2 ((n / 10).digitChar :: (n % 10).digitChar :: rest) = some (n, rest) := by
  have htake := takeNumber?_padded (w := 1) h rest
  rwa [padded_two h] at htake

/-! ## Plain texts -/

/-- Whether a character is measured as one unit. -/
def IsPlain (c : Char) : Prop := c.utf8Size = 1

theorem units_of_isPlain {text : List Char} (h : ∀ c ∈ text, IsPlain c) : units text = text := by
  induction text with
  | nil => rfl
  | cons c rest ih =>
    obtain ⟨hc, hrest⟩ := List.forall_mem_cons.1 h
    rw [units, List.flatMap_cons, ← units, ih hrest, hc]
    rfl

theorem isPlain_of_isDigit {c : Char} (h : isDigit c = true) : IsPlain c := by
  rw [isDigit, Bool.and_eq_true, decide_eq_true_eq, decide_eq_true_eq] at h
  have hle : c.val ≤ '9'.val := h.2
  rw [IsPlain, Char.utf8Size, if_pos (UInt32.le_trans hle (by decide))]

/-- The text is made of digits and of the marks that are allowed. -/
def IsWritten (allowed text : List Char) : Prop := ∀ c ∈ text, isDigit c = true ∨ c ∈ allowed

/-- The marks of canonical texts. -/
def marks : List Char := ['-', ':', '.', 'T', '+']

/-- The marks of clock readings. -/
def clockMarks : List Char := [':', '.']

variable {allowed text other : List Char}

theorem IsWritten.append (h : IsWritten allowed text) (h' : IsWritten allowed other) :
    IsWritten allowed (text ++ other) := List.forall_mem_append.2 ⟨h, h'⟩

theorem IsWritten.mark {c : Char} (hc : c ∈ allowed) (h : IsWritten allowed text) :
    IsWritten allowed (c :: text) := List.forall_mem_cons.2 ⟨Or.inr hc, h⟩

theorem IsWritten.of_clock (h : IsWritten clockMarks text) : IsWritten marks text := by
  have hall : clockMarks ⊆ marks := by simp [clockMarks, marks]
  exact fun c hc => (h c hc).imp_right fun hmark => hall hmark

theorem isWritten_padded (allowed : List Char) {w n : Nat} (h : n < Nat.pow 10 (w + 1)) :
    IsWritten allowed (padded (w + 1) n) := fun c hc => Or.inl (isDigit_of_mem_padded h c hc)

theorem isWritten_two (allowed : List Char) {n : Nat} (h : n < 100) :
    IsWritten allowed (padded 2 n) := isWritten_padded allowed (w := 1) h

/-- A canonical text is measured by its characters. -/
theorem IsWritten.units_eq (h : IsWritten marks text) : units text = text := by
  refine units_of_isPlain fun c hc => ?_
  rcases h c hc with hdigit | hmark
  · exact isPlain_of_isDigit hdigit
  · simp only [marks, List.mem_cons, List.not_mem_nil, or_false] at hmark
    rcases hmark with rfl | rfl | rfl | rfl | rfl <;> exact rfl

/-- No mark of a clock reading starts an offset. -/
theorem IsWritten.startsOffset_eq (h : IsWritten clockMarks text) :
    ∀ c ∈ text, startsOffset c = false := by
  intro c hc
  rcases h c hc with hdigit | hmark
  · rw [← Bool.not_eq_true, startsOffset, Bool.or_eq_true, Bool.or_eq_true, beq_iff_eq, beq_iff_eq,
      beq_iff_eq]
    rintro ((rfl | rfl) | rfl) <;> cases hdigit
  · simp only [clockMarks, List.mem_cons, List.not_mem_nil, or_false] at hmark
    rcases hmark with rfl | rfl <;> rfl

/-! ## Dates -/

theorem isWritten_date (d : Date) : IsWritten marks d.isoChars := by
  obtain ⟨-, hy, -, hm, -, -⟩ := d.valid
  have hyear : IsWritten marks (padded 4 d.year) :=
    isWritten_padded _ (w := 3) (by simp only [Nat.pow_eq]; omega)
  have hday := day_lt d
  exact (hyear.append ((isWritten_two _ (by omega)).mark (by decide))).append
    ((isWritten_two _ hday).mark (by decide))

theorem length_isoChars (d : Date) : d.isoChars.length = 10 := by
  rw [isoChars_eq]
  rfl

theorem digitChar_ne {n : Nat} (hn : n < 10) {c : Char} (hc : isDigit c = false) :
    n.digitChar ≠ c := by
  rintro rfl
  rw [isDigit_digitChar hn] at hc
  cases hc

/-- A canonical date at the start of a text is read, whatever length is reserved for it. -/
theorem readDate?_iso (length : Nat) (d : Date) (rest : List Char) :
    readDate? length (d.isoChars ++ rest) = some d := by
  obtain ⟨-, hy, -, hm, -, -⟩ := d.valid
  have hday := day_lt d
  have hyear : d.year < Nat.pow 10 4 := by simp only [Nat.pow_eq]; omega
  have htext : d.isoChars ++ rest = padded 4 d.year ++
      '-' :: (d.month / 10).digitChar :: (d.month % 10).digitChar :: '-'
        :: (d.day / 10).digitChar :: (d.day % 10).digitChar :: rest := by
    rw [Date.isoChars, padded_two (n := d.month) (by omega), padded_two hday]
    simp
  have hweek : (d.month / 10).digitChar ≠ 'W' := digitChar_ne (by omega) (by decide)
  rw [htext, readDate?, takeNumber?_padded hyear]
  simp [hweek, takeNumber?_two (n := d.month) (by omega), takeNumber?_two hday]

/-! ## Clock readings -/

theorem isWritten_fraction {microsecond : Nat} (h : microsecond < 1000000) :
    IsWritten clockMarks (fraction microsecond) := by
  rw [fraction]
  split
  · exact List.forall_mem_nil _
  · exact (isWritten_padded _ (w := 5) h).mark (by decide)

/-- A clock reading to the second, with its fraction. -/
def clockText (hour minute second microsecond : Nat) : List Char :=
  padded 2 hour ++ ':' :: padded 2 minute ++ ':' :: padded 2 second ++ fraction microsecond

theorem isWritten_clockText {hour minute second microsecond : Nat}
    (h : IsTime hour minute second microsecond) :
    IsWritten clockMarks (clockText hour minute second microsecond) := by
  obtain ⟨hh, hm, hs, hmicro⟩ := h
  exact (((isWritten_two _ (by omega)).append ((isWritten_two _ (by omega)).mark (by decide))).append
    ((isWritten_two _ (by omega)).mark (by decide))).append (isWritten_fraction hmicro)

theorem readFraction?_padded (followed : Bool) {microsecond : Nat} (h : microsecond < 1000000) :
    readFraction? followed (padded 6 microsecond) = some (microsecond, followed) := by
  have hlength : (padded 6 microsecond).length = 6 := length_padded h
  have htake := takeNumber?_padded (w := 5) h []
  rw [List.append_nil] at htake
  simp [readFraction?, hlength, htake]

/-- A clock reading is read, whether or not something follows it. -/
theorem readClock?_clockText (followed : Bool) {hour minute second microsecond : Nat}
    (h : IsTime hour minute second microsecond) :
    readClock? followed (clockText hour minute second microsecond) =
      some ⟨hour, minute, second, microsecond, followed⟩ := by
  obtain ⟨hh, hm, hs, hmicro⟩ := h
  have htext : clockText hour minute second microsecond =
      (hour / 10).digitChar :: (hour % 10).digitChar :: ':'
        :: (minute / 10).digitChar :: (minute % 10).digitChar :: ':'
        :: (second / 10).digitChar :: (second % 10).digitChar :: fraction microsecond := by
    rw [clockText, padded_two (by omega), padded_two (by omega), padded_two (by omega)]
    simp
  have hminute := takeNumber?_two (n := minute) (by omega)
    (':' :: (second / 10).digitChar :: (second % 10).digitChar :: fraction microsecond)
  have hsecond := takeNumber?_two (n := second) (by omega) (fraction microsecond)
  rw [htext, readClock?, takeNumber?_two (by omega)]
  by_cases hzero : microsecond = 0
  · have hnone : fraction microsecond = [] := if_pos hzero
    rw [hnone] at hminute hsecond ⊢
    simp [hminute, hsecond, hzero]
  · have hread := readFraction?_padded followed hmicro
    obtain ⟨digit, digits, hdigits⟩ : ∃ digit digits, padded 6 microsecond = digit :: digits :=
      List.exists_cons_of_length_eq_add_one (length_padded (w := 5) hmicro)
    have hsome : fraction microsecond = '.' :: digit :: digits := by
      rw [fraction, if_neg hzero, hdigits]
    rw [hsome] at hminute hsecond ⊢
    rw [hdigits] at hread
    simp [hminute, hsecond, hread]

/-- Hours and minutes alone are read. -/
theorem readClock?_short {hour minute : Nat} (hh : hour < 24) (hm : minute < 60) :
    readClock? false (padded 2 hour ++ ':' :: padded 2 minute) =
      some ⟨hour, minute, 0, 0, false⟩ := by
  have hminute := takeNumber?_two (n := minute) (by omega) []
  rw [padded_two (n := minute) (by omega), readClock?, takeNumber?_padded (w := 1) (show hour < 100 by omega)]
  simp [hminute]

/-! ## Offsets -/

/-- The seconds of an offset, whatever its direction. -/
def wholeSeconds (o : Offset) : Nat := o.microseconds.natAbs / 1000000

/-- The part of an offset that is no whole second, whatever its direction. -/
def restOfSecond (o : Offset) : Nat := o.microseconds.natAbs % 1000000

/-- The text of an offset without its sign. -/
def offsetClock (o : Offset) : List Char :=
  if wholeSeconds o % 60 = 0 ∧ restOfSecond o = 0 then
    padded 2 (wholeSeconds o / 3600) ++ ':' :: padded 2 (wholeSeconds o / 60 % 60)
  else
    clockText (wholeSeconds o / 3600) (wholeSeconds o / 60 % 60) (wholeSeconds o % 60)
      (restOfSecond o)

theorem offsetText_eq (o : Offset) :
    offsetText o = (if o.microseconds < 0 then '-' else '+') :: offsetClock o := by
  unfold offsetText offsetClock wholeSeconds restOfSecond
  by_cases hshort : o.microseconds.natAbs / 1000000 % 60 = 0 ∧ o.microseconds.natAbs % 1000000 = 0
  · simp [hshort]
  · simp [hshort, clockText, fraction]

theorem isTime_offset (o : Offset) : IsTime (wholeSeconds o / 3600) (wholeSeconds o / 60 % 60)
    (wholeSeconds o % 60) (restOfSecond o) := by
  have hvalid := o.valid
  rw [microsecondsPerDay] at hvalid
  unfold IsTime wholeSeconds restOfSecond
  omega

theorem isWritten_offset (o : Offset) : IsWritten marks (offsetText o) := by
  have htime := isTime_offset o
  rw [offsetText_eq, offsetClock]
  have hsign : (if o.microseconds < 0 then '-' else '+') ∈ marks := by
    split <;> decide
  refine IsWritten.mark hsign ?_
  split
  · obtain ⟨hh, hm, -, -⟩ := htime
    exact (isWritten_two _ (by omega)).append ((isWritten_two _ (by omega)).mark (by decide))
  · exact (isWritten_clockText htime).of_clock

theorem readClock?_offset (o : Offset) : readClock? false (offsetClock o) =
    some ⟨wholeSeconds o / 3600, wholeSeconds o / 60 % 60, wholeSeconds o % 60, restOfSecond o,
      false⟩ := by
  have htime := isTime_offset o
  rw [offsetClock]
  split
  · rename_i hshort
    rw [readClock?_short htime.1 htime.2.1, hshort.1, hshort.2]
  · exact readClock?_clockText false htime

/-- The seconds of a clock reading. -/
def ClockReading.seconds (clock : ClockReading) : Nat :=
  (clock.hour * 60 + clock.minute) * 60 + clock.second

/-- A clock reading behind a sign is an offset. -/
theorem readOffset?_signed {sign : Char} (hsign : sign ≠ 'Z') {rest : List Char}
    {clock : ClockReading} (hclock : readClock? false rest = some clock)
    (hend : clock.trailing = false) : readOffset? (sign :: rest) =
      if clock.seconds = 0 then some .utc
      else
        let microseconds : Int := (clock.seconds * 1000000 + clock.microsecond : Nat)
        Offset.of? (if sign = '-' then -microseconds else microseconds) false := by
  unfold readOffset?
  split
  · rename_i hcons
    exact absurd (List.cons.inj hcons).1 hsign
  · rename_i hcons
    obtain ⟨rfl, rfl⟩ := List.cons.inj hcons
    rw [hclock]
    simp only [Option.bind_eq_bind, Option.bind_some, hend, Bool.false_eq_true, if_false]
    rfl
  · rename_i hcons
    cases hcons

/-- **An offset is read back**, but for one that is shorter than a second. -/
theorem readOffset?_offsetText (o : Offset) : readOffset? (offsetText o) = some o.asRead := by
  have hsign : (if o.microseconds < 0 then '-' else '+') ≠ 'Z' := by split <;> decide
  have hself : Offset.of? o.microseconds false = some o.given := Offset.of?_self o.given
  have hwhole : (wholeSeconds o / 3600 * 60 + wholeSeconds o / 60 % 60) * 60 + wholeSeconds o % 60 =
      wholeSeconds o := by omega
  rw [offsetText_eq, readOffset?_signed hsign (readClock?_offset o) rfl, ClockReading.seconds, hwhole,
    Offset.asRead]
  by_cases hshort : o.microseconds.natAbs < 1000000
  · have hseconds : wholeSeconds o = 0 := Nat.div_eq_of_lt hshort
    rw [if_pos hseconds, if_pos hshort]
  · have hseconds : wholeSeconds o ≠ 0 := by unfold wholeSeconds; omega
    have hmicro : wholeSeconds o * 1000000 + restOfSecond o = o.microseconds.natAbs := by
      unfold wholeSeconds restOfSecond; omega
    have hsigned : (if (if o.microseconds < 0 then '-' else '+') = '-'
        then -(o.microseconds.natAbs : Int) else o.microseconds.natAbs) = o.microseconds := by
      by_cases hneg : o.microseconds < 0
      · simp only [hneg, if_true]; omega
      · simp only [hneg, if_false, Char.reduceEq]; omega
    simp only [hseconds, if_false, hmicro, hsigned, hself, hshort]

/-! ## Timestamps -/

theorem clockChars_eq (t : Timestamp) :
    t.clockChars = clockText t.hour t.minute t.second t.microsecond := rfl

/-- The text of an offset that may be absent. -/
def offsetPart : Option Offset → List Char
  | none => []
  | some o => offsetText o

theorem isoChars_timestamp (separator : Char) (t : Timestamp) : t.isoChars separator =
    t.date.isoChars ++ separator :: (t.clockChars ++ offsetPart t.offset) := by
  cases hoffset : t.offset <;> simp [Timestamp.isoChars, offsetPart, hoffset]

theorem isWritten_timestamp (t : Timestamp) : IsWritten marks (t.isoChars 'T') := by
  rw [isoChars_timestamp]
  refine (isWritten_date t.date).append (IsWritten.mark (by decide) ?_)
  refine ((isWritten_clockText t.valid).of_clock).append ?_
  cases t.offset with
  | none => exact List.forall_mem_nil _
  | some o => exact isWritten_offset o

/-- The offset begins where the clock reading ends. -/
theorem span_offsetPart {clock : List Char} (h : IsWritten clockMarks clock)
    (offset : Option Offset) :
    (clock ++ offsetPart offset).takeWhile (fun c => !startsOffset c) = clock ∧
      (clock ++ offsetPart offset).dropWhile (fun c => !startsOffset c) = offsetPart offset := by
  have hpass : ∀ c ∈ clock, (!startsOffset c) = true := by simpa using h.startsOffset_eq
  rw [List.takeWhile_append_of_pos hpass, List.dropWhile_append_of_pos hpass]
  cases offset with
  | none => simp [offsetPart]
  | some o =>
    rw [offsetPart, offsetText_eq]
    split <;> simp [startsOffset]

/-- A time of day with its offset is read. -/
theorem readTime?_iso (t : Timestamp) :
    readTime? t.date (t.clockChars ++ offsetPart t.offset) = some t.asRead := by
  obtain ⟨htake, hdrop⟩ := span_offsetPart (isWritten_clockText t.valid) t.offset
  rw [← clockChars_eq] at htake hdrop
  have hself := Timestamp.of?_self t.asRead
  have hclock := readClock?_clockText (!(offsetPart t.offset).isEmpty) t.valid
  rw [← clockChars_eq] at hclock
  simp only [readTime?, htake, hdrop, hclock, Option.bind_eq_bind, Option.bind_some]
  cases hoffset : t.offset with
  | none =>
    simp only [Timestamp.asRead, hoffset] at hself ⊢
    exact hself
  | some o =>
    have hread := readOffset?_offsetText o
    have hsome : (offsetText o).isEmpty = false := by rw [offsetText_eq]; rfl
    simp only [Timestamp.asRead, hoffset, Option.map_some] at hself ⊢
    simp only [offsetPart, hsome, hread, Option.bind_some, Bool.false_eq_true, if_false]
    exact hself

/-- The date ends where the canonical text of it does. -/
theorem dateLength_iso (d : Date) (rest : List Char) : dateLength (d.isoChars ++ rest) = 10 := by
  have hlength : (d.isoChars ++ rest).length ≠ 7 := by
    rw [List.length_append, length_isoChars]; omega
  have hvalid := d.valid.2.2.2.1
  have hmonth : (d.month / 10).digitChar ≠ 'W' := digitChar_ne (by omega) (by decide)
  rw [dateLength, if_neg hlength, isoChars_eq]
  simp [hmonth]

/-- A timestamp is read from its characters. -/
theorem readTimestamp?_iso (t : Timestamp) :
    readTimestamp? (t.isoChars 'T') = some t.asRead := by
  have htime := readTime?_iso t
  have hdate := readDate?_iso 10 t.date ('T' :: (t.clockChars ++ offsetPart t.offset))
  have hlength : ¬ (t.date.isoChars ++ 'T' :: (t.clockChars ++ offsetPart t.offset)).length < 7 := by
    rw [List.length_append, length_isoChars]; omega
  have hdrop : (t.date.isoChars ++ 'T' :: (t.clockChars ++ offsetPart t.offset)).drop 10 =
      'T' :: (t.clockChars ++ offsetPart t.offset) := List.drop_left' (length_isoChars t.date)
  have hstart : (t.clockChars ++ offsetPart t.offset).dropWhile (· = continuation) =
      t.clockChars ++ offsetPart t.offset := by
    have hhour := t.valid.1
    have hdigit : (t.hour / 10).digitChar ≠ continuation := digitChar_ne (by omega) (by decide)
    rw [clockChars_eq, clockText, padded_two (n := t.hour) (by omega)]
    simp [hdigit]
  rw [isoChars_timestamp, readTimestamp?, if_neg hlength, dateLength_iso]
  simp only [hdate, hdrop, hstart, htime, Option.bind_eq_bind, Option.bind_some]

/-! ## What the texts tell -/

/-- The text of an offset tells the offset. -/
theorem offsetText_inj {o p : Offset} (h : offsetText o = offsetText p) :
    o.microseconds = p.microseconds := by
  rw [offsetText_eq, offsetText_eq] at h
  obtain ⟨hsign, hclock⟩ := List.cons.inj h
  have hread := readClock?_offset o
  rw [hclock, readClock?_offset p] at hread
  injection hread with hread
  injection hread with hhour hminute hsecond hrest
  have hnatAbs : o.microseconds.natAbs = p.microseconds.natAbs := by
    unfold wholeSeconds at hhour hminute hsecond
    unfold restOfSecond at hrest
    omega
  have hneg : o.microseconds < 0 ↔ p.microseconds < 0 := by
    constructor <;> intro hlt
    · by_cases hp : p.microseconds < 0
      · exact hp
      · simp [hlt, hp] at hsign
    · by_cases ho : o.microseconds < 0
      · exact ho
      · simp [hlt, ho] at hsign
  omega

theorem offsetPart_inj {o p : Option Offset} (h : offsetPart o = offsetPart p) :
    o.map Offset.given = p.map Offset.given := by
  cases o with
  | none =>
    cases p with
    | none => rfl
    | some p => rw [offsetPart, offsetPart, offsetText_eq] at h; cases h
  | some o =>
    cases p with
    | none => rw [offsetPart, offsetPart, offsetText_eq] at h; cases h
    | some p => simp only [Option.map_some, Offset.given, offsetText_inj h]

end Calendar

/-- **A date is read back.** -/
theorem Date.ofIso?_iso (d : Date) : Date.ofIso? d.iso = some d := by
  have hread := Calendar.readDate?_iso 10 d []
  rw [List.append_nil] at hread
  simp only [Date.ofIso?, Date.iso, String.toList_ofList, (Calendar.isWritten_date d).units_eq,
    Calendar.length_isoChars, hread, or_true, if_true]

/-- **The canonical text of a date tells the date.** -/
theorem Date.iso_inj {d e : Date} : d.iso = e.iso ↔ d = e := by
  constructor
  · intro h
    have hread := Date.ofIso?_iso d
    rw [h, Date.ofIso?_iso e] at hread
    exact (Option.some.inj hread).symm
  · rintro rfl
    rfl

/-- The text does not show where the offset comes from. -/
@[simp] theorem Timestamp.iso_given (t : Timestamp) : t.given.iso = t.iso := by
  obtain ⟨date, hour, minute, second, microsecond, offset, valid⟩ := t
  cases offset <;> rfl

/-- **The canonical text of a timestamp tells the timestamp**, but not where its offset comes from. -/
theorem Timestamp.iso_eq_iff {s t : Timestamp} : s.iso = t.iso ↔ s.given = t.given := by
  constructor
  · intro h
    have hchars : s.isoChars 'T' = t.isoChars 'T' := String.ofList_injective h
    rw [Calendar.isoChars_timestamp, Calendar.isoChars_timestamp] at hchars
    have hlength : s.date.isoChars.length = t.date.isoChars.length := by
      rw [Calendar.length_isoChars, Calendar.length_isoChars]
    obtain ⟨hdate, htime⟩ := List.append_inj hchars hlength
    have hdate : s.date = t.date := Date.iso_inj.1 (congrArg String.ofList hdate)
    have htime := (List.cons.inj htime).2
    obtain ⟨htake, hdrop⟩ := Calendar.span_offsetPart (Calendar.isWritten_clockText s.valid) s.offset
    obtain ⟨htake', hdrop'⟩ :=
      Calendar.span_offsetPart (Calendar.isWritten_clockText t.valid) t.offset
    rw [← Calendar.clockChars_eq, htime, Calendar.clockChars_eq t] at htake hdrop
    rw [htake'] at htake
    rw [hdrop'] at hdrop
    have hread := Calendar.readClock?_clockText false s.valid
    rw [← Calendar.clockChars_eq, ← htake, Calendar.readClock?_clockText false t.valid] at hread
    injection hread with hread
    injection hread with hhour hminute hsecond hmicro
    have hoffset := Calendar.offsetPart_inj hdrop
    simp only [given, hdate, hhour, hminute, hsecond, hmicro, hoffset]
  · intro h
    rw [← iso_given s, ← iso_given t, h]

/-- A timestamp is taken for itself exactly if its offset can be told from universal time. -/
theorem Timestamp.iso_asRead_iff {t : Timestamp} : t.asRead.iso = t.iso ↔ t.IsLegible := by
  rw [iso_eq_iff, given_asRead]
  exact ⟨isLegible_of_asRead, asRead_of_isLegible⟩

/-- **What the text of a timestamp is read as.** -/
theorem Timestamp.ofIso?_iso_eq (t : Timestamp) : Timestamp.ofIso? t.iso = some t.asRead := by
  rw [ofIso?, iso, String.toList_ofList, (Calendar.isWritten_timestamp t).units_eq,
    Calendar.readTimestamp?_iso]

/-- **A timestamp is read back** if its offset can be told from universal time. -/
theorem Timestamp.ofIso?_iso {t : Timestamp} (h : t.IsLegible) :
    Timestamp.ofIso? t.iso = some t.given := by
  rw [ofIso?_iso_eq, asRead_of_isLegible h]

end DocMapper
