import DocMapper.Data.Dict
/-!
# Punycode

A text with letters of all scripts, written in the letters, digits and hyphens of plain domain names:
first the plain characters of the text, then for each other character, in ascending order, how far it
is from the one before. The distances are written in base 36 with a threshold for each digit that
follows the distances written so far (`Punycode.adapt`).

`Punycode.encode` writes a text in this way and `Punycode.decode?` reads one back.
-/

namespace DocMapper.Http.Punycode

/-- The character of a digit: a letter, or from 26 on a decimal digit. -/
def digit (n : Nat) : Char :=
  if n < 26 then Char.ofNat ('a'.toNat + n) else Char.ofNat ('0'.toNat + (n - 26))

/-- The digit that a small letter or a decimal digit stands for. -/
def value? (c : Char) : Option Nat :=
  if 'a' ≤ c ∧ c ≤ 'z' then some (c.toNat - 'a'.toNat)
  else if '0' ≤ c ∧ c ≤ '9' then some (c.toNat - '0'.toNat + 26)
  else none

/-- The threshold of the digit at a place, counted in steps of 36, under a bias. -/
def threshold (bias place : Nat) : Nat := min 26 (max 1 (place - bias))

theorem threshold_pos (bias place : Nat) : 1 ≤ threshold bias place := by
  unfold threshold; omega

theorem threshold_le (bias place : Nat) : threshold bias place ≤ 26 := by
  unfold threshold; omega

/-- The digits of a distance from a place on. -/
def digits (bias place distance : Nat) : List Char :=
  let t := threshold bias place
  if distance < t then [digit distance]
  else digit (t + (distance - t) % (36 - t))
    :: digits bias (place + 36) ((distance - t) / (36 - t))
termination_by distance
decreasing_by
  have := threshold_pos bias place
  have := threshold_le bias place
  calc (distance - threshold bias place) / (36 - threshold bias place)
      ≤ distance - threshold bias place := Nat.div_le_self _ _
    _ < distance := by omega

/-- How often a distance is too large for the last places, and what is left of it. -/
def reduce (distance steps : Nat) : Nat × Nat :=
  if 455 < distance then reduce (distance / 35) (steps + 36) else (distance, steps)
termination_by distance

/-- The bias after a distance: the first one counts less, and all are spread over the characters
written so far. -/
def adapt (distance written : Nat) (first : Bool) : Nat :=
  let scaled := if first then distance / 700 else distance / 2
  let (left, steps) := reduce (scaled + scaled / written) 0
  steps + 36 * left / (left + 38)

/-! ## Writing -/

/-- What has been written: the digits, the distance since then, and the bias. -/
structure Written where
  digits : List Char := []
  distance : Nat := 0
  bias : Nat := 72
  /-- how many characters of the text are written -/
  count : Nat

/-- Passes one character of the text while the characters of a code point are written. -/
def pass (plain point : Nat) (w : Written) (c : Char) : Written :=
  if c.toNat < point then { w with distance := w.distance + 1 }
  else if c.toNat = point then
    { digits := w.digits ++ Punycode.digits w.bias 36 w.distance
      distance := 0
      bias := adapt w.distance (w.count + 1) (w.count == plain)
      count := w.count + 1 }
  else w

/-- Writes the characters of some code points, in ascending order; all below `next` are written. -/
def write (text : List Char) (plain : Nat) : List Nat → Nat → Written → Written
  | [], _, w => w
  | point :: points, next, w =>
    let w := { w with distance := w.distance + (point - next) * (w.count + 1) }
    let w := text.foldl (pass plain point) w
    write text plain points (point + 1) { w with distance := w.distance + 1 }

/-- Whether a character is among those that plain domain names are written in. -/
def isPlain (c : Char) : Bool := c.toNat < 128

/-- A text in punycode. -/
def encode (text : List Char) : List Char :=
  let plain := text.filter isPlain
  let points := ((text.filter fun c => !isPlain c).map Char.toNat).mergeSort.eraseDups
  let written := write text plain.length points 128 { count := plain.length }
  plain ++ (if plain.isEmpty then [] else ['-']) ++ written.digits

/-! ## Reading -/

/-- Reads the digits of a distance from a place on, and gives what is left behind it. -/
def distance? (bias place weight sum : Nat) : List Char → Option (Nat × List Char)
  | [] => none
  | c :: rest => do
    let n ← value? c
    let t := threshold bias place
    if n < t then some (sum + n * weight, rest)
    else distance? bias (place + 36) (weight * (36 - t)) (sum + n * weight) rest

theorem length_of_distance? {text : List Char} {bias place weight sum : Nat}
    {r : Nat × List Char} (h : distance? bias place weight sum text = some r) :
    r.2.length < text.length := by
  induction text generalizing place weight sum with
  | nil => simp [distance?] at h
  | cons c rest ih =>
    unfold distance? at h
    cases hv : value? c with
    | none => simp [hv] at h
    | some n =>
      simp only [hv, Option.bind_eq_bind, Option.bind_some] at h
      split at h
      · cases h; simp
      · have := ih h
        simp; omega

/-- Puts the characters of some distances into a text. -/
def insert? (bias point place : Nat) (done : List Char) (rest : List Char) : Option (List Char) :=
  match rest with
  | [] => some done
  | c :: tail =>
    match _h : distance? bias 36 1 place (c :: tail) with
    | none => none
    | some (sum, left) =>
      let count := done.length + 1
      let point' := point + sum / count
      if point'.isValidChar then
        insert? (adapt (sum - place) count (point == 128 && place == 0 && bias == 72)) point'
          (sum % count + 1) (done.insertIdx (sum % count) (Char.ofNat point')) left
      else none
termination_by rest.length
decreasing_by simpa using length_of_distance? _h

/-- The text that punycode stands for. -/
def decode? (text : List Char) : Option (List Char) :=
  let ending := (text.reverse.takeWhile (· ≠ '-')).reverse
  let plain := text.take (text.length - ending.length)
  insert? 72 128 0 (plain.take (plain.length - 1)) ending

end DocMapper.Http.Punycode
