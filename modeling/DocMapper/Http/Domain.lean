import DocMapper.Http.DomainTable
import DocMapper.Http.Punycode
import DocMapper.Text.Blank
/-!
# Domain names

A domain name is a row of labels between dots. A label holds letters, digits and single hyphens
inside it; a letter beyond ASCII is allowed where the rules for international names allow it
(`Domain.isLabel`). `Domain.encode?` writes a name in ASCII alone: a label with other characters
becomes its punycode behind the mark `xn--`.
-/

namespace DocMapper.Http.Domain

/-- Whether a character lies on one of some runs of code points. -/
def onRuns (runs : List (Nat × Nat × Nat)) (c : Char) : Bool :=
  runs.any fun (first, last, step) =>
    first ≤ c.toNat && c.toNat ≤ last && (c.toNat - first) % step == 0

/-- Whether a character is a mark that labels may hold. -/
def isMark (c : Char) : Bool := onRuns labelMarks c

/-- Whether a character is a letter, a digit or a hyphen that labels may hold. -/
def isLetter (c : Char) : Bool :=
  if c.toNat < 128 then ('a' ≤ c && c ≤ 'z') || c.isDigit || c == '-' else onRuns labelLetters c

/-- Whether a character and the one after it should have been written as one. -/
def compose (c next : Char) : Bool :=
  composing.any fun (mark, letters) => mark == next && letters.toList.contains c

/-- Whether a label has a character, between the text before it, backwards, and the text after it,
that is allowed in such surroundings only. -/
def isFitting (label before : List Char) (c : Char) (after : List Char) : Bool :=
  if c = '·' then before.head? == some 'l' && after.head? == some 'l'
  else if c = '\u0375' then after.head?.any (Text.inRanges greekRanges)
  else if c = '\u05f3' ∨ c = '\u05f4' then before.head?.any (Text.inRanges hebrewRanges)
  else if c = '\u30fb' then label.any (Text.inRanges japaneseRanges)
  else if '\u0660' ≤ c ∧ c ≤ '\u0669' then !label.any fun d => '\u06f0' ≤ d && d ≤ '\u06f9'
  else if '\u06f0' ≤ c ∧ c ≤ '\u06f9' then !label.any fun d => '\u0660' ≤ d && d ≤ '\u0669'
  else false

/-- Whether every character of a label is allowed where it stands. -/
def areAllowed (label before : List Char) : List Char → Bool
  | [] => true
  | c :: after =>
    (isLetter c || isMark c || isFitting label before c after)
      && areAllowed label (c :: before) after

/-! ## Directions -/

/-- Whether a character is a digit of the numbers that are written among letters from right to
left. -/
def isArabicDigit (c : Char) : Bool :=
  Text.inRanges [(0x660, 0x669), (0x10D30, 0x10D39)] c

/-- Whether a character is a digit. -/
def isDigit (c : Char) : Bool := c.isDigit || Text.inRanges [(0x6F0, 0x6F9)] c

/-- Whether a character is a letter that is written from right to left. -/
def isLeftward (c : Char) : Bool :=
  Text.inRanges leftwardRanges c && !isMark c && !isArabicDigit c && !isDigit c

/-- Whether a character is a letter that is written from left to right. -/
def isRightward (c : Char) : Bool :=
  isLetter c && c ≠ '-' && !isLeftward c && !isArabicDigit c && !isDigit c

/-- Whether a label that holds letters from right to left holds no others, begins with one of them,
and ends with one or with a digit, all of one kind. -/
def isOneWay (label : List Char) : Bool :=
  if !label.any fun c => isLeftward c || isArabicDigit c then true
  else
    label.head?.any isLeftward && !label.any isRightward
      && ((label.reverse.dropWhile isMark).head?.any fun c =>
        isLeftward c || isArabicDigit c || isDigit c)
      && !(label.any isArabicDigit && label.any isDigit)

/-! ## Labels -/

/-- Whether hyphens stand inside a label only, and not in its third and fourth place. -/
def hasFittingHyphens (label : List Char) : Bool :=
  (label.drop 2).take 2 ≠ ['-', '-'] && label.head? ≠ some '-' && label.getLast? ≠ some '-'

/-- Whether a text may be a label. -/
def isLabel (label : List Char) : Bool :=
  !label.isEmpty && label.length ≤ 254
    && !(label.zip (label.drop 1)).any (fun (c, next) => compose c next)
    && hasFittingHyphens label && !label.head?.any isMark
    && areAllowed label [] label && isOneWay label

/-- The mark of a label in punycode. -/
def codeMark : List Char := "xn--".toList

/-- Whether a label in ASCII may be one as it stands: what it means, if it is in punycode, has to be a
label. -/
def isPlainLabel (label : List Char) : Bool :=
  if label.take 4 = codeMark then
    let code := label.drop 4
    !code.isEmpty && code.getLast? ≠ some '-' && (Punycode.decode? code).any isLabel
  else isLabel label

/-- A label in ASCII. -/
def encodeLabel? (label : List Char) : Option (List Char) :=
  let encoded :=
    if label.all Punycode.isPlain then if isPlainLabel label then some label else none
    else if isLabel label then some (codeMark ++ Punycode.encode label) else none
  encoded.filter fun label => label.length ≤ 63

/-- Whether a character is a dot between labels. -/
def isDot (c : Char) : Bool := c = '.' || c = '\u3002' || c = '\uff0e' || c = '\uff61'

/-- The parts of a text between the characters of a kind. -/
def split (at? : Char → Bool) : List Char → List (List Char)
  | [] => [[]]
  | c :: rest =>
    match split at? rest with
    | [] => [[c]]
    | part :: parts => if at? c then [] :: part :: parts else (c :: part) :: parts

/-- A name in small letters, in ASCII. A dot at its end is kept. -/
def encode? (name : List Char) : Option (List Char) := do
  let labels := split isDot name
  let closed := labels.getLast? = some [] && 1 < labels.length
  let encoded ← (if closed then labels.dropLast else labels).mapM encodeLabel?
  let joined := ['.'].intercalate (if closed then encoded ++ [[]] else encoded)
  if joined.length ≤ (if closed then 254 else 253) then some joined else none

end DocMapper.Http.Domain
