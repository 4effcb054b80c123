import DocMapper.Text.Blank
import DocMapper.Text.CaseTable
/-!
# The case of letters

`Text.small` writes a text in small letters and `Text.titled` begins each of its words with a letter
in title case; a word is a run of characters that have a case. Both follow the Unicode standard for
all characters. The capital sigma has two small letters, of which one stands at the end of words.
-/

namespace DocMapper.Text

/-- Whether a character has a case. -/
def isCased (c : Char) : Bool := inRanges casedRanges c

/-- Whether a run of letters holds a character. -/
def CaseRun.holds (run : CaseRun) (c : Char) : Bool :=
  run.first ≤ c.toNat && c.toNat ≤ run.last && (c.toNat - run.first) % run.step == 0

/-- The counterpart of a character in a table, which is the character itself if it has no other. -/
def counterpart (runs : List CaseRun) (c : Char) : Char :=
  match runs.find? (·.holds c) with
  | some run => Char.ofNat (c.toNat + run.distance).toNat
  | none => c

/-- Whether the first character of a text that a word does not merely hold has a case. -/
def casedNext (text : List Char) : Bool :=
  ((text.dropWhile (inRanges caseIgnorableRanges)).head?.map isCased).getD false

/-- The small letters of a character, after the text before it, backwards, and before the text
after it. -/
def smallBetween (before : List Char) (c : Char) (after : List Char) : List Char :=
  if c = 'Σ' then
    if casedNext before && !casedNext after then ['ς'] else ['σ']
  else if c = 'İ' then ['i', '\u0307']
  else [counterpart smallRuns c]

/-- The letters of a character in title case. -/
def titleOf (c : Char) : List Char :=
  match titleSequences.lookup c.toNat with
  | some sequence => sequence.map Char.ofNat
  | none => [counterpart titleRuns c]

/-- The small letters of a text, after the text before it, backwards. -/
def smallAfter (before : List Char) : List Char → List Char
  | [] => []
  | c :: after => smallBetween before c after ++ smallAfter (c :: before) after

/-- A text in small letters. -/
def small (text : String) : String := String.ofList (smallAfter [] text.toList)

/-- A text with each of its words begun in title case, after the text before it, backwards. -/
def titledAfter (before : List Char) : List Char → List Char
  | [] => []
  | c :: after =>
    (if (before.head?.map isCased).getD false then smallBetween before c after else titleOf c)
      ++ titledAfter (c :: before) after

/-- A text with each of its words begun in title case. -/
def titled (text : String) : String := String.ofList (titledAfter [] text.toList)

end DocMapper.Text
