/-!
# Deflated data

Data in the deflate format is a sequence of blocks. A block holds its bytes as they are, or it is
written in two prefix codes: one for bytes and for the lengths of copies, one for how far back a
copy starts in what came before. The codes are fixed, or the block begins with their lengths.

`inflate` gives the bytes that data stands for. Data that ends early stands for what it holds so
far. `unwrapped?` reads data in its wrapping, which begins with two bytes that tell the format and
ends with a checksum.

A code is given by the lengths of its words alone: shorter words come before longer ones, and those
of one length follow each other in the order of their symbols.
-/

namespace DocMapper.Http.Deflated

/-- Why data is not in the deflate format. -/
inductive Flaw
  | blockType
  | storedLength
  | tooManySymbols
  | codeLengths
  | repetition
  | noEnd
  | literalLengths
  | distanceLengths
  | literal
  | distance
  | tooFarBack
  deriving DecidableEq

/-- The message of a flaw. -/
def Flaw.message : Flaw → String
  | .blockType => "invalid block type"
  | .storedLength => "invalid stored block lengths"
  | .tooManySymbols => "too many length or distance symbols"
  | .codeLengths => "invalid code lengths set"
  | .repetition => "invalid bit length repeat"
  | .noEnd => "invalid code -- missing end-of-block"
  | .literalLengths => "invalid literal/lengths set"
  | .distanceLengths => "invalid distances set"
  | .literal => "invalid literal/length code"
  | .distance => "invalid distance code"
  | .tooFarBack => "invalid distance too far back"

/-- Why reading stops: the data ends, or it has a flaw. -/
inductive Stop
  | short
  | flawed (flaw : Flaw)
  deriving DecidableEq

/-- A reader of bits. -/
abbrev Reader (α : Type) := StateT (List Bool) (Except Stop) α

/-! ## Bits -/

/-- The bits of a byte, the lowest first. -/
def byteBits (b : UInt8) : List Bool := (List.range 8).map b.toNat.testBit

/-- The next bit. -/
def bit : Reader Bool := fun bits =>
  match bits with
  | [] => .error .short
  | b :: rest => .ok (b, rest)

/-- A number of some bits, the lowest first. -/
def number : Nat → Reader Nat
  | 0 => return 0
  | n + 1 => do
    let low ← bit
    let high ← number n
    return low.toNat + 2 * high

/-- Stops at a flaw. -/
def stop {α : Type} (flaw : Flaw) : Reader α := throw (.flawed flaw)

/-- The bits from the next byte on, out of those that are left of whole bytes. -/
def align (bits : List Bool) : List Bool := bits.drop (bits.length % 8)

/-! ## Prefix codes -/

/-- A prefix code: how many words it has of each length from one on, and the symbols of the words
in order. -/
structure Code where
  counts : List Nat
  symbols : List Nat

namespace Code

/-- The greatest of some lengths, at least one. -/
def longest (lengths : List Nat) : Nat := lengths.foldl max 1

/-- The code in which each symbol has a word of a given length, zero for none. -/
def ofLengths (lengths : List Nat) : Code where
  counts := (List.range (longest lengths)).map fun n => lengths.count (n + 1)
  symbols := (List.range (longest lengths)).flatMap fun n =>
    (List.range lengths.length).filter fun symbol => lengths[symbol]? = some (n + 1)

/-- How many words of the greatest length a code has left; it is negative for lengths that no code
has. -/
def slack (c : Code) : Int := c.counts.foldl (fun (left : Int) (count : Nat) => 2 * left - count) 1

/-- Whether there is a code of some lengths that leaves no word out, or has no words at all. -/
def isFull (lengths : List Nat) : Bool :=
  lengths.all (· == 0) || (ofLengths lengths).slack == 0

/-- Whether there is a code of some lengths that is full or has a single word, of one bit. -/
def isFair (lengths : List Nat) : Bool :=
  isFull lengths || (longest lengths == 1 && 0 < (ofLengths lengths).slack)

/-- The symbol of the next word, if a word is there: `read` is what has been read of it and `first`
the first word of that length. -/
def symbolFrom (symbols : List Nat) : List Nat → Nat → Nat → Reader (Option Nat)
  | [], _, _ => return none
  | count :: counts, read, first => do
    let low ← bit
    let read := 2 * read + low.toNat
    let first := 2 * first
    if read < first + count then return symbols[read - first]?
    else symbolFrom (symbols.drop count) counts read (first + count)

/-- The symbol of the next word, if a word is there. -/
def symbol? (c : Code) : Reader (Option Nat) := symbolFrom c.symbols c.counts 0 0

end Code

/-- The code of bytes and lengths that needs no description. -/
def fixedLiterals : Code :=
  .ofLengths (List.replicate 144 8 ++ List.replicate 112 9 ++ List.replicate 24 7
    ++ List.replicate 8 8)

/-- The code of distances that needs no description. -/
def fixedDistances : Code := .ofLengths (List.replicate 32 5)

/-! ## The descriptions of codes -/

/-- The order in which the lengths of the code for lengths are written. -/
def lengthOrder : List Nat := [16, 17, 18, 0, 8, 7, 9, 6, 10, 5, 11, 4, 12, 3, 13, 2, 14, 1, 15]

/-- Some numbers of three bits. -/
def triples : Nat → Reader (List Nat)
  | 0 => return []
  | n + 1 => do
    let first ← number 3
    return first :: (← triples n)

/-- The lengths of the code for lengths. -/
def codeLengths (written : List Nat) : List Nat :=
  (List.range 19).map fun symbol => ((lengthOrder.zip written).lookup symbol).getD 0

/-- The symbol of a code for lengths; one without words gives zero for every bit. -/
def lengthSymbol (lengths : List Nat) : Reader Nat := do
  return (← (Code.ofLengths lengths).symbol?).getD 0

/-- A length that is repeated, and how often. -/
def repetition (held : List Nat) : Nat → Reader (Nat × Nat)
  | 16 => do
    let extra ← number 2
    match held with
    | [] => stop .repetition
    | last :: _ => return (last, 3 + extra)
  | 17 => return (0, 3 + (← number 3))
  | 18 => return (0, 11 + (← number 7))
  | length => return (length, 1)

/-- A number of lengths, with the last one read first in `held`. There are at most as many steps as
lengths. -/
def lengthsFrom (code : List Nat) (wanted : Nat) : Nat → List Nat → Reader (List Nat)
  | 0, held => return held
  | fuel + 1, held => do
    if wanted ≤ held.length then return held
    let (length, times) ← repetition held (← lengthSymbol code)
    if wanted < held.length + times then stop .repetition
    else lengthsFrom code wanted fuel (List.replicate times length ++ held)

/-- The two codes that a block begins with. -/
def describedCodes : Reader (Code × Code) := do
  let literals := (← number 5) + 257
  let distances := (← number 5) + 1
  let written := (← number 4) + 4
  if 286 < literals ∨ 30 < distances then stop .tooManySymbols
  let code := codeLengths (← triples written)
  if !Code.isFull code then stop .codeLengths
  let wanted := literals + distances
  let lengths := (← lengthsFrom code wanted wanted []).reverse
  if lengths[256]? = some 0 then stop .noEnd
  if !Code.isFair (lengths.take literals) then stop .literalLengths
  if !Code.isFair (lengths.drop literals) then stop .distanceLengths
  return (.ofLengths (lengths.take literals), .ofLengths (lengths.drop literals))

/-! ## Blocks -/

/-- The least length of each length symbol and the number of its extra bits. -/
def lengthRanges : List (Nat × Nat) := [
  (3, 0), (4, 0), (5, 0), (6, 0), (7, 0), (8, 0), (9, 0), (10, 0), (11, 1), (13, 1), (15, 1),
  (17, 1), (19, 2), (23, 2), (27, 2), (31, 2), (35, 3), (43, 3), (51, 3), (59, 3), (67, 4), (83, 4),
  (99, 4), (115, 4), (131, 5), (163, 5), (195, 5), (227, 5), (258, 0)]

/-- The least distance of each distance symbol and the number of its extra bits. -/
def distanceRanges : List (Nat × Nat) := [
  (1, 0), (2, 0), (3, 0), (4, 0), (5, 1), (7, 1), (9, 2), (13, 2), (17, 3), (25, 3), (33, 4),
  (49, 4), (65, 5), (97, 5), (129, 6), (193, 6), (257, 7), (385, 7), (513, 8), (769, 8), (1025, 9),
  (1537, 9), (2049, 10), (3073, 10), (4097, 11), (6145, 11), (8193, 12), (12289, 12), (16385, 13),
  (24577, 13)]

/-- A number out of the range that a symbol stands for, if it stands for one. -/
def ranged (ranges : List (Nat × Nat)) (symbol : Nat) (flaw : Flaw) : Reader Nat :=
  match ranges[symbol]? with
  | some (least, extra) => do return least + (← number extra)
  | none => stop flaw

/-- What a block in codes consists of. -/
inductive Item
  | byte (value : UInt8)
  | copy (length distance : Nat)
  | finish

/-- The next item of a block. -/
def item (literals distances : Code) : Reader Item := do
  match ← literals.symbol? with
  | none => stop .literal
  | some symbol =>
    if symbol < 256 then return .byte (UInt8.ofNat symbol)
    else if symbol = 256 then return .finish
    else
      let length ← ranged lengthRanges (symbol - 257) .literal
      match ← distances.symbol? with
      | none => stop .distance
      | some symbol => return .copy length (← ranged distanceRanges symbol .distance)

/-- Output, its last byte first, with a copy of earlier output put behind it. -/
def copied (distance : Nat) : Nat → List UInt8 → Option (List UInt8)
  | 0, output => some output
  | length + 1, output => do
    let b ← output[distance - 1]?
    copied distance length (b :: output)

/-- The output, its last byte first, and what is left of the data or why there is nothing. -/
abbrev Progress := List UInt8 × Except Stop (List Bool)

/-- The items of a block, behind some output. Every item takes a bit at least. -/
def items (literals distances : Code) : Nat → List UInt8 → List Bool → Progress
  | 0, output, _ => (output, .error .short)
  | fuel + 1, output, bits =>
    match (item literals distances).run bits with
    | .error why => (output, .error why)
    | .ok (.finish, rest) => (output, .ok rest)
    | .ok (.byte b, rest) => items literals distances fuel (b :: output) rest
    | .ok (.copy length distance, rest) =>
      match copied distance length output with
      | some output => items literals distances fuel output rest
      | none => (output, .error (.flawed .tooFarBack))

/-- The number of bytes of a block that holds them as they are. It is written twice. -/
def storedLength : Reader Nat := do
  let length ← number 16
  let inverse ← number 16
  if length + inverse = 65535 then return length else stop .storedLength

/-- Some bytes as they are, behind some output. -/
def stored : Nat → List UInt8 → List Bool → Progress
  | 0, output, bits => (output, .ok bits)
  | n + 1, output, bits =>
    match (number 8).run bits with
    | .error why => (output, .error why)
    | .ok (b, rest) => stored n (UInt8.ofNat b :: output) rest

/-- A block of a kind, behind some output. -/
def block (kind : Nat) (output : List UInt8) (bits : List Bool) : Progress :=
  match kind with
  | 0 =>
    match storedLength.run (align bits) with
    | .error why => (output, .error why)
    | .ok (length, rest) => stored length output rest
  | 1 => items fixedLiterals fixedDistances bits.length output bits
  | 2 =>
    match describedCodes.run bits with
    | .error why => (output, .error why)
    | .ok ((literals, distances), rest) => items literals distances rest.length output rest
  | _ => (output, .error (.flawed .blockType))

/-- The blocks of the data up to the last one. Every block takes a bit at least. -/
def blocks : Nat → List UInt8 → List Bool → Progress
  | 0, output, _ => (output, .error .short)
  | fuel + 1, output, bits =>
    match (do return (← bit, ← number 2) : Reader (Bool × Nat)).run bits with
    | .error why => (output, .error why)
    | .ok ((last, kind), rest) =>
      match block kind output rest with
      | (output, .ok rest) => if last then (output, .ok rest) else blocks fuel output rest
      | stopped => stopped

/-- The output of deflated data and what is left behind it. -/
def progress (data : List UInt8) : Progress :=
  let bits := data.flatMap byteBits
  blocks (bits.length + 1) [] bits

/-- The bytes that deflated data stands for, as far as it goes. -/
def inflate (data : List UInt8) : Except Flaw (List UInt8) :=
  match progress data with
  | (_, .error (.flawed flaw)) => .error flaw
  | (output, _) => .ok output.reverse

/-! ## The wrapping -/

/-- The two sums that make the checksum of bytes. -/
def checksum (bytes : List UInt8) : Nat × Nat :=
  bytes.foldl (fun (low, high) b =>
    let low := (low + b.toNat) % 65521
    (low, (high + low) % 65521)) (1, 0)

/-- The checksum that bits begin with, if they are enough. -/
def writtenChecksum? (bits : List Bool) : Option (Nat × Nat) :=
  let read : Reader (Nat × Nat) := do
    let a ← number 8
    let b ← number 8
    let c ← number 8
    let d ← number 8
    return (c * 256 + d, a * 256 + b)
  match read.run bits with
  | .ok (sums, _) => some sums
  | .error _ => none

/-- The bytes in wrapped data, as far as it goes, unless it is not wrapped or has a flaw. Data that
needs a dictionary is not read. -/
def unwrapped? : List UInt8 → Option (List UInt8)
  | kind :: check :: data =>
    if (kind.toNat * 256 + check.toNat) % 31 ≠ 0 ∨ kind.toNat % 16 ≠ 8 ∨ 7 < kind.toNat / 16 then none
    else if check.toNat.testBit 5 then if data.length < 4 then some [] else none
    else
      match progress data with
      | (_, .error (.flawed _)) => none
      | (output, .error .short) => some output.reverse
      | (output, .ok rest) =>
        match writtenChecksum? (align rest) with
        | none => some output.reverse
        | some sums => if sums = checksum output.reverse then some output.reverse else none
  | _ => some []

end DocMapper.Http.Deflated
