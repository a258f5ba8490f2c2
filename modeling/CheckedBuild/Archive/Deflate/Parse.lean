import CheckedBuild.Archive.Deflate.Matching

/-!
# From bytes to blocks of tokens

Bytes are turned into tokens from left to right. A copy is put off by one byte to see whether a
longer one begins there. A block is closed when its tokens fill the space reserved for them, or
when they take hardly less space than the bytes they stand for.
-/

namespace CheckedBuild.Deflate

/-- Tokens that are coded together. -/
structure Block where
  tokens : List Token
  /-- Where the bytes of the block begin. -/
  start : Nat
  /-- How many bytes the block stands for. -/
  size : Nat
  /-- Whether the bytes are still at hand when the block is written. -/
  atHand : Bool
deriving Repr

/-- A copy that was put off, with the byte in front of which it stands. -/
structure Pending where
  byte : UInt8
  copy : Candidate
deriving Repr

/-- The state between two positions. -/
structure Parser where
  position : Nat := 0
  pending : Option Pending := none
  /-- The tokens of the open block, the last one first. -/
  tokens : List Token := []
  tokenCount : Nat := 0
  /-- How many bytes the tokens of the open block stand for. -/
  size : Nat := 0
  /-- How much space they take: one unit for a literal, three for a copy. -/
  space : Nat := 0
  /-- Where the open block begins. -/
  start : Nat := 0
  /-- The closed blocks, the last one first. -/
  blocks : List Block := []

namespace Parser

/-- The space that is reserved for the tokens of a block. -/
def spaceLimit : Nat := 65536 - 8

/-- A block of no more bytes than this stays open in any case. -/
def sizeToJudge : Nat := 31 * 1024

/-- Adds a token to the open block. -/
def add (parser : Parser) (token : Token) : Parser :=
  { parser with
    tokens := token :: parser.tokens
    tokenCount := parser.tokenCount + 1
    size := parser.size + token.size
    space := parser.space + (match token with
      | .literal _ => 1
      | .copy .. => 3) }

/-- The space that the open block takes, with one unit for each group of eight tokens. -/
def spaceTaken (parser : Parser) : Nat := 1 + parser.space + parser.tokenCount / 8

/-- Whether the open block is to be closed. -/
def isFull (parser : Parser) : Bool :=
  decide (spaceLimit < parser.spaceTaken)
    || (decide (sizeToJudge < parser.size)
        && decide (parser.size ≤ parser.spaceTaken * 115 / 128))

/-- Closes the open block; `window` bytes are at hand. -/
def close (parser : Parser) (window : Nat) : Parser :=
  { parser with
    tokens := []
    tokenCount := 0
    size := 0
    space := 0
    start := parser.start + parser.size
    blocks := ⟨parser.tokens.reverse, parser.start, parser.size,
      decide (parser.position - parser.start ≤ window)⟩ :: parser.blocks }

/-- Decides on the byte at the position, given a candidate for a copy there; the result tells how
far to go on. -/
def decideOn (parser : Parser) (effort : Effort) (byte : UInt8) (found : Candidate) :
    Nat × Parser :=
  match parser.pending with
  | some pending =>
    if pending.copy.length < found.length then
      let parser := parser.add (.literal pending.byte)
      if effort.contentWith ≤ found.length then
        (found.length, { parser.add (.copy found.length found.distance) with pending := none })
      else (1, { parser with pending := some ⟨byte, found⟩ })
    else
      (pending.copy.length - 1,
        { parser.add (.copy pending.copy.length pending.copy.distance) with pending := none })
  | none =>
    if found.distance = 0 then (1, parser.add (.literal byte))
    else if effort.contentWith ≤ found.length then
      (found.length, parser.add (.copy found.length found.distance))
    else (1, { parser with pending := some ⟨byte, found⟩ })

/-- Whether a candidate is not worth to be taken: it is short and far away, or it lies where a
window begins. -/
def isPoor (effort : Effort) (position : Nat) (found : Candidate) : Bool :=
  (found.length == shortestCopy && decide (effort.far ≤ found.distance))
    || position % windowSize == found.distance

/-- Goes on by one token at most. -/
def step (linked : Linked) (effort : Effort) (parser : Parser) : Parser :=
  let position := parser.position
  let ahead := min longestCopy (linked.bytes.size - position)
  let reach := min position (windowSize - ahead)
  let toBeat := match parser.pending with
    | some pending => pending.copy.length
    | none => shortestCopy - 1
  let search : Search := ⟨linked, position, reach, ahead⟩
  let found := search.best effort toBeat
  let found := if isPoor effort position found then ⟨0, 0⟩ else found
  let (advance, parser) := parser.decideOn effort (search.byte position) found
  let parser := { parser with position := position + advance }
  if parser.isFull then parser.close (min windowSize (reach + advance)) else parser

/-- Goes on to the end of the bytes; `steps` bounds how often. -/
def run (linked : Linked) (effort : Effort) (steps : Nat) (parser : Parser) : Parser :=
  match steps with
  | 0 => parser
  | steps + 1 =>
    if linked.bytes.size ≤ parser.position then parser
    else (parser.step linked effort).run linked effort steps

end Parser

/-- The blocks of some bytes. -/
def blocksOf (effort : Effort) (linked : Linked) : List Block :=
  let parser := ({} : Parser).run linked effort linked.bytes.size
  (parser.close (min windowSize linked.bytes.size)).blocks.reverse

end CheckedBuild.Deflate
