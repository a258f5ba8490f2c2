import CheckedBuild.Archive.Deflate.Code
import CheckedBuild.Archive.Deflate.Parse

/-!
# Compressing

A block begins with a bit that marks the last block and with two bits for its kind. A short block
is written in the fixed codes and any other one in codes of its own, whose lengths it begins with.
A block that would not get smaller stores its bytes as they are. Where the smallest form is wanted,
each block is written in the kind that takes the fewest bytes; of two kinds that take as many the
simpler one is chosen.
-/

namespace CheckedBuild.Deflate

/-- Bits on their way to bytes. -/
structure Packer where
  bytes : Array UInt8 := #[]
  /-- The number of the bits that do not fill a byte yet, the lowest first. -/
  held : Nat := 0
  /-- How many these are. -/
  width : Nat := 0

namespace Packer

/-- Adds a bit. -/
def bit (packer : Packer) (bit : Bool) : Packer :=
  let held := if bit then packer.held + Nat.pow 2 packer.width else packer.held
  if packer.width = 7 then ⟨packer.bytes.push (UInt8.ofNat held), 0, 0⟩
  else ⟨packer.bytes, held, packer.width + 1⟩

/-- Adds bits. -/
def bits (packer : Packer) (bits : List Bool) : Packer := bits.foldl Packer.bit packer

/-- Fills up the byte that is not full yet. -/
def align (packer : Packer) : Packer :=
  if packer.width = 0 then packer else ⟨packer.bytes.push (UInt8.ofNat packer.held), 0, 0⟩

/-- Adds whole bytes; the packer has to be aligned. -/
def addBytes (packer : Packer) (bytes : Bytes) : Packer :=
  { packer with bytes := bytes.foldl Array.push packer.bytes }

end Packer

/-- The kinds of blocks. -/
inductive Kind where
  | stored
  | fixed
  | dynamic
deriving DecidableEq, Repr

/-- The number of a kind. -/
def Kind.number : Kind → Nat
  | .stored => 0
  | .fixed => 1
  | .dynamic => 2

/-- A block of fewer bytes than this is written in the fixed codes. -/
def sizeForCodes : Nat := 48

/-- The bits of tokens in the fixed codes. -/
def fixedBits (tokens : List Token) : List Bool :=
  bitsOf 2 Kind.fixed.number
    ++ (Codes.ofLengths fixedLiteralLengths fixedDistanceLengths).tokens tokens

/-- How often the tokens of a block use the symbols of literals and lengths. -/
def literalFrequencies (tokens : List Token) : Array Nat :=
  tokens.foldl (fun known token =>
    known.modify (match token with
      | .literal byte => byte.toNat
      | .copy length _ => firstLengthSymbol + (classOf lengthClasses length).1) (· + 1))
    ((Array.replicate literalSymbols 0).setIfInBounds endOfBlock 1)

/-- How often the tokens of a block use the symbols of distances. -/
def distanceFrequencies (tokens : List Token) : Array Nat :=
  tokens.foldl (fun known token =>
    match token with
    | .literal _ => known
    | .copy _ distance => known.modify (classOf distanceClasses distance).1 (· + 1))
    (Array.replicate distanceSymbols 0)

/-- The bits of tokens in codes that are made for them. -/
def dynamicBits (tokens : List Token) : List Bool :=
  let literals := codeLengths longestWord (literalFrequencies tokens)
  let distances := codeLengths longestWord (distanceFrequencies tokens)
  bitsOf 2 Kind.dynamic.number ++ lengthBits literals distances
    ++ (Codes.ofLengths literals distances).tokens tokens

/-- A block that does not stand for more bytes than this is never stored. -/
def sizeToStore : Nat := 32

/-- Adds a block of the bytes to what is packed already. -/
def Block.pack (block : Block) (bytes : Array UInt8) (last : Bool) (packer : Packer) : Packer :=
  let begun := packer.bit last
  let packed := begun.bits
    (if block.size < sizeForCodes then fixedBits block.tokens else dynamicBits block.tokens)
  if block.atHand ∧ sizeToStore < block.size
      ∧ block.size ≤ packed.bytes.size - begun.bytes.size + 1 then
    let aligned := (begun.bits (bitsOf 2 Kind.stored.number)).align
    (aligned.bits (bitsOf 16 block.size ++ bitsOf 16 (65535 - block.size))).addBytes
      (bytes.extract block.start (block.start + block.size)).toList
  else packed

/-- Adds blocks, the last of which is marked. -/
def packBlocks (bytes : Array UInt8) (packer : Packer) : List Block → Packer
  | [] => packer
  | [block] => block.pack bytes true packer
  | block :: rest => packBlocks bytes (block.pack bytes false packer) rest

/-- The bytes in compressed form. -/
def compress (bytes : Bytes) : Bytes :=
  let linked := Linked.ofBytes bytes
  (packBlocks linked.bytes {} (blocksOf .strongest linked)).align.bytes.toList

/-! ## Blocks of the smallest kinds -/

/-- How many bytes bits take. -/
def bytesFor (bits : Nat) : Nat := (bits + 7) / 8

/-- Adds a block in the kind that takes the fewest bytes. -/
def Block.packSmallest (block : Block) (bytes : Array UInt8) (last : Bool) (packer : Packer) :
    Packer :=
  let begun := packer.bit last
  let fixed := fixedBits block.tokens
  let dynamic := dynamicBits block.tokens
  let bits := if bytesFor fixed.length ≤ bytesFor dynamic.length then fixed else dynamic
  if block.size + 4 ≤ bytesFor bits.length && block.size < 65536 then
    let aligned := (begun.bits (bitsOf 2 Kind.stored.number)).align
    (aligned.bits (bitsOf 16 block.size ++ bitsOf 16 (65535 - block.size))).addBytes
      (bytes.extract block.start (block.start + block.size)).toList
  else begun.bits bits

/-- Adds blocks in their smallest kinds, the last of which is marked. -/
def packSmallestBlocks (bytes : Array UInt8) (packer : Packer) : List Block → Packer
  | [] => packer
  | [block] => block.packSmallest bytes true packer
  | block :: rest => packSmallestBlocks bytes (block.packSmallest bytes false packer) rest

/-- The bytes in compressed form, in blocks of the smallest kinds. -/
def compressSmallest (bytes : Bytes) : Bytes :=
  let linked := Linked.ofBytes bytes
  (packSmallestBlocks linked.bytes {} (blocksOf .strongest linked)).align.bytes.toList

end CheckedBuild.Deflate
