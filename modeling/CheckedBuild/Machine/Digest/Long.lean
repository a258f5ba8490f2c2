import CheckedBuild.Machine.Digest.Basic

/-!
# Digests over long words

These digests work on words of 64 bits and on blocks of 128 bytes. Their constants are the first
bits of the fractional parts of roots of primes, which are computed.
-/

namespace CheckedBuild.Machine.Digest

/-- The largest number whose power is at most `n`, found bit by bit. -/
def integerRoot (power n : Nat) : Nat :=
  let bits := n.log2 / power + 1
  (List.range bits).foldr (fun i root =>
    let larger := root + Nat.pow 2 i
    if Nat.pow larger power ≤ n then larger else root) 0

/-- Whether nothing but one and the number itself divides a number. -/
def isPrime (n : Nat) : Bool :=
  2 ≤ n && (List.range n).all fun d => d < 2 || n % d ≠ 0

/-- The primes below 410, of which there are eighty. -/
def primes : List Nat := (List.range 410).filter isPrime

/-- The first 64 bits of the fractional part of a root of a number. -/
def rootBits (power n : Nat) : UInt64 :=
  UInt64.ofNat (integerRoot power (n * Nat.pow 2 (64 * power)))

/-- The constants of the rounds. -/
def longRoots : Array UInt64 := (primes.map (rootBits 3)).toArray

/-- A number of long words that a digest goes on with. -/
abbrev LongWords := Array UInt64

/-- A word of some words. -/
def LongWords.at (words : LongWords) (i : Nat) : UInt64 := (words[i]?).getD 0

/-- Where the digest of 512 bits begins. -/
def start512 : LongWords := ((primes.take 8).map (rootBits 2)).toArray

/-- Where the digest of 384 bits begins. -/
def start384 : LongWords := (((primes.drop 8).take 8).map (rootBits 2)).toArray

/-- A long word of eight bytes. -/
def longWord (lowFirst : Bool) (block : ByteArray) (i : Nat) : UInt64 :=
  (List.range 8).foldl (fun word j =>
    let place := if lowFirst then i + 7 - j else i + j
    (word <<< 8) ||| ((block[place]?).getD 0).toUInt64) 0

/-- A long word with its bits turned round to the right. -/
def turnRight (x n : UInt64) : UInt64 := (x >>> n) ||| (x <<< (64 - n))

/-- Long words in hexadecimal digits, byte by byte. -/
def LongWords.hexadecimal (lowFirst : Bool) (words : LongWords) : List Char :=
  words.toList.flatMap fun word =>
    let bytes := (List.range 8).map fun j => (word >>> UInt64.ofNat (8 * (7 - j))) &&& 0xFF
    (if lowFirst then bytes.reverse else bytes).flatMap fun b =>
      [Nat.digitChar (b.toNat / 16), Nat.digitChar (b.toNat % 16)]

/-- The words of a block continued to eighty. -/
def schedule512 (bytes : ByteArray) (start : Nat) : LongWords :=
  let first := (Array.range 16).map fun i => longWord false bytes (start + 8 * i)
  (List.range 64).foldl (fun (w : LongWords) i =>
    let (x, y) := (w.at (i + 1), w.at (i + 14))
    let s := turnRight x 1 ^^^ turnRight x 8 ^^^ (x >>> 7)
    let t := turnRight y 19 ^^^ turnRight y 61 ^^^ (y >>> 6)
    w.push (w.at i + s + w.at (i + 9) + t)) first

/-- One block of the digest of 512 bits. -/
def block512 (roots words : LongWords) (bytes : ByteArray) (start : Nat) : LongWords :=
  let schedule := schedule512 bytes start
  let step (s : LongWords) (i : Nat) : LongWords :=
    let (a, b, c, d) := (s.at 0, s.at 1, s.at 2, s.at 3)
    let (e, f, g, h) := (s.at 4, s.at 5, s.at 6, s.at 7)
    let t := turnRight e 14 ^^^ turnRight e 18 ^^^ turnRight e 41
    let first := h + t + ((e &&& f) ^^^ (~~~e &&& g)) + roots.at i + schedule.at i
    let u := turnRight a 28 ^^^ turnRight a 34 ^^^ turnRight a 39
    let second := u + ((a &&& b) ^^^ (a &&& c) ^^^ (b &&& c))
    #[first + second, a, b, c, d + first, e, f, g]
  (words.zip ((List.range 80).foldl step words)).map fun (x, y) => x + y

/-- Bytes filled up to whole blocks of 128, with their number of bits at the end. -/
def paddedLong (bytes : Bytes) : ByteArray :=
  let n := bytes.length
  let zeros := (239 - n % 128) % 128
  let length := (List.range 16).map fun i => UInt8.ofNat (8 * n / Nat.pow 256 (15 - i))
  (bytes ++ 0x80 :: List.replicate zeros 0 ++ length).toByteArray

/-- The words of the digest of 512 bits, or of a shorter one that begins otherwise. -/
def words512 (start : LongWords) (bytes : Bytes) : LongWords :=
  let padded := paddedLong bytes
  let roots := longRoots
  (List.range (padded.size / 128)).foldl
    (fun words i => block512 roots words padded (128 * i)) start

/-- The digest of 512 bits. -/
def digest512 (bytes : Bytes) : List Char := (words512 start512 bytes).hexadecimal false

/-- The digest of 384 bits. -/
def digest384 (bytes : Bytes) : List Char :=
  LongWords.hexadecimal false ((words512 start384 bytes).extract 0 6)

/-- The digest of 224 bits. -/
def digest224 (bytes : Bytes) : List Char :=
  let start : Words := start384.map fun word => (word &&& 0xFFFFFFFF).toUInt32
  Words.hexadecimal false ((overBlocks block256 start (padded false bytes)).extract 0 7)

/-- The orders in which the rounds of mixing take the words of a block. -/
def mixingOrders : List (List Nat) :=
  [[0, 1, 2, 3, 4, 5, 6, 7, 8, 9, 10, 11, 12, 13, 14, 15],
   [14, 10, 4, 8, 9, 15, 13, 6, 1, 12, 0, 2, 11, 7, 5, 3],
   [11, 8, 12, 0, 5, 2, 15, 13, 10, 14, 3, 6, 7, 1, 9, 4],
   [7, 9, 3, 1, 13, 12, 11, 14, 2, 6, 5, 10, 4, 0, 15, 8],
   [9, 0, 5, 7, 2, 4, 10, 15, 14, 1, 11, 12, 6, 8, 3, 13],
   [2, 12, 6, 10, 0, 11, 8, 3, 4, 13, 7, 5, 15, 14, 1, 9],
   [12, 5, 1, 15, 14, 13, 4, 10, 0, 7, 6, 3, 9, 2, 8, 11],
   [13, 11, 7, 14, 12, 1, 3, 9, 5, 0, 15, 4, 8, 6, 2, 10],
   [6, 15, 14, 9, 11, 3, 0, 8, 12, 2, 13, 7, 1, 4, 10, 5],
   [10, 2, 8, 4, 7, 6, 1, 5, 15, 11, 9, 14, 3, 12, 13, 0]]

/-- The columns and diagonals of words that a round mixes. -/
def mixingPlaces : List (Nat × Nat × Nat × Nat) :=
  [(0, 4, 8, 12), (1, 5, 9, 13), (2, 6, 10, 14), (3, 7, 11, 15),
   (0, 5, 10, 15), (1, 6, 11, 12), (2, 7, 8, 13), (3, 4, 9, 14)]

/-- Mixes two words of a block into four words. -/
def mixWords (v : LongWords) (places : Nat × Nat × Nat × Nat) (x y : UInt64) : LongWords :=
  let (i, j, k, l) := places
  let a := v.at i + v.at j + x
  let d := turnRight (v.at l ^^^ a) 32
  let c := v.at k + d
  let b := turnRight (v.at j ^^^ c) 24
  let a := a + b + y
  let d := turnRight (d ^^^ a) 16
  let c := c + d
  let b := turnRight (b ^^^ c) 63
  (((v.setIfInBounds i a).setIfInBounds j b).setIfInBounds k c).setIfInBounds l d

/-- One block of the mixing digest, after so many bytes in all. -/
def mixBlock (h : LongWords) (bytes : ByteArray) (start count : Nat) (isLast : Bool) :
    LongWords :=
  let block : LongWords := (Array.range 16).map fun i => longWord true bytes (start + 8 * i)
  let v : LongWords := h ++ start512
  let v : LongWords := v.setIfInBounds 12 (v.at 12 ^^^ UInt64.ofNat count)
  let v : LongWords := if isLast then v.setIfInBounds 14 (~~~v.at 14) else v
  let v : LongWords := (List.range 12).foldl (fun (v : LongWords) round =>
    let order := ((mixingOrders[round % 10]?).getD []).toArray
    mixingPlaces.zipIdx.foldl (fun v (places, i) =>
      let word (n : Nat) : UInt64 := block.at ((order[n]?).getD 0)
      mixWords v places (word (2 * i)) (word (2 * i + 1))) v) v
  (Array.range 8).map fun i => h.at i ^^^ v.at i ^^^ v.at (i + 8)

/-- The mixing digest of so many bytes. -/
def mixingDigest (length : Nat) (bytes : Bytes) : List Char :=
  let first := start512.at 0 ^^^ 0x01010000 ^^^ UInt64.ofNat length
  let blocks := max 1 ((bytes.length + 127) / 128)
  let filled := (bytes ++ List.replicate (128 * blocks - bytes.length) 0).toByteArray
  let words := (List.range blocks).foldl (fun h i =>
    let isLast := i + 1 = blocks
    mixBlock h filled (128 * i) (if isLast then bytes.length else 128 * (i + 1)) isLast)
    (start512.setIfInBounds 0 first)
  (words.hexadecimal true).take (2 * length)

end CheckedBuild.Machine.Digest
