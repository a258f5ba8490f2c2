import CheckedBuild.Machine.Raw

/-!
# Digests

A digest is computed from bytes in blocks of 64 bytes, of which the last ones
hold the length. All of the digests but the cyclic one work on words of 32 bits.
-/

namespace CheckedBuild.Machine.Digest

/-- The table of the cyclic redundancy check: the rest of each byte, high bit first. -/
def cyclicTable : Array UInt32 :=
  (Array.range 256).map fun i =>
    (List.range 8).foldl (fun (c : UInt32) _ =>
      if c &&& 0x80000000 != 0 then (c <<< 1) ^^^ 0x04C11DB7 else c <<< 1)
      (UInt32.ofNat i <<< 24)

/-- The bytes of a number from the lowest on, without zeros at the end. -/
def lengthBytes (fuel n : Nat) : Bytes :=
  match fuel with
  | 0 => []
  | fuel + 1 => if n = 0 then [] else UInt8.ofNat n :: lengthBytes fuel (n / 256)

/-- The cyclic redundancy check of bytes and of their number. -/
def cyclic (bytes : Bytes) : UInt32 :=
  let table := cyclicTable
  let step (c : UInt32) (b : UInt8) : UInt32 :=
    (c <<< 8) ^^^ (table[((c >>> 24).toNat ^^^ b.toNat)]?).getD 0
  ~~~(lengthBytes 16 bytes.length).foldl step (bytes.foldl step 0)

/-- A word of four bytes, the lowest one first. -/
def littleWord (block : ByteArray) (i : Nat) : UInt32 :=
  let byte (j : Nat) : UInt32 := ((block[i + j]?).getD 0).toUInt32
  byte 0 ||| (byte 1 <<< 8) ||| (byte 2 <<< 16) ||| (byte 3 <<< 24)

/-- A word of four bytes, the highest one first. -/
def bigWord (block : ByteArray) (i : Nat) : UInt32 :=
  let byte (j : Nat) : UInt32 := ((block[i + j]?).getD 0).toUInt32
  (byte 0 <<< 24) ||| (byte 1 <<< 16) ||| (byte 2 <<< 8) ||| byte 3

/-- Bytes filled up to whole blocks, with their number of bits at the end. -/
def padded (lowFirst : Bool) (bytes : Bytes) : ByteArray :=
  let n := bytes.length
  let zeros := (119 - n % 64) % 64
  let length := (List.range 8).map fun i => UInt8.ofNat (8 * n / Nat.pow 256 i)
  (bytes ++ 0x80 :: List.replicate zeros 0
    ++ (if lowFirst then length else length.reverse)).toByteArray

/-- A word with its bits turned round to the left. -/
def rotateLeft (x : UInt32) (n : UInt32) : UInt32 := (x <<< n) ||| (x >>> (32 - n))

/-- A word with its bits turned round to the right. -/
def rotateRight (x : UInt32) (n : UInt32) : UInt32 := (x >>> n) ||| (x <<< (32 - n))

/-- Four, five or eight words that a digest goes on with. -/
abbrev Words := Array UInt32

/-- A word of some words. -/
def Words.at (words : Words) (i : Nat) : UInt32 := (words[i]?).getD 0

/-- Words added place by place. -/
def Words.add (a b : Words) : Words := (a.zip b).map fun (x, y) => x + y

/-- Words in hexadecimal digits, byte by byte. -/
def Words.hexadecimal (lowFirst : Bool) (words : Words) : List Char :=
  let digit (n : UInt32) : Char := Nat.digitChar n.toNat
  words.toList.flatMap fun word =>
    let shifts : List UInt32 := [24, 16, 8, 0]
    let bytes := shifts.map fun shift => (word >>> shift) &&& 0xFF
    (if lowFirst then bytes.reverse else bytes).flatMap fun (b : UInt32) =>
      [digit (b >>> 4), digit (b &&& 15)]

/-- A digest of the blocks of padded bytes. -/
def overBlocks (block : Words → ByteArray → Nat → Words) (start : Words) (bytes : ByteArray) :
    Words :=
  (List.range (bytes.size / 64)).foldl (fun words i => block words bytes (64 * i)) start

/-- The integer parts of the sines of the first numbers times a power of two. -/
def sines : Array UInt32 :=
  #[0xd76aa478, 0xe8c7b756, 0x242070db, 0xc1bdceee, 0xf57c0faf, 0x4787c62a, 0xa8304613, 0xfd469501,
    0x698098d8, 0x8b44f7af, 0xffff5bb1, 0x895cd7be, 0x6b901122, 0xfd987193, 0xa679438e, 0x49b40821,
    0xf61e2562, 0xc040b340, 0x265e5a51, 0xe9b6c7aa, 0xd62f105d, 0x02441453, 0xd8a1e681, 0xe7d3fbc8,
    0x21e1cde6, 0xc33707d6, 0xf4d50d87, 0x455a14ed, 0xa9e3e905, 0xfcefa3f8, 0x676f02d9, 0x8d2a4c8a,
    0xfffa3942, 0x8771f681, 0x6d9d6122, 0xfde5380c, 0xa4beea44, 0x4bdecfa9, 0xf6bb4b60, 0xbebfbc70,
    0x289b7ec6, 0xeaa127fa, 0xd4ef3085, 0x04881d05, 0xd9d4d039, 0xe6db99e5, 0x1fa27cf8, 0xc4ac5665,
    0xf4292244, 0x432aff97, 0xab9423a7, 0xfc93a039, 0x655b59c3, 0x8f0ccc92, 0xffeff47d, 0x85845dd1,
    0x6fa87e4f, 0xfe2ce6e0, 0xa3014314, 0x4e0811a1, 0xf7537e82, 0xbd3af235, 0x2ad7d2bb, 0xeb86d391]

/-- How far the words are turned in each of four rounds. -/
def turns : List (List UInt32) :=
  [[7, 12, 17, 22], [5, 9, 14, 20], [4, 11, 16, 23], [6, 10, 15, 21]]

/-- One block of the digest of 128 bits. -/
def block128 (words : Words) (bytes : ByteArray) (start : Nat) : Words :=
  let step (s : Words) (i : Nat) : Words :=
    let (a, b, c, d) := (s.at 0, s.at 1, s.at 2, s.at 3)
    let (f, g) : UInt32 × Nat := match i / 16 with
      | 0 => ((b &&& c) ||| (~~~b &&& d), i)
      | 1 => ((d &&& b) ||| (~~~d &&& c), (5 * i + 1) % 16)
      | 2 => (b ^^^ c ^^^ d, (3 * i + 5) % 16)
      | _ => (c ^^^ (b ||| ~~~d), (7 * i) % 16)
    let sum := a + f + (sines[i]?).getD 0 + littleWord bytes (start + 4 * g)
    let turn := (((turns[i / 16]?).getD [])[i % 4]?).getD 0
    #[d, b + rotateLeft sum turn, b, c]
  Words.add words ((List.range 64).foldl step words)

/-- The digest of 128 bits. -/
def digest128 (bytes : Bytes) : List Char :=
  (overBlocks block128 #[0x67452301, 0xefcdab89, 0x98badcfe, 0x10325476]
    (padded true bytes)).hexadecimal true

/-- The words of a block continued to eighty. -/
def schedule160 (bytes : ByteArray) (start : Nat) : Words :=
  let first := (Array.range 16).map fun i => bigWord bytes (start + 4 * i)
  (List.range 64).foldl (fun (w : Words) i =>
    w.push (rotateLeft (w.at (i + 13) ^^^ w.at (i + 8) ^^^ w.at (i + 2) ^^^ w.at i) 1)) first

/-- One block of the digest of 160 bits. -/
def block160 (words : Words) (bytes : ByteArray) (start : Nat) : Words :=
  let schedule := schedule160 bytes start
  let step (s : Words) (i : Nat) : Words :=
    let (a, b, c, d, e) := (s.at 0, s.at 1, s.at 2, s.at 3, s.at 4)
    let (f, k) : UInt32 × UInt32 := match i / 20 with
      | 0 => ((b &&& c) ||| (~~~b &&& d), 0x5A827999)
      | 1 => (b ^^^ c ^^^ d, 0x6ED9EBA1)
      | 2 => ((b &&& c) ||| (b &&& d) ||| (c &&& d), 0x8F1BBCDC)
      | _ => (b ^^^ c ^^^ d, 0xCA62C1D6)
    #[rotateLeft a 5 + f + e + k + schedule.at i, a, rotateLeft b 30, c, d]
  Words.add words ((List.range 80).foldl step words)

/-- The digest of 160 bits. -/
def digest160 (bytes : Bytes) : List Char :=
  (overBlocks block160 #[0x67452301, 0xEFCDAB89, 0x98BADCFE, 0x10325476, 0xC3D2E1F0]
    (padded false bytes)).hexadecimal false

/-- The first bits of the fractional parts of the cube roots of primes. -/
def roots : Array UInt32 :=
  #[0x428a2f98, 0x71374491, 0xb5c0fbcf, 0xe9b5dba5, 0x3956c25b, 0x59f111f1, 0x923f82a4, 0xab1c5ed5,
    0xd807aa98, 0x12835b01, 0x243185be, 0x550c7dc3, 0x72be5d74, 0x80deb1fe, 0x9bdc06a7, 0xc19bf174,
    0xe49b69c1, 0xefbe4786, 0x0fc19dc6, 0x240ca1cc, 0x2de92c6f, 0x4a7484aa, 0x5cb0a9dc, 0x76f988da,
    0x983e5152, 0xa831c66d, 0xb00327c8, 0xbf597fc7, 0xc6e00bf3, 0xd5a79147, 0x06ca6351, 0x14292967,
    0x27b70a85, 0x2e1b2138, 0x4d2c6dfc, 0x53380d13, 0x650a7354, 0x766a0abb, 0x81c2c92e, 0x92722c85,
    0xa2bfe8a1, 0xa81a664b, 0xc24b8b70, 0xc76c51a3, 0xd192e819, 0xd6990624, 0xf40e3585, 0x106aa070,
    0x19a4c116, 0x1e376c08, 0x2748774c, 0x34b0bcb5, 0x391c0cb3, 0x4ed8aa4a, 0x5b9cca4f, 0x682e6ff3,
    0x748f82ee, 0x78a5636f, 0x84c87814, 0x8cc70208, 0x90befffa, 0xa4506ceb, 0xbef9a3f7, 0xc67178f2]

/-- The words of a block continued to sixty-four. -/
def schedule256 (bytes : ByteArray) (start : Nat) : Words :=
  let first := (Array.range 16).map fun i => bigWord bytes (start + 4 * i)
  (List.range 48).foldl (fun (w : Words) i =>
    let (x, y) := (w.at (i + 1), w.at (i + 14))
    let s := rotateRight x 7 ^^^ rotateRight x 18 ^^^ (x >>> 3)
    let t := rotateRight y 17 ^^^ rotateRight y 19 ^^^ (y >>> 10)
    w.push (w.at i + s + w.at (i + 9) + t)) first

/-- One block of the digest of 256 bits. -/
def block256 (words : Words) (bytes : ByteArray) (start : Nat) : Words :=
  let schedule := schedule256 bytes start
  let step (s : Words) (i : Nat) : Words :=
    let (a, b, c, d) := (s.at 0, s.at 1, s.at 2, s.at 3)
    let (e, f, g, h) := (s.at 4, s.at 5, s.at 6, s.at 7)
    let t := rotateRight e 6 ^^^ rotateRight e 11 ^^^ rotateRight e 25
    let first := h + t + ((e &&& f) ^^^ (~~~e &&& g)) + (roots[i]?).getD 0 + schedule.at i
    let u := rotateRight a 2 ^^^ rotateRight a 13 ^^^ rotateRight a 22
    let second := u + ((a &&& b) ^^^ (a &&& c) ^^^ (b &&& c))
    #[first + second, a, b, c, d + first, e, f, g]
  Words.add words ((List.range 64).foldl step words)

/-- The digest of 256 bits. -/
def digest256 (bytes : Bytes) : List Char :=
  (overBlocks block256 #[0x6a09e667, 0xbb67ae85, 0x3c6ef372, 0xa54ff53a, 0x510e527f, 0x9b05688c,
    0x1f83d9ab, 0x5be0cd19] (padded false bytes)).hexadecimal false

end CheckedBuild.Machine.Digest
