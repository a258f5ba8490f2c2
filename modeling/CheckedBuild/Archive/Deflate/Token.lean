import CheckedBuild.Text.Utf8

/-!
# Tokens of a compressed stream

A compressed stream is a row of tokens: a literal byte, or a copy of bytes that came before. The
lengths and the distances of copies fall into classes. A class has a symbol, and extra bits tell
its members apart.
-/

namespace CheckedBuild.Deflate

/-- A token. A copy repeats `length` bytes, the first of which lies `distance` bytes back. -/
inductive Token where
  | literal (byte : UInt8)
  | copy (length distance : Nat)
deriving DecidableEq, Repr

/-- How many bytes a token stands for. -/
def Token.size : Token → Nat
  | .literal _ => 1
  | .copy length _ => length

/-- A class of numbers: the least one, and how many extra bits tell the members apart. -/
structure NumberClass where
  least : Nat
  extraBits : Nat
deriving DecidableEq, Repr

/-- Classes one after another: `counts` says how many have each number of extra bits, from none
on. The first class begins with `least`. -/
def classesFrom (least extraBits : Nat) : List Nat → List NumberClass
  | [] => []
  | count :: rest =>
    ((List.range count).map fun i => ⟨least + i * Nat.pow 2 extraBits, extraBits⟩)
      ++ classesFrom (least + count * Nat.pow 2 extraBits) (extraBits + 1) rest

/-- The greatest length of a copy, which is in a class of its own. -/
def longestCopy : Nat := 258

/-- The least length of a copy. -/
def shortestCopy : Nat := 3

/-- How far back a copy may reach. -/
def windowSize : Nat := 32768

/-- The classes of lengths. -/
def lengthClasses : List NumberClass :=
  classesFrom shortestCopy 0 [8, 4, 4, 4, 4, 4] ++ [⟨longestCopy, 0⟩]

/-- The classes of distances. -/
def distanceClasses : List NumberClass :=
  classesFrom 1 0 [4, 2, 2, 2, 2, 2, 2, 2, 2, 2, 2, 2, 2, 2]

/-- The index of the class that a number belongs to, and the class. -/
def classOf (classes : List NumberClass) (n : Nat) : Nat × NumberClass :=
  let index := (classes.takeWhile (·.least ≤ n)).length - 1
  (index, classes.getD index ⟨0, 0⟩)

/-- The symbol that ends a block. -/
def endOfBlock : Nat := 256

/-- The symbol of the first class of lengths. -/
def firstLengthSymbol : Nat := 257

/-- How many symbols literals and lengths have, and how many distances. -/
def literalSymbols : Nat := 288

/-- How many symbols distances have. -/
def distanceSymbols : Nat := 32

/-- The lowest `width` bits of a number, the lowest first. -/
def bitsOf (width n : Nat) : List Bool :=
  match width with
  | 0 => []
  | more + 1 => (n % 2 == 1) :: bitsOf more (n / 2)

/-- The number of some bits, the lowest first. -/
def ofBits (bits : List Bool) : Nat :=
  bits.foldr (fun bit n => bit.toNat + 2 * n) 0

end CheckedBuild.Deflate
