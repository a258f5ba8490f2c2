import CheckedBuild.Archive.Deflate.Token

/-!
# Prefix codes

A code gives each symbol a word of bits, and no word begins another one. Frequent symbols have
short words. The lengths of the words determine the code: words are assigned in the order of their
lengths, and of the symbols among words of one length.
-/

namespace CheckedBuild.Deflate

/-- How many leaves a binary tree has at each depth, from the root on. -/
abbrev Profile := List Nat

/-- The leaves of two trees at each depth. -/
def Profile.both : Profile → Profile → Profile
  | [], more => more
  | more, [] => more
  | m :: rest, n :: other => (m + n) :: Profile.both rest other

/-- A tree with the total frequency of its symbols. -/
structure Weighted where
  weight : Nat
  profile : Profile
deriving Repr

/-- The tree whose branches are two trees. -/
def Weighted.join (a b : Weighted) : Weighted :=
  ⟨a.weight + b.weight, 0 :: a.profile.both b.profile⟩

/-- Takes the lightest tree out of the leaves and the joined trees, both of which are in order. Of
two equally light ones it is the leaf. -/
def lightest (leaves : List Nat) (joined : List Weighted) :
    Option (Weighted × List Nat × List Weighted) :=
  match leaves, joined with
  | [], [] => none
  | [], tree :: trees => some (tree, [], trees)
  | leaf :: rest, [] => some (⟨leaf, [1]⟩, rest, [])
  | leaf :: rest, tree :: trees =>
    if tree.weight < leaf then some (tree, leaf :: rest, trees)
    else some (⟨leaf, [1]⟩, rest, tree :: trees)

/-- Joins the two lightest trees until one is left; `steps` bounds how often. -/
def joinAll (steps : Nat) (leaves : List Nat) (joined : List Weighted) : Profile :=
  match steps with
  | 0 => []
  | steps + 1 =>
    match lightest leaves joined with
    | none => []
    | some (first, leaves, joined) =>
      match lightest leaves joined with
      | none => first.profile
      | some (second, leaves, joined) => joinAll steps leaves (joined ++ [first.join second])

/-- The numbers of words of each length from 0 to `limit`, where longer ones are cut down. -/
def cutDown (limit : Nat) (profile : Profile) : Array Nat :=
  let kept := (List.range limit).map fun length => profile.getD length 0
  (kept ++ [(profile.drop limit).foldl (· + ·) 0]).toArray

/-- How much of the code space words of these numbers need, in units of the longest word. -/
def spaceNeeded (counts : Array Nat) : Nat :=
  (List.range counts.size).foldl (fun units length =>
    if length = 0 then units
    else units + counts.getD length 0 * Nat.pow 2 (counts.size - 1 - length)) 0

/-- Frees one unit of the code space: a longest word takes the place beside a shorter one. -/
def relieve (counts : Array Nat) : Array Nat :=
  let limit := counts.size - 1
  let counts := counts.modify limit (· - 1)
  match (List.range limit).reverse.find? fun length =>
      decide (0 < length) && counts.getD length 0 != 0 with
  | some length => (counts.modify length (· - 1)).modify (length + 1) (· + 2)
  | none => counts

/-- The numbers of words of each length from 0 to `limit` for symbols of these frequencies, which
are in order. -/
def lengthCounts (limit : Nat) (frequencies : List Nat) : Array Nat :=
  match frequencies with
  | [] => cutDown limit []
  | [_] => cutDown limit [0, 1]
  | _ =>
    let counts := cutDown limit (joinAll frequencies.length frequencies [])
    Nat.repeat relieve (spaceNeeded counts - Nat.pow 2 limit) counts

/-- The lengths of the words for symbols of these frequencies; a symbol that does not occur has
none. -/
def codeLengths (limit : Nat) (frequencies : Array Nat) : Array Nat :=
  let used := frequencies.toList.zipIdx.filter fun (frequency, _) => frequency ≠ 0
  let sorted := used.mergeSort fun a b => decide (a.1 ≤ b.1)
  let counts := lengthCounts limit (sorted.map (·.1))
  let lengths := (List.range (limit + 1)).flatMap fun length =>
    if length = 0 then [] else List.replicate (counts.getD length 0) length
  (sorted.reverse.zip lengths).foldl (fun known ((_, symbol), length) =>
    known.setIfInBounds symbol length) (Array.replicate frequencies.size 0)

/-- The greatest length of a word. -/
def longestWord : Nat := 15

/-- Assigns words in order; `start` is the used part of the code space. -/
def assignWords (start : Nat) (symbols : List (Nat × Nat)) (words : Array (List Bool)) :
    Array (List Bool) :=
  match symbols with
  | [] => words
  | (length, symbol) :: rest =>
    let unit := Nat.pow 2 (longestWord - length)
    assignWords (start + unit) rest
      (words.setIfInBounds symbol (bitsOf length (start / unit)).reverse)

/-- The words of a code whose words have these lengths. -/
def wordsOf (lengths : Array Nat) : Array (List Bool) :=
  let used := lengths.toList.zipIdx.filter fun (length, _) => length ≠ 0
  assignWords 0 (used.mergeSort fun a b => decide (a.1 ≤ b.1)) (Array.replicate lengths.size [])

/-- The lengths of the fixed code for literals and lengths. -/
def fixedLiteralLengths : Array Nat :=
  (List.replicate 144 8 ++ List.replicate 112 9 ++ List.replicate 24 7
    ++ List.replicate 8 8).toArray

/-- The lengths of the fixed code for distances. -/
def fixedDistanceLengths : Array Nat := Array.replicate distanceSymbols 5

/-- A code for literals and lengths and a code for distances. -/
structure Codes where
  literals : Array (List Bool)
  distances : Array (List Bool)

/-- The codes whose words have these lengths. -/
def Codes.ofLengths (literals distances : Array Nat) : Codes :=
  ⟨wordsOf literals, wordsOf distances⟩

/-- The bits of a token. -/
def Codes.token (codes : Codes) : Token → List Bool
  | .literal byte => codes.literals.getD byte.toNat []
  | .copy length distance =>
    let (lengthIndex, lengths) := classOf lengthClasses length
    let (distanceIndex, distances) := classOf distanceClasses distance
    codes.literals.getD (firstLengthSymbol + lengthIndex) []
      ++ bitsOf lengths.extraBits (length - lengths.least)
      ++ codes.distances.getD distanceIndex []
      ++ bitsOf distances.extraBits (distance - distances.least)

/-- The bits of tokens and of the end of their block. -/
def Codes.tokens (codes : Codes) (tokens : List Token) : List Bool :=
  tokens.flatMap codes.token ++ codes.literals.getD endOfBlock []

/-! ## The lengths of a code, written down

A block with codes of its own begins with the lengths of their words. A row of equal lengths is
written as one symbol with extra bits for the number of repetitions. These symbols have a code
themselves, whose lengths are written first, in an order of their own.
-/

/-- A symbol in a list of lengths, with extra bits. -/
structure LengthSymbol where
  symbol : Nat
  extraBits : Nat := 0
  extra : Nat := 0
deriving DecidableEq, Repr

/-- The symbols for lengths: the lengths themselves and three kinds of repetitions. -/
def lengthAlphabet : Nat := 19

/-- The length before once more. -/
def repeatLast : Nat := 16

/-- A few zeros. -/
def fewZeros : Nat := 17

/-- Many zeros. -/
def manyZeros : Nat := 18

/-- The order in which the lengths of the code for lengths are written. -/
def writingOrder : List Nat := [16, 17, 18, 0, 8, 7, 9, 6, 10, 5, 11, 4, 12, 3, 13, 2, 14, 1, 15]

/-- A number cut into pieces of the size `most` and what remains. -/
def pieceSizes (most n : Nat) : List Nat :=
  List.replicate (n / most) most ++ (if n % most = 0 then [] else [n % most])

/-- The symbols for zeros in a row. -/
def zeroSymbols (count : Nat) : List LengthSymbol :=
  if count < 3 then List.replicate count ⟨0, 0, 0⟩
  else if count ≤ 10 then [⟨fewZeros, 3, count - 3⟩]
  else [⟨manyZeros, 7, count - 11⟩]

/-- The symbols for a length that is repeated some more times. -/
def repeatSymbols (length count : Nat) : List LengthSymbol :=
  if count < 3 then List.replicate count ⟨length, 0, 0⟩ else [⟨repeatLast, 2, count - 3⟩]

/-- The symbols for a row of equal lengths. -/
def rowSymbols (row : List Nat) : List LengthSymbol :=
  match row with
  | [] => []
  | 0 :: _ => (pieceSizes 138 row.length).flatMap zeroSymbols
  | length :: rest =>
    ⟨length, 0, 0⟩ :: (pieceSizes 6 rest.length).flatMap (repeatSymbols length)

/-- The symbols for a list of lengths. -/
def symbolsOf (lengths : List Nat) : List LengthSymbol :=
  (lengths.splitBy (· == ·)).flatMap rowSymbols

/-- A list without the zeros at its end, but not shorter than `least`. -/
def withoutFinalZeros (least : Nat) (lengths : List Nat) : List Nat :=
  lengths.take least ++ ((lengths.drop least).reverse.dropWhile (· == 0)).reverse

/-- The bits of the lengths of two codes. -/
def lengthBits (literals distances : Array Nat) : List Bool :=
  let literals := withoutFinalZeros firstLengthSymbol literals.toList
  let distances := withoutFinalZeros 1 distances.toList
  let symbols := symbolsOf (literals ++ distances)
  let frequencies := symbols.foldl (fun known s => known.modify s.symbol (· + 1))
    (Array.replicate lengthAlphabet 0)
  let lengths := codeLengths 7 frequencies
  let words := wordsOf lengths
  let written := withoutFinalZeros 4 (writingOrder.map fun symbol => lengths.getD symbol 0)
  bitsOf 5 (literals.length - firstLengthSymbol) ++ bitsOf 5 (distances.length - 1)
    ++ bitsOf 4 (written.length - 4) ++ written.flatMap (bitsOf 3)
    ++ symbols.flatMap fun s => words.getD s.symbol [] ++ bitsOf s.extraBits s.extra

end CheckedBuild.Deflate
