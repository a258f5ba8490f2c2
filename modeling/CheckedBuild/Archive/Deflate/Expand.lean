import CheckedBuild.Archive.Deflate.Code

/-!
# Expanding

A compressed stream is read bit by bit. A code is read with a tree whose leaves are the symbols.
Every step that reads may fail, because the stream ends or holds what no stream can hold.
-/

namespace CheckedBuild.Deflate

/-- What is left to be read: the bits of a byte that was begun, and the bytes after it. -/
structure Reader where
  held : List Bool
  rest : Bytes

namespace Reader

/-- Reads a bit. -/
def bit? (reader : Reader) : Option (Bool × Reader) :=
  match reader.held, reader.rest with
  | bit :: held, rest => some (bit, ⟨held, rest⟩)
  | [], byte :: rest =>
    match bitsOf 8 byte.toNat with
    | bit :: held => some (bit, ⟨held, rest⟩)
    | [] => none
  | [], [] => none

/-- Reads bits. -/
def bits? (reader : Reader) (count : Nat) : Option (List Bool × Reader) :=
  match count with
  | 0 => some ([], reader)
  | more + 1 => do
    let (bit, reader) ← reader.bit?
    let (bits, reader) ← reader.bits? more
    some (bit :: bits, reader)

/-- Reads a number of some bits, the lowest first. -/
def number? (reader : Reader) (width : Nat) : Option (Nat × Reader) :=
  (reader.bits? width).map fun (bits, reader) => (ofBits bits, reader)

/-- How many bits are left. -/
def bitCount (reader : Reader) : Nat := reader.held.length + 8 * reader.rest.length

end Reader

/-- A tree that reads words: a bit chooses the branch. -/
inductive Tree where
  | empty
  | leaf (symbol : Nat)
  | branch (zero one : Tree)

namespace Tree

/-- The tree with one more word. -/
def insert (tree : Tree) (symbol : Nat) : List Bool → Tree
  | [] => .leaf symbol
  | bit :: rest =>
    let (zero, one) := match tree with
      | .branch zero one => (zero, one)
      | _ => (.empty, .empty)
    if bit then .branch zero (one.insert symbol rest) else .branch (zero.insert symbol rest) one

/-- The tree of the words of a code. -/
def ofWords (words : Array (List Bool)) : Tree :=
  words.toList.zipIdx.foldl (fun tree (word, symbol) =>
    if word.isEmpty then tree else tree.insert symbol word) .empty

/-- Reads a symbol. -/
def read? (reader : Reader) : Tree → Option (Nat × Reader)
  | .empty => none
  | .leaf symbol => some (symbol, reader)
  | .branch zero one =>
    match reader.bit? with
    | some (true, reader) => one.read? reader
    | some (false, reader) => zero.read? reader
    | none => none

end Tree

/-- The trees of two codes. -/
structure Trees where
  literals : Tree
  distances : Tree

/-- The trees of the codes whose words have these lengths. -/
def Trees.ofLengths (literals distances : Array Nat) : Trees :=
  ⟨.ofWords (wordsOf literals), .ofWords (wordsOf distances)⟩

/-- Repeats bytes that were expanded already. -/
def copyBytes (distance : Nat) (bytes : Array UInt8) (count : Nat) : Array UInt8 :=
  match count with
  | 0 => bytes
  | more + 1 => copyBytes distance (bytes.push (bytes.getD (bytes.size - distance) 0)) more

/-- Reads a number of a class. -/
def readClass? (classes : List NumberClass) (index : Nat) (reader : Reader) :
    Option (Nat × Reader) := do
  let found ← classes[index]?
  let (extra, reader) ← reader.number? found.extraBits
  some (found.least + extra, reader)

/-- Expands one token. The flag tells that it is the one that ends its block. -/
def expandToken (trees : Trees) (bytes : Array UInt8) (reader : Reader) :
    Option ((Array UInt8 × Bool) × Reader) := do
  let (symbol, reader) ← trees.literals.read? reader
  if symbol < endOfBlock then some ((bytes.push (UInt8.ofNat symbol), false), reader)
  else if symbol = endOfBlock then some ((bytes, true), reader)
  else
    let (length, reader) ← readClass? lengthClasses (symbol - firstLengthSymbol) reader
    let (symbol, reader) ← trees.distances.read? reader
    let (distance, reader) ← readClass? distanceClasses symbol reader
    if bytes.size < distance then none
    else some ((copyBytes distance bytes length, false), reader)

/-- Expands tokens up to the end of their block; `steps` bounds how many. -/
def expandTokens (trees : Trees) (steps : Nat) (bytes : Array UInt8) (reader : Reader) :
    Option (Array UInt8 × Reader) :=
  match steps with
  | 0 => none
  | steps + 1 =>
    match expandToken trees bytes reader with
    | none => none
    | some ((bytes, ends), reader) =>
      if ends then some (bytes, reader) else expandTokens trees steps bytes reader

/-- Reads `count` lengths of a code after those that were read already, the last one first. -/
def readLengths? (tree : Tree) (steps count : Nat) (lengths : List Nat) (reader : Reader) :
    Option (List Nat × Reader) :=
  match steps with
  | 0 => none
  | steps + 1 =>
    if lengths.length = count then some (lengths.reverse, reader)
    else if count < lengths.length then none
    else do
      let (symbol, reader) ← tree.read? reader
      if symbol = repeatLast then
        let (extra, reader) ← reader.number? 2
        let last ← lengths.head?
        readLengths? tree steps count (List.replicate (extra + 3) last ++ lengths) reader
      else if symbol = fewZeros then
        let (extra, reader) ← reader.number? 3
        readLengths? tree steps count (List.replicate (extra + 3) 0 ++ lengths) reader
      else if symbol = manyZeros then
        let (extra, reader) ← reader.number? 7
        readLengths? tree steps count (List.replicate (extra + 11) 0 ++ lengths) reader
      else readLengths? tree steps count (symbol :: lengths) reader

/-- Reads the lengths of the code for lengths. -/
def readOrder? (lengths : Array Nat) (reader : Reader) : List Nat → Option (Array Nat × Reader)
  | [] => some (lengths, reader)
  | symbol :: rest => do
    let (length, reader) ← reader.number? 3
    readOrder? (lengths.setIfInBounds symbol length) reader rest

/-- Reads the codes that a block begins with. -/
def readTrees? (reader : Reader) : Option (Trees × Reader) := do
  let (literalCount, reader) ← reader.number? 5
  let (distanceCount, reader) ← reader.number? 5
  let (writtenCount, reader) ← reader.number? 4
  let (lengths, reader) ← readOrder? (Array.replicate lengthAlphabet 0) reader
    (writingOrder.take (writtenCount + 4))
  let literalCount := literalCount + firstLengthSymbol
  let count := literalCount + distanceCount + 1
  let (lengths, reader) ←
    readLengths? (.ofWords (wordsOf lengths)) (count + 1) count [] reader
  some (.ofLengths (lengths.take literalCount).toArray (lengths.drop literalCount).toArray, reader)

/-- Expands a block that stores its bytes. It begins with the next whole byte. -/
def expandStored (bytes : Array UInt8) (reader : Reader) : Option (Array UInt8 × Reader) :=
  match (⟨[], reader.rest⟩ : Reader).number? 16 with
  | none => none
  | some (size, reader) =>
    match reader.number? 16 with
    | none => none
    | some (check, reader) =>
      if size + check ≠ 65535 ∨ reader.rest.length < size then none
      else some (bytes ++ (reader.rest.take size).toArray, ⟨[], reader.rest.drop size⟩)

/-- Expands one block of a kind. -/
def expandBlock (kind : Nat) (bytes : Array UInt8) (reader : Reader) :
    Option (Array UInt8 × Reader) :=
  match kind with
  | 0 => expandStored bytes reader
  | 1 =>
    expandTokens (.ofLengths fixedLiteralLengths fixedDistanceLengths) (reader.bitCount + 1)
      bytes reader
  | 2 =>
    match readTrees? reader with
    | some (trees, reader) => expandTokens trees (reader.bitCount + 1) bytes reader
    | none => none
  | _ => none

/-- Expands blocks up to the last one; `steps` bounds how many. -/
def expandBlocks (steps : Nat) (bytes : Array UInt8) (reader : Reader) :
    Option (Array UInt8 × Reader) :=
  match steps with
  | 0 => none
  | steps + 1 =>
    match reader.bit? with
    | none => none
    | some (last, reader) =>
      match reader.number? 2 with
      | none => none
      | some (kind, reader) =>
        match expandBlock kind bytes reader with
        | none => none
        | some (bytes, reader) =>
          if last then some (bytes, reader) else expandBlocks steps bytes reader

/-- The bytes that were compressed, and what follows the compressed stream. -/
def expand? (stream : Bytes) : Option (Bytes × Bytes) :=
  (expandBlocks (stream.length + 1) #[] ⟨[], stream⟩).map fun (bytes, reader) =>
    (bytes.toList, reader.rest)

end CheckedBuild.Deflate
