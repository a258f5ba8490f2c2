import CheckedBuild.Archive.Listing
import CheckedBuild.Archive.Tar

/-!
# Entries of tar streams

An entry stands for a file, a directory or something else with a name. Its header tells its
permissions and its time, and the data of a file follow in whole blocks. A name or a target that
is too long for the header stands in a record of its own in front of it.
-/

namespace CheckedBuild.Tar

/-- What an entry stands for. -/
inductive EntryKind where
  | file
  /-- Another name for an earlier entry. -/
  | sameAs (target : Bytes)
  | link (target : Bytes)
  | directory
  | pipe
  | other
deriving DecidableEq, Repr

/-- An entry. -/
structure Entry where
  name : Bytes
  kind : EntryKind
  mode : Nat
  /-- In seconds. -/
  time : Nat
  data : Bytes := []
deriving Repr

/-- The number of a kind as an ASCII digit. -/
def EntryKind.digit : EntryKind → UInt8
  | .file => 0x30
  | .sameAs _ => 0x31
  | .link _ => 0x32
  | .directory => 0x35
  | .pipe => 0x36
  | .other => 0x30

/-- What an entry points to. -/
def EntryKind.target : EntryKind → Bytes
  | .sameAs target | .link target => target
  | _ => []

/-- A text in a field of a fixed size. -/
def fieldOf (size : Nat) (text : Bytes) : Bytes :=
  let text := text.take size
  text ++ List.replicate (size - text.length) 0

/-- The header of an entry around its checksum. -/
def entryHeaderWith (sum : Bytes) (name target : Bytes) (digit : UInt8) (mode size time : Nat) :
    Bytes :=
  let front := fieldOf nameSize name ++ octal 7 mode ++ 0 :: octal 7 0 ++ 0 :: octal 7 0
    ++ 0 :: sizeField size ++ octal 11 time ++ 0 :: sum ++ digit :: fieldOf nameSize target
    ++ magic ++ fieldOf 32 (Utf8.bytesOf "root") ++ fieldOf 32 (Utf8.bytesOf "root")
  front ++ List.replicate (blockSize - front.length) 0

/-- The header of an entry. -/
def entryHeader (name target : Bytes) (digit : UInt8) (mode size time : Nat) : Bytes :=
  let blank := entryHeaderWith (List.replicate 8 0x20) name target digit mode size time
  entryHeaderWith (octal 6 (byteSum blank) ++ [0, 0x20]) name target digit mode size time

/-- A record for a text that is too long for the header behind it. -/
def longRecord (digit : UInt8) (text : Bytes) : Bytes :=
  if text.length ≤ nameSize then []
  else
    let text := text ++ [0]
    entryHeader (Utf8.bytesOf "././@LongLink") [] digit 0o644 text.length 0 ++ padded text

/-- An entry as it stands in the stream. -/
def Entry.write (entry : Entry) : Bytes :=
  let target := entry.kind.target
  longRecord 0x4b target ++ longRecord 0x4c entry.name
    ++ entryHeader entry.name target entry.kind.digit entry.mode entry.data.length entry.time
    ++ padded entry.data

/-- The size of the records in which a stream is written. -/
def recordSize : Nat := 20 * blockSize

/-- The entries as a stream of whole records. -/
def writeEntries (entries : List Entry) : Bytes :=
  let bytes := entries.flatMap Entry.write ++ List.replicate (2 * blockSize) 0
  bytes ++ List.replicate ((recordSize - bytes.length % recordSize) % recordSize) 0

/-- The number that octal digits stand for. -/
def octalNumber (field : Bytes) : Nat :=
  let digits := (field.dropWhile (· = 0x20)).takeWhile fun b => 0x30 ≤ b && b ≤ 0x37
  digits.foldl (fun n b => n * 8 + (b.toNat - 48)) 0

/-- The size that a field tells. -/
def sizeNumber (field : Bytes) : Nat :=
  match field with
  | [] => 0
  | mark :: rest =>
    if mark = wideMark then rest.foldl (fun n b => n * 256 + b.toNat) 0
    else octalNumber (mark :: rest)

/-- Whether a block is a header: its checksum is right. -/
def isHeader (block : Bytes) : Bool :=
  let blank := block.take 148 ++ List.replicate 8 0x20 ++ block.drop 156
  block.length = blockSize && octalNumber ((block.drop 148).take 8) = byteSum blank

/-- The value of a key in a record of keys and values, each of which is led by its length. -/
def extendedValue? (key : Bytes) (fuel : Nat) (record : Bytes) : Option Bytes :=
  match fuel with
  | 0 => none
  | fuel + 1 =>
    let digits := record.takeWhile fun b => 0x30 ≤ b && b ≤ 0x39
    let length := digits.foldl (fun n b => n * 10 + (b.toNat - 48)) 0
    if length = 0 then none
    else
      let line := (record.take length).drop (digits.length + 1)
      if (key ++ [0x3d]).isPrefixOf line then some ((line.drop (key.length + 1)).dropLast)
      else extendedValue? key fuel (record.drop length)

/-- What records in front of a header say about the entry. -/
structure Ahead where
  name? : Option Bytes := none
  target? : Option Bytes := none

/-- Why a stream cannot be read. -/
inductive StreamError where
  | foreign
  | cutShort
deriving DecidableEq, Repr

/-- Reads the entries of a stream; an error comes after the entries in front of it. -/
def readEntries (fuel : Nat) (ahead : Ahead) (isFirst : Bool) (stream : Bytes) :
    List Entry × Option StreamError :=
  match fuel with
  | 0 => ([], none)
  | fuel + 1 =>
    let block := stream.take blockSize
    if block.length < blockSize then ([], if isFirst then some .foreign else none)
    else if block.all (· = 0) then ([], none)
    else if !isHeader block then
      let (entries, error) := readEntries fuel {} false (stream.drop blockSize)
      (entries, if isFirst || error.isNone then some .foreign else error)
    else
      let digit := (block.drop 156).headD 0
      let size := sizeNumber ((block.drop 124).take 12)
      let blocks := (size + blockSize - 1) / blockSize * blockSize
      let body := stream.drop blockSize
      let data := body.take size
      let rest := body.drop blocks
      let text := data.takeWhile (· ≠ 0)
      if digit = 0x4c then readEntries fuel { ahead with name? := some text } false rest
      else if digit = 0x4b then readEntries fuel { ahead with target? := some text } false rest
      else if digit = 0x78 then
        let value? (key : String) : Option Bytes :=
          extendedValue? (Utf8.bytesOf key) (data.length + 1) data
        readEntries fuel
          ⟨value? "path" <|> ahead.name?, value? "linkpath" <|> ahead.target?⟩ false rest
      else if digit = 0x67 then readEntries fuel ahead false rest
      else
        let own := untilZero (block.take nameSize)
        let front := untilZero ((block.drop 345).take 155)
        let isOld := (block.drop 257).take 8 = magic
        let name := ahead.name?.getD
          (if isOld || front.isEmpty then own else front ++ 0x2f :: own)
        let target := ahead.target?.getD (untilZero ((block.drop 157).take nameSize))
        let kind : EntryKind :=
          if digit = 0x31 then .sameAs target
          else if digit = 0x32 then .link target
          else if digit = 0x35 || name.getLast? = some 0x2f then .directory
          else if digit = 0x36 then .pipe
          else if digit = 0x33 || digit = 0x34 then .other
          else .file
        let entry : Entry :=
          ⟨name, kind, octalNumber ((block.drop 100).take 8),
            octalNumber ((block.drop 136).take 12), if kind = .file then data else []⟩
        if body.length < size then ([entry], some .cutShort)
        else
          let (entries, error) := readEntries fuel {} false
            (if kind = .file then rest else body)
          (entry :: entries, error)

end CheckedBuild.Tar
