import CheckedBuild.Archive.Deflate.Compress
import CheckedBuild.Archive.Deflate.Expand
import CheckedBuild.Archive.Listing

/-!
# Gzip

A stream is packed in compressed form between a fixed header and a trailer with the checksum and
the length. The compressed form is expanded again before it is used: should it not give the
stream back, the stream is stored as it is. Unpacking checks the trailer.
-/

namespace CheckedBuild.Gzip

/-- The low `count` bytes of a number, the lowest first. -/
def littleEndian (count n : Nat) : Bytes :=
  match count with
  | 0 => []
  | more + 1 => UInt8.ofNat n :: littleEndian more (n / 256)

/-- One step of the checksum's polynomial division. -/
def divideBit (register : UInt32) : UInt32 :=
  if register &&& 1 = 1 then (register >>> 1) ^^^ 0xEDB88320 else register >>> 1

/-- The checksum's register after one more byte. -/
def divideByte (register : UInt32) (byte : UInt8) : UInt32 :=
  let r := register ^^^ byte.toUInt32
  divideBit (divideBit (divideBit (divideBit
    (divideBit (divideBit (divideBit (divideBit r)))))))

/-- The cyclic redundancy checksum of the bytes. -/
def checksum (bytes : Bytes) : UInt32 := ~~~ (bytes.foldl divideByte 0xFFFFFFFF)

/-- The magic number, the method, no flags, no time, the strongest effort, an unknown system. -/
def header : Bytes := [0x1f, 0x8b, 8, 0, 0, 0, 0, 0, 2, 0xff]

/-- The checksum and the length of a stream. -/
def trailer (bytes : Bytes) : Bytes :=
  littleEndian 4 (checksum bytes).toNat ++ littleEndian 4 bytes.length

/-- The most bytes that one block stores. -/
def blockSize : Nat := 65535

/-- A block that stores its bytes. -/
def storedBlock (last : Bool) (bytes : Bytes) : Bytes :=
  (if last then 1 else 0)
    :: (littleEndian 2 bytes.length ++ littleEndian 2 (65535 - bytes.length) ++ bytes)

/-- The blocks of the pieces, the last one marked. -/
def storedBlocks : List Bytes → Bytes
  | [] => storedBlock true []
  | [piece] => storedBlock true piece
  | piece :: rest => storedBlock false piece ++ storedBlocks rest

/-- The compressed form of a stream if it expands to the stream, or else the stream stored. -/
def body (bytes : Bytes) : Bytes :=
  let compressed := Deflate.compress bytes
  match Deflate.expand? compressed with
  | some (expanded, []) =>
    if expanded == bytes then compressed else storedBlocks (chunks blockSize bytes)
  | _ => storedBlocks (chunks blockSize bytes)

/-- The packed stream. -/
def pack (bytes : Bytes) : Bytes := header ++ body bytes ++ trailer bytes

/-- The stream that was packed. -/
def unpack? (packed : Bytes) : Option Bytes :=
  if packed.take header.length ≠ header then none
  else
    match Deflate.expand? (packed.drop header.length) with
    | some (bytes, rest) => if rest = trailer bytes then some bytes else none
    | none => none

end CheckedBuild.Gzip
