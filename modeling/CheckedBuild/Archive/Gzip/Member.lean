import CheckedBuild.Archive.Deflate.Compress
import CheckedBuild.Archive.Gzip

/-!
# Packed files

A packed file begins with a header, which may tell the name and the time of what was packed. What
follows its trailer may be another packed file.
-/

namespace CheckedBuild.Gzip

/-- How much was asked of the packing. -/
inductive Effort where
  | least
  | usual
  | most
deriving DecidableEq

/-- The byte of a header that tells the effort. -/
def Effort.byte : Effort → UInt8
  | .least => 4
  | .usual => 0
  | .most => 2

/-- The header of a packed file: its time in seconds, and its name if that is told. -/
def memberHeader (effort : Effort) (time : Nat) (name? : Option Bytes) : Bytes :=
  [0x1f, 0x8b, 8, if name?.isSome then 8 else 0] ++ littleEndian 4 time ++ [effort.byte, 3]
    ++ (name?.map (· ++ [0])).getD []

/-- A packed file. -/
def packMember (effort : Effort) (time : Nat) (name? : Option Bytes) (bytes : Bytes) : Bytes :=
  memberHeader effort time name? ++ Deflate.compressSmallest bytes ++ trailer bytes

/-- What is told about a packed file in its header. -/
structure MemberHeader where
  time : Nat
  name? : Option Bytes
deriving Repr

/-- Why something cannot be unpacked. -/
inductive MemberError where
  | foreign
  | cutShort
  | damaged
  /-- The checksum differs from that of the bytes. -/
  | wrongSum (bytes : Bytes)
  /-- The length differs from that of the bytes. -/
  | wrongLength (bytes : Bytes)
deriving Repr

/-- The number of some bytes, the lowest one first. -/
def numberOf (bytes : Bytes) : Nat := bytes.foldr (fun b n => n * 256 + b.toNat) 0

/-- Takes a text that ends in a zero. -/
def takeText (bytes : Bytes) : Except MemberError (Bytes × Bytes) :=
  let text := bytes.takeWhile (· ≠ 0)
  match bytes.drop text.length with
  | _ :: rest => .ok (text, rest)
  | [] => .error .cutShort

/-- Reads the header of a packed file; the second result is what follows it. -/
def readHeader (packed : Bytes) : Except MemberError (MemberHeader × Bytes) := do
  match packed with
  | 0x1f :: 0x8b :: 8 :: flags :: rest =>
    if rest.length < 6 then .error .cutShort
    else
      let time := numberOf (rest.take 4)
      let rest := rest.drop 6
      let has (bit : UInt8) : Bool := flags &&& bit != 0
      let rest ← if has 4 then
          let length := numberOf (rest.take 2)
          if rest.length < 2 + length then .error .cutShort else .ok (rest.drop (2 + length))
        else .ok rest
      let (name?, rest) ← if has 8 then (takeText rest).map fun (name, rest) => (some name, rest)
        else .ok (none, rest)
      let rest ← if has 16 then (takeText rest).map (·.2) else .ok rest
      .ok (⟨time, name?⟩, if has 2 then rest.drop 2 else rest)
  | _ =>
    if packed.length < 2 || (packed.take 2 = [0x1f, 0x8b] && packed.length < 4) then
      .error .cutShort
    else .error .foreign

/-- Whether a compressed stream that cannot be expanded merely ends too early: then something can
be added that completes it. -/
def isCutShort (stream : Bytes) : Bool :=
  stream.isEmpty || [0x00, 0x55, 0xAA, 0xFF, 0x92].any fun filler =>
    (Deflate.expand? (stream ++ List.replicate 512 filler ++ List.replicate 64 0)).isSome

/-- Unpacks a packed file; the results are its header, its bytes and what follows it. -/
def unpackMember (packed : Bytes) : Except MemberError (MemberHeader × Bytes × Bytes) := do
  let (header, stream) ← readHeader packed
  match Deflate.expand? stream with
  | none => .error (if isCutShort stream then .cutShort else .damaged)
  | some (bytes, rest) =>
    if rest.length < 8 then .error .cutShort
    else if numberOf (rest.take 4) ≠ (checksum bytes).toNat then .error (.wrongSum bytes)
    else if numberOf ((rest.drop 4).take 4) ≠ bytes.length % Nat.pow 2 32 then
      .error (.wrongLength bytes)
    else .ok (header, bytes, rest.drop 8)

/-- What follows the packed files of a stream. -/
inductive Remainder where
  | nothing
  | junk
  | error (error : MemberError)

/-- Unpacks all packed files of a stream after the first one. -/
def unpackMore (fuel : Nat) (packed : Bytes) : Bytes × Remainder :=
  match fuel with
  | 0 => ([], .nothing)
  | fuel + 1 =>
    if packed.all (· = 0) then ([], .nothing)
    else
      match unpackMember packed with
      | .ok (_, bytes, rest) =>
        let (more, remainder) := unpackMore fuel rest
        (bytes ++ more, remainder)
      | .error .foreign => ([], .junk)
      | .error error => ([], .error error)

end CheckedBuild.Gzip
