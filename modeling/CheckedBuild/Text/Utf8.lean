/-!
# UTF-8

Decoding never fails: every maximal run of bytes that begins a character without completing it,
and every byte that begins none, becomes one U+FFFD. The decoder is a machine that reads one byte
at a time, so decoding a concatenation continues from the state that the first part leaves.
-/

namespace CheckedBuild

/-- A sequence of bytes. -/
abbrev Bytes := List UInt8

namespace Utf8

/-- The bytes of a text. -/
def encode (s : List Char) : Bytes := s.flatMap String.utf8EncodeChar

/-- What the decoder expects next. -/
inductive State where
  /-- The first byte of a character. -/
  | boundary
  /-- `missing + 1` more bytes, the next one from `low` to `high`; the bits so far are `bits`. -/
  | inside (missing : Nat) (low high : UInt8) (bits : Nat)
deriving DecidableEq, Repr

/-- The character that stands for undecodable bytes. -/
def replacement : Char := Char.ofNat 0xFFFD

/-- Reads the first byte of a character. -/
def first (b : UInt8) : State × List Char :=
  if b < 0x80 then (.boundary, [Char.ofNat b.toNat])
  else if b < 0xC2 then (.boundary, [replacement])
  else if b < 0xE0 then (.inside 0 0x80 0xBF (b.toNat - 0xC0), [])
  else if b = 0xE0 then (.inside 1 0xA0 0xBF 0, [])
  else if b = 0xED then (.inside 1 0x80 0x9F 0xD, [])
  else if b < 0xF0 then (.inside 1 0x80 0xBF (b.toNat - 0xE0), [])
  else if b = 0xF0 then (.inside 2 0x90 0xBF 0, [])
  else if b < 0xF4 then (.inside 2 0x80 0xBF (b.toNat - 0xF0), [])
  else if b = 0xF4 then (.inside 2 0x80 0x8F 4, [])
  else (.boundary, [replacement])

/-- Reads one byte: the next state and the characters decided by it. -/
def next : State → UInt8 → State × List Char
  | .boundary, b => first b
  | .inside missing low high bits, b =>
    if low ≤ b ∧ b ≤ high then
      match missing with
      | 0 => (.boundary, [Char.ofNat (bits * 64 + (b.toNat - 0x80))])
      | more + 1 => (.inside more 0x80 0xBF (bits * 64 + (b.toNat - 0x80)), [])
    else
      ((first b).1, replacement :: (first b).2)

/-- The characters still owed when the input ends. -/
def flush : State → List Char
  | .boundary => []
  | .inside .. => [replacement]

/-- Reads bytes; the characters are collected last first. -/
def run (state : State) (collected : List Char) (bytes : Bytes) : State × List Char :=
  bytes.foldl (fun s b => ((next s.1 b).1, (next s.1 b).2.reverse ++ s.2)) (state, collected)

/-- The text of the bytes, with U+FFFD for what is not UTF-8. -/
def decode (bytes : Bytes) : List Char :=
  let (state, collected) := run .boundary [] bytes
  collected.reverse ++ flush state

/-- The bytes of a string. -/
def bytesOf (s : String) : Bytes := encode s.toList

/-- The string of the bytes, with U+FFFD for what is not UTF-8. -/
def textOf (bytes : Bytes) : String := String.ofList (decode bytes)

end Utf8

end CheckedBuild
