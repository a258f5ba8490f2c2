import CheckedBuild.Text.Literal
import CheckedBuild.Text.Utf8

/-!
# Characters that stand for bytes

Tools and scripts work on bytes, whatever text the bytes may mean. They are written here as
characters below 256, one for each byte.
-/

namespace CheckedBuild.Machine

/-- The characters that stand for bytes. -/
def rawOfBytes (bytes : Bytes) : List Char := bytes.map fun b => Char.ofNat b.toNat

/-- The bytes that characters stand for. -/
def bytesOfRaw (s : List Char) : Bytes := s.map fun c => UInt8.ofNat c.toNat

/-- The characters that stand for the bytes of a text. -/
def rawOf (text : String) : List Char := rawOfBytes (Utf8.bytesOf text)

/-- The text whose bytes the characters stand for. -/
def textOfRaw (s : List Char) : String := Utf8.textOf (bytesOfRaw s)

/-- The lines of a text, each with its line feed; the last one may lack it. -/
def fullLines (s : List Char) : List (List Char) :=
  let (lines, last) := s.foldr (fun c (lines, line) =>
    if c = '\n' then (if line.isEmpty then lines else line :: lines, ['\n'])
    else (lines, c :: line)) (([] : List (List Char)), ([] : List Char))
  if last.isEmpty then lines else last :: lines

/-- The lines of a text without their line feeds. -/
def bareLines (s : List Char) : List (List Char) :=
  (fullLines s).map fun line => if line.getLast? = some '\n' then line.dropLast else line

/-- A natural number in decimal digits. -/
def decimal (n : Nat) : List Char := Nat.toDigits 10 n

/-- An integer in decimal digits. -/
def decimalOf (n : Int) : List Char :=
  if n < 0 then '-' :: decimal n.natAbs else decimal n.natAbs

end CheckedBuild.Machine
