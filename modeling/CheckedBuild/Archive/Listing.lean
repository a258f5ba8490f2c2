import CheckedBuild.Text.Utf8

/-!
# Bytes as a C array

The bytes of an archive are listed as decimal numbers, each followed by a comma, 1024 to a line.
The listing can be read back.
-/

namespace CheckedBuild

/-- A list cut into runs of `size` elements, the last one possibly shorter. -/
def chunks {α : Type} (size : Nat) (xs : List α) : List (List α) :=
  match xs with
  | [] => []
  | x :: rest => (x :: rest.take (size - 1)) :: chunks size (rest.drop (size - 1))
termination_by xs.length
decreasing_by simp only [List.length_cons, List.length_drop]; omega

namespace Archive

/-- How the array begins. -/
def opening : List Char := "\nstatic unsigned char tar_data[] = \x7b\n".toList

/-- How the array ends. -/
def closing : List Char := "\x7d;\n".toList

/-- How many numbers stand on a line. -/
def numbersPerLine : Nat := 1024

/-- A byte as a number with its comma. -/
def number (byte : UInt8) : List Char := Nat.toDigits 10 byte.toNat ++ [',']

/-- The array of the bytes. -/
def listing (bytes : Bytes) : List Char :=
  opening
    ++ (chunks numbersPerLine bytes).flatMap (fun line => line.flatMap number ++ ['\n'])
    ++ closing

/-- Reads numbers below 256 that are each followed by a comma, between line feeds, up to the
closing brace. The digits so far denote `value`, and `bytes` were read before, last first. -/
def readNumbers (value : Option Nat) (bytes : Bytes) : List Char → Option (Bytes × List Char)
  | [] => none
  | c :: rest =>
    if '0' ≤ c ∧ c ≤ '9' then
      readNumbers (some (10 * value.getD 0 + (c.toNat - '0'.toNat))) bytes rest
    else if c = ',' then
      match value with
      | some n => if n < 256 then readNumbers none (UInt8.ofNat n :: bytes) rest else none
      | none => none
    else if c = '\n' ∧ value = none then readNumbers none bytes rest
    else if c = '\x7d' ∧ value = none then some (bytes.reverse, rest)
    else none

end Archive

end CheckedBuild
