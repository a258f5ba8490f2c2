/-!
# Literals and numbers

A text is written so that it may stand between the quotes of a literal of C: a backslash and a
quote get a backslash in front, and control characters become escapes. Octal escapes always have
three digits, so a digit after one is never taken for a part of it.

A number is read from ASCII digits only, leading zeros allowed, and has to be below `2 ^ 32`.
Digits of other scripts delimit numbers elsewhere but do not denote one here.
-/

namespace CheckedBuild.Text

/-! ## String literals -/

/-- An ASCII control character. -/
def isControl (c : Char) : Bool := c.toNat < 32 || c.toNat == 127

/-- The digit of a number below ten. -/
def digit (n : Nat) : Char := Char.ofNat (n + '0'.toNat)

/-- A number below 512 as three octal digits. -/
def octal (n : Nat) : List Char := [digit (n / 64), digit (n / 8 % 8), digit (n % 8)]

/-- A character as it stands in a literal. -/
def literalCharacter (c : Char) : List Char :=
  if c = '\\' then ['\\', '\\']
  else if c = '"' then ['\\', '"']
  else if c = '\n' then ['\\', 'n']
  else if c = '\t' then ['\\', 't']
  else if isControl c then '\\' :: octal c.toNat
  else [c]

/-- A text as it stands between the quotes of a literal. -/
def literal (s : List Char) : List Char := s.flatMap literalCharacter

/-! ## Numbers of 32 bits in decimal -/

/-- The value of an ASCII digit. -/
def digitValue? (c : Char) : Option Nat :=
  if '0' ≤ c ∧ c ≤ '9' then some (c.toNat - '0'.toNat) else none

/-- The number that ASCII digits denote after the value read so far. -/
def naturalFrom? (read : Nat) : List Char → Option Nat
  | [] => some read
  | c :: rest => do naturalFrom? (10 * read + (← digitValue? c)) rest

/-- The number denoted by one or more ASCII digits. -/
def natural? (digits : List Char) : Option Nat :=
  if digits = [] then none else naturalFrom? 0 digits

/-- The number denoted by one or more ASCII digits, if it is below `2 ^ 32`. -/
def word? (digits : List Char) : Option Nat :=
  (natural? digits).filter (· < Nat.pow 2 32)

/-- The same with one plus sign allowed in front. -/
def signedWord? : List Char → Option Nat
  | '+' :: digits => word? digits
  | digits => word? digits

end CheckedBuild.Text
