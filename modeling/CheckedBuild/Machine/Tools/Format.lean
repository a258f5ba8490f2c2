import CheckedBuild.Machine.Raw
import CheckedBuild.Text.Rounding

/-!
# Fields and escapes

Text that is printed in a format stands in fields, which have a width and are filled up, and may
hold escapes, which stand for other characters.
-/

namespace CheckedBuild.Machine.Format

/-- The value of digits in a base, and what follows them; at most `count` digits are taken. -/
def digitsValue (base count : Nat) (s : List Char) : Nat × List Char :=
  let value (c : Char) : Nat :=
    if c.isDigit then c.toNat - 48
    else if 'a' ≤ c ∧ c ≤ 'z' then c.toNat - 87
    else if 'A' ≤ c ∧ c ≤ 'Z' then c.toNat - 55
    else 99
  let digits := (s.take count).takeWhile fun c => value c < base
  (digits.foldl (fun n c => base * n + value c) 0, s.drop digits.length)

/-- A character for an escape of one letter. -/
def escapeLetter? : Char → Option Char
  | 'a' => some '\x07'
  | 'b' => some '\x08'
  | 'e' => some '\x1b'
  | 'f' => some '\x0c'
  | 'n' => some '\n'
  | 'r' => some '\r'
  | 't' => some '\t'
  | 'v' => some '\x0b'
  | '\\' => some '\\'
  | _ => none

/-- The character of an escape after its backslash, and what follows. With `zeroFirst` an octal
escape may begin with a zero that is not counted. -/
def escape? (zeroFirst : Bool) : List Char → Option (Char × List Char)
  | [] => none
  | c :: rest =>
    match escapeLetter? c with
    | some letter => some (letter, rest)
    | none =>
      if '0' ≤ c ∧ c ≤ '7' then
        let (value, tail) :=
          if zeroFirst && c = '0' then digitsValue 8 3 rest else digitsValue 8 3 (c :: rest)
        some (Char.ofNat (value % 256), tail)
      else none

/-- A text with its escapes replaced; the second result tells that `\c` has ended it. -/
def unescape (s : List Char) : List Char × Bool := go (s.length + 1) s
where
  go (fuel : Nat) (s : List Char) : List Char × Bool :=
    match fuel with
    | 0 => ([], false)
    | fuel + 1 =>
      match s with
      | [] => ([], false)
      | '\\' :: 'c' :: _ => ([], true)
      | '\\' :: rest =>
        match escape? true rest with
        | some (c, tail) => (go fuel tail).map (c :: ·) id
        | none => (go fuel rest).map ('\\' :: ·) id
      | c :: rest => (go fuel rest).map (c :: ·) id

/-- What `echo` prints for its arguments, with or without escapes. -/
def echo (escapes : Bool) (arguments : List (List Char)) : List Char :=
  let (silent, rest) := match arguments with
    | ['-', 'n'] :: rest => (true, rest)
    | _ => (false, arguments)
  let line := (rest.intersperse [' ']).flatten
  let (text, stopped) := if escapes then unescape line else (line, false)
  if silent || stopped then text else text ++ ['\n']

/-- How a directive fills its field. -/
structure Field where
  left : Bool := false
  plus : Bool := false
  blank : Bool := false
  alternate : Bool := false
  zeros : Bool := false
  width : Nat := 0
  precision : Option Nat := none
deriving Repr

/-- A text in its field. -/
def Field.text (field : Field) (s : List Char) : List Char :=
  let s := match field.precision with
    | some n => s.take n
    | none => s
  let missing := List.replicate (field.width - s.length) ' '
  if field.left then s ++ missing else missing ++ s

/-- The digits of a number in its field after a sign or another mark. -/
def Field.number (field : Field) (mark digits : List Char) (fill : Bool) : List Char :=
  let missing := field.width - mark.length - digits.length
  if field.left then mark ++ digits ++ List.replicate missing ' '
  else if fill && field.zeros then mark ++ List.replicate missing '0' ++ digits
  else List.replicate missing ' ' ++ mark ++ digits

/-- The sign of a number. -/
def Field.sign (field : Field) (negative : Bool) : List Char :=
  if negative then ['-'] else if field.plus then ['+'] else if field.blank then [' '] else []

/-- Digits, at least as many as the precision asks for. -/
def Field.padded (field : Field) (digits : List Char) : List Char :=
  match field.precision with
  | some 0 => if digits = ['0'] then [] else digits
  | some n => List.replicate (n - digits.length) '0' ++ digits
  | none => digits

/-- A signed integer in its field. -/
def Field.signed (field : Field) (n : Int) : List Char :=
  field.number (field.sign (n < 0)) (field.padded (decimal n.natAbs)) field.precision.isNone

/-- A natural number in its field, in base 8, 10 or 16. -/
def Field.unsigned (field : Field) (base : Nat) (upper : Bool) (n : Nat) : List Char :=
  let digits := field.padded (Nat.toDigits base n)
  let digits := if upper then digits.map Char.toUpper else digits
  let digits :=
    if field.alternate && base = 8 && digits.head? != some '0' then '0' :: digits else digits
  let mark :=
    if field.alternate && base = 16 && n ≠ 0 then ['0', if upper then 'X' else 'x'] else []
  field.number mark digits field.precision.isNone

/-- A number of a machine in its field, in decimal or hexadecimal digits. -/
def Field.real (field : Field) (precision : Text.Floating.Precision) (form : Char)
    (x : Text.Floating.Number) : List Char :=
  let places := field.precision.getD 6
  let inCase (s : List Char) : List Char := if form.isUpper then s.map Char.toUpper else s
  match x with
  | .finite fraction =>
    let digits := match form.toLower with
      | 'a' => precision.hexadecimal field.precision fraction
      | 'e' => Text.Floating.scientific places fraction
      | 'g' => Text.Floating.general places fraction
      | _ => Text.Floating.fixed places fraction
    field.number (field.sign fraction.negative) (inCase digits) true
  | .infinite negative => field.number (field.sign negative) (inCase "inf".toList) false
  | .undefined negative => field.number (field.sign negative) (inCase "nan".toList) false

/-- A floating-point number in its field. -/
def Field.floating (field : Field) (form : Char) (x : Float) : List Char :=
  field.real .usual form (.ofFloat x)

/-- An integer at the start of a text as C reads it, and what follows. -/
def integer (s : List Char) : Int × List Char :=
  let s := s.dropWhile fun c => c = ' ' || ('\t' ≤ c && c ≤ '\r')
  let (negative, rest) := match s with
    | '-' :: rest => (true, rest)
    | '+' :: rest => (false, rest)
    | _ => (false, s)
  let hexadecimal (tail : List Char) : Bool := (digitsValue 16 1 tail).2.length < tail.length
  let (base, digits) := match rest with
    | '0' :: x :: tail =>
      if (x = 'x' || x = 'X') && hexadecimal tail then (16, tail) else (8, rest)
    | '0' :: _ => (8, rest)
    | _ => (10, rest)
  let (value, tail) := digitsValue base digits.length digits
  if tail.length = rest.length then (0, s)
  else (if negative then -(value : Int) else value, tail)

end CheckedBuild.Machine.Format
