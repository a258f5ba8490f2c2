/-!
# Floating-point numbers in text

A floating-point number is a fraction with a power of two below the line, so its decimal digits
can be computed exactly. A number is written with a fixed count of decimals, with an exponent,
or in the shorter of the two forms; digits that are cut off round to the nearest, and a half
goes to the even neighbour.
-/

namespace CheckedBuild.Text.Floating

/-- A finite number taken apart: its sign and the numerator and denominator of its size. -/
structure Fraction where
  negative : Bool
  numerator : Nat
  denominator : Nat
deriving DecidableEq, Repr

/-- The bits of a number as a fraction; the bits of a number that is not finite have none. -/
def fractionOf? (x : Float) : Option Fraction :=
  let bits := x.toBits.toNat
  let negative := bits / Nat.pow 2 63 == 1
  let exponent := bits / Nat.pow 2 52 % 2048
  let fraction := bits % Nat.pow 2 52
  if exponent = 2047 then none
  else
    let significand := if exponent = 0 then fraction else fraction + Nat.pow 2 52
    let scale := if exponent = 0 then 1 else exponent
    if 1075 ≤ scale then some ⟨negative, significand * Nat.pow 2 (scale - 1075), 1⟩
    else some ⟨negative, significand, Nat.pow 2 (1075 - scale)⟩

/-- The nearest natural number to a fraction, the even one of two. -/
def nearest (numerator denominator : Nat) : Nat :=
  let quotient := numerator / denominator
  let twice := 2 * (numerator % denominator)
  if twice < denominator then quotient
  else if denominator < twice then quotient + 1
  else if quotient % 2 = 0 then quotient
  else quotient + 1

/-- Decimal digits, at least so many. -/
def digitsAtLeast (count n : Nat) : List Char :=
  let digits := Nat.toDigits 10 n
  List.replicate (count - digits.length) '0' ++ digits

/-- A number with a fixed count of decimals. -/
def fixed (places : Nat) (x : Fraction) : List Char :=
  let digits := digitsAtLeast (places + 1) (nearest (x.numerator * Nat.pow 10 places) x.denominator)
  let whole := digits.take (digits.length - places)
  whole ++ (if places = 0 then [] else '.' :: digits.drop whole.length)

/-- The exponent of the first decimal digit of a positive fraction. -/
def leadingExponent (x : Fraction) : Int :=
  if x.denominator ≤ x.numerator then
    ((Nat.toDigits 10 (x.numerator / x.denominator)).length : Int) - 1
  else
    -- the reciprocal has so many digits, and is a power of ten or not
    let reciprocal := x.denominator / x.numerator
    let length := (Nat.toDigits 10 reciprocal).length
    if reciprocal * x.numerator = x.denominator ∧ reciprocal = Nat.pow 10 (length - 1) then
      1 - (length : Int)
    else -(length : Int)

/-- The rounded digits of a fraction, one before the point, and their exponent. -/
def significant (places : Nat) (x : Fraction) : List Char × Int :=
  if x.numerator = 0 then (List.replicate (places + 1) '0', 0)
  else
    let exponent := leadingExponent x
    let shift := (places : Int) - exponent
    let n :=
      if 0 ≤ shift then nearest (x.numerator * Nat.pow 10 shift.toNat) x.denominator
      else nearest x.numerator (x.denominator * Nat.pow 10 (-shift).toNat)
    let digits := Nat.toDigits 10 n
    -- rounding may have carried into a new digit
    if places + 1 < digits.length then (digits.dropLast, exponent + 1) else (digits, exponent)

/-- A number with an exponent of at least two digits. -/
def scientific (places : Nat) (x : Fraction) : List Char :=
  let (digits, exponent) := significant places x
  digits.take 1 ++ (if places = 0 then [] else '.' :: digits.drop 1)
    ++ ['e', if exponent < 0 then '-' else '+'] ++ digitsAtLeast 2 exponent.natAbs

/-- Digits without the zeros at their end, and without a point that nothing follows. -/
def withoutFinalZeros (s : List Char) : List Char :=
  if s.contains '.' then
    let kept := s.reverse.dropWhile (· = '0')
    (if kept.head? = some '.' then kept.drop 1 else kept).reverse
  else s

/-- A number in the shorter form with so many significant digits. -/
def general (digits : Nat) (x : Fraction) : List Char :=
  let precision := if digits = 0 then 1 else digits
  let exponent := (significant (precision - 1) x).2
  if exponent < -4 ∨ (precision : Int) ≤ exponent then
    let text := scientific (precision - 1) x
    withoutFinalZeros (text.takeWhile (· ≠ 'e')) ++ text.dropWhile (· ≠ 'e')
  else withoutFinalZeros (fixed ((precision : Int) - 1 - exponent).toNat x)

/-- The number at the start of a text, in decimal notation, and what follows it. -/
def read? (s : List Char) : Option (Float × List Char) :=
  let (negative, s) := match s with
    | '-' :: rest => (true, rest)
    | '+' :: rest => (false, rest)
    | _ => (false, s)
  let whole := s.takeWhile Char.isDigit
  let s := s.drop whole.length
  let (decimals, s) := match s with
    | '.' :: rest => (rest.takeWhile Char.isDigit, rest.dropWhile Char.isDigit)
    | _ => ([], s)
  if whole.isEmpty && decimals.isEmpty then none
  else
    let value (digits : List Char) : Nat := digits.foldl (fun n c => 10 * n + (c.toNat - 48)) 0
    let (exponent, s) : Int × List Char := match s with
      | e :: rest =>
        if e = 'e' ∨ e = 'E' then
          let (down, digits) := match rest with
            | '-' :: digits => (true, digits)
            | '+' :: digits => (false, digits)
            | digits => (false, digits)
          let power := digits.takeWhile Char.isDigit
          if power.isEmpty then (0, s)
          else ((if down then -(value power : Int) else value power), digits.drop power.length)
        else (0, s)
      | [] => (0, s)
    let scale := exponent - decimals.length
    let size := Float.ofScientific (value (whole ++ decimals)) (scale < 0) scale.natAbs
    some (if negative then -size else size, s)

end CheckedBuild.Text.Floating
