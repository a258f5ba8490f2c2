import CheckedBuild.Text.Floating

/-!
# Rounding to binary digits

A machine keeps a limited count of binary digits of a number and a limited range of exponents. A
text is read as the exact number that it stands for, which is then rounded to the nearest number
that is kept, a half going to the even neighbour.
-/

namespace CheckedBuild.Text.Floating

/-- A number of a machine. -/
inductive Number where
  | finite (fraction : Fraction)
  | infinite (negative : Bool)
  /-- What is no number, which has a sign all the same. -/
  | undefined (negative : Bool)
deriving DecidableEq, Repr

/-- The number of a machine word. What is no number comes out of operations with a sign. -/
def Number.ofFloat (x : Float) : Number :=
  match fractionOf? x with
  | some fraction => .finite fraction
  | none => if x == x then .infinite (x < 0) else .undefined true

/-- How many binary digits are kept, and the power of two that is too large. -/
structure Precision where
  digits : Nat
  limit : Nat

/-- The usual precision. -/
def Precision.usual : Precision := ⟨53, 1024⟩

/-- The precision of long words. -/
def Precision.extended : Precision := ⟨64, 16384⟩

/-- The exponent of the first binary digit of a positive fraction. -/
def binaryExponent (numerator denominator : Nat) : Int :=
  let guess := (numerator.log2 : Int) - denominator.log2
  let isSmaller :=
    if 0 ≤ guess then decide (numerator < denominator * Nat.pow 2 guess.toNat)
    else decide (numerator * Nat.pow 2 (-guess).toNat < denominator)
  if isSmaller then guess - 1 else guess

/-- A fraction in units of a power of two, rounded. -/
def inUnits (exponent : Int) (x : Fraction) : Nat :=
  if 0 ≤ exponent then nearest x.numerator (x.denominator * Nat.pow 2 exponent.toNat)
  else nearest (x.numerator * Nat.pow 2 (-exponent).toNat) x.denominator

/-- So many units of a power of two. -/
def ofUnits (negative : Bool) (exponent : Int) (n : Nat) : Fraction :=
  if 0 ≤ exponent then ⟨negative, n * Nat.pow 2 exponent.toNat, 1⟩
  else ⟨negative, n, Nat.pow 2 (-exponent).toNat⟩

/-- The number that is kept for a fraction, and whether the range of exponents was left. -/
def Precision.round (precision : Precision) (x : Fraction) : Number × Bool :=
  if x.numerator = 0 then (.finite x, false)
  else
    let exponent := binaryExponent x.numerator x.denominator
    let least := 2 - (precision.limit : Int)
    let unit := max exponent least - (precision.digits - 1 : Nat)
    let kept := ofUnits x.negative unit (inUnits unit x)
    if Nat.pow 2 precision.limit * kept.denominator ≤ kept.numerator then
      (.infinite x.negative, true)
    else
      let isExact := kept.numerator * x.denominator = x.numerator * kept.denominator
      (.finite kept, exponent < least && !isExact)

/-- The value of a digit in a base up to sixteen. -/
def digitValue? (base : Nat) (c : Char) : Option Nat :=
  let value :=
    if c.isDigit then c.toNat - 48
    else if 'a' ≤ c ∧ c ≤ 'f' then c.toNat - 87
    else if 'A' ≤ c ∧ c ≤ 'F' then c.toNat - 55
    else base
  if value < base then some value else none

/-- An exponent after its letter, and what follows; without digits there is none. -/
def readExponent (letter : Char) (s : List Char) : Int × List Char :=
  match s with
  | c :: rest =>
    if c.toLower ≠ letter then (0, s)
    else
      let (down, digits) := match rest with
        | '-' :: digits => (true, digits)
        | '+' :: digits => (false, digits)
        | digits => (false, digits)
      let power := digits.takeWhile Char.isDigit
      let n : Nat := power.foldl (fun n c => 10 * n + (c.toNat - 48)) 0
      if power.isEmpty then (0, s)
      else (if down then -(n : Int) else n, digits.drop power.length)
  | [] => (0, s)

/-- Beyond this exponent every number has left the range. -/
def farExponent : Nat := 100000

/-- The digits of a number in a base with their exponent, and what follows. -/
def readDigits? (base : Nat) (letter : Char) (s : List Char) :
    Option ((Nat × Nat × Int) × List Char) :=
  let isDigit (c : Char) : Bool := (digitValue? base c).isSome
  let whole := s.takeWhile isDigit
  let (places, rest) := match s.drop whole.length with
    | '.' :: rest => (rest.takeWhile isDigit, rest.dropWhile isDigit)
    | rest => ([], rest)
  if whole.isEmpty && places.isEmpty then none
  else
    let value := (whole ++ places).foldl (fun n c => base * n + (digitValue? base c).getD 0) 0
    let (exponent, rest) := readExponent letter rest
    some ((value, places.length, exponent), rest)

/-- A word at the start of a text in letters of either case. -/
def afterWord? (word : String) (s : List Char) : Option (List Char) :=
  if (s.take word.length).map Char.toLower = word.toList then some (s.drop word.length) else none

/-- What digits with an exponent of a power stand for; far exponents are cut off. -/
def scaledFraction (negative : Bool) (value base places power : Nat) (exponent : Int) :
    Fraction :=
  let exponent := max (-(farExponent : Int)) (min exponent farExponent)
  if value = 0 then ⟨negative, 0, 1⟩
  else
    let denominator := Nat.pow base places
    if 0 ≤ exponent then ⟨negative, value * Nat.pow power exponent.toNat, denominator⟩
    else ⟨negative, value, denominator * Nat.pow power (-exponent).toNat⟩

/-- The number at the start of a text, whether it was out of range, and what follows it. -/
def Precision.read? (precision : Precision) (s : List Char) :
    Option ((Number × Bool) × List Char) :=
  let (negative, s) := match s with
    | '-' :: rest => (true, rest)
    | '+' :: rest => (false, rest)
    | _ => (false, s)
  let hexadecimal? := match s with
    | '0' :: x :: rest => if x.toLower = 'x' then readDigits? 16 'p' rest else none
    | _ => none
  match hexadecimal?, readDigits? 10 'e' s with
  | some ((value, places, exponent), rest), _ =>
    some (precision.round (scaledFraction negative value 16 places 2 exponent), rest)
  | none, some ((value, places, exponent), rest) =>
    some (precision.round (scaledFraction negative value 10 places 10 exponent), rest)
  | none, none =>
    match afterWord? "infinity" s <|> afterWord? "inf" s, afterWord? "nan" s with
    | some rest, _ => some ((.infinite negative, false), rest)
    | none, some rest => some ((.undefined negative, false), rest)
    | none, none => none

/-- A number as a machine word; what is too large for one is infinite. -/
def Number.toFloat : Number → Float
  | .finite x =>
    let size := Float.ofNat x.numerator / Float.ofNat x.denominator
    if x.negative then -size else size
  | .infinite negative => if negative then -1.0 / 0.0 else 1.0 / 0.0
  | .undefined _ => 0.0 / 0.0

/-- The number at the start of a text in any notation as a machine word, and what follows it. -/
def readAny? (s : List Char) : Option (Float × List Char) :=
  let unsigned := if s.head? = some '-' || s.head? = some '+' then s.drop 1 else s
  let isPlain : Bool := match unsigned with
    | '0' :: x :: _ => x.toLower != 'x'
    | c :: _ => c.isDigit || c == '.'
    | [] => true
  if isPlain then read? s
  else (Precision.usual.read? s).map fun ((x, _), rest) => (x.toFloat, rest)

/-- A number in hexadecimal digits with a power of two, with so many digits after the point or
with as many as it needs. -/
def Precision.hexadecimal (precision : Precision) (places? : Option Nat) (x : Fraction) :
    List Char :=
  let count := (precision.digits - 1) / 4
  let before := (precision.digits - 1) % 4
  let places := places?.getD count
  let (digits, exponent) :=
    if x.numerator = 0 then (List.replicate (places + 1) '0', 0)
    else
      let first := max (binaryExponent x.numerator x.denominator) (2 - (precision.limit : Int))
      let exponent := first - before
      let digits := Nat.toDigits 16 (inUnits (exponent - 4 * places) x)
      -- rounding may have carried into a new digit
      if places + 1 < digits.length then (digits.dropLast, exponent + 4)
      else (List.replicate (places + 1 - digits.length) '0' ++ digits, exponent)
  let text := digits.take (digits.length - places)
    ++ (if places = 0 then [] else '.' :: digits.drop (digits.length - places))
  let text := if places?.isNone then withoutFinalZeros text else text
  '0' :: 'x' :: text ++ ['p', if exponent < 0 then '-' else '+'] ++ digitsAtLeast 1 exponent.natAbs

end CheckedBuild.Text.Floating
