import CheckedBuild.Text.Rounding

/-!
# Orders of texts

Texts are compared by the numbers, the amounts or the months that they begin with, or as versions,
in which numbers count by their values.
-/

namespace CheckedBuild.Text.Collation

/-- The order of two texts by their bytes. -/
def compareBytes (a b : List Char) : Ordering :=
  if a < b then .lt else if b < a then .gt else .eq

/-- Whether a character may stand in front of what is compared. -/
def isBlank (c : Char) : Bool := c = ' ' || c = '\t' || c = '\n'

/-! ### Numbers -/

/-- A number in decimal digits. -/
structure Decimal where
  negative : Bool
  whole : Nat
  /-- The digits after the point, without zeros at the end. -/
  fraction : List Char

/-- The number that a text begins with; without digits it is zero. -/
def Decimal.ofText (s : List Char) : Decimal :=
  let s := s.dropWhile isBlank
  let (negative, s) := match s with
    | '-' :: rest => (true, rest)
    | s => (false, s)
  let whole := s.takeWhile Char.isDigit
  let fraction := match s.drop whole.length with
    | '.' :: rest => rest.takeWhile Char.isDigit
    | _ => []
  let fraction := (fraction.reverse.dropWhile (· = '0')).reverse
  let value : Nat := whole.foldl (fun n c => 10 * n + (c.toNat - 48)) 0
  ⟨negative && (value ≠ 0 || !fraction.isEmpty), value, fraction⟩

/-- The order of two numbers. -/
def Decimal.compare (a b : Decimal) : Ordering :=
  match a.negative, b.negative with
  | true, false => .lt
  | false, true => .gt
  | negative, _ =>
    let sizes := (Ord.compare a.whole b.whole).then (compareBytes a.fraction b.fraction)
    if negative then sizes.swap else sizes

/-- The order of two texts by the numbers that they begin with. -/
def byNumber (a b : List Char) : Ordering := (Decimal.ofText a).compare (.ofText b)

/-- The power of a thousand that the letter after a number stands for, below zero if the number
is. -/
def unitOrder (s : List Char) : Int :=
  let s := s.dropWhile isBlank
  let (negative, s) := match s with
    | '-' :: rest => (true, rest)
    | s => (false, s)
  let whole := s.takeWhile Char.isDigit
  let rest := s.drop whole.length
  let fraction := match rest with
    | '.' :: rest => rest.takeWhile Char.isDigit
    | _ => []
  let rest := match rest with
    | '.' :: rest => rest.drop fraction.length
    | rest => rest
  let power : Int := match rest.head? with
    | some 'k' => 1
    | some c => ("KMGTPEZYRQ".toList.idxOf c + 1) % 11
    | none => 0
  if (whole ++ fraction).all (· = '0') then 0 else if negative then -power else power

/-- The order of two amounts, whose units count first. -/
def byAmount (a b : List Char) : Ordering :=
  (compare (unitOrder a) (unitOrder b)).then (byNumber a b)

/-- The number that a text begins with in any notation. -/
def realNumber? (s : List Char) : Option Floating.Number :=
  let s := s.dropWhile fun c => c = ' ' || ('\t' ≤ c && c ≤ '\r')
  (Floating.Precision.extended.read? s).map fun ((x, _), _) => x

/-- The order of two numbers of a machine, what is no number coming first. -/
def compareNumbers : Floating.Number → Floating.Number → Ordering
  | .undefined _, .undefined _ => .eq
  | .undefined _, _ => .lt
  | _, .undefined _ => .gt
  | .infinite a, .infinite b => if a = b then .eq else if a then .lt else .gt
  | .infinite a, .finite _ => if a then .lt else .gt
  | .finite _, .infinite b => if b then .gt else .lt
  | .finite x, .finite y =>
    let signed (x : Floating.Fraction) : Int :=
      if x.negative then -(x.numerator : Int) else x.numerator
    compare (signed x * y.denominator) (signed y * x.denominator)

/-- The order of two texts by numbers in any notation; texts without one come first. -/
def byReal (a b : List Char) : Ordering :=
  match realNumber? a, realNumber? b with
  | none, none => .eq
  | none, some _ => .lt
  | some _, none => .gt
  | some x, some y => compareNumbers x y

/-! ### Months -/

/-- The short names of the months. -/
def monthNames : List String :=
  ["JAN", "FEB", "MAR", "APR", "MAY", "JUN", "JUL", "AUG", "SEP", "OCT", "NOV", "DEC"]

/-- The number of the month that a text begins with, or zero. -/
def monthOf (s : List Char) : Nat :=
  let name := (((s.dropWhile isBlank).take 3).map Char.toUpper)
  (monthNames.idxOf (String.ofList name) + 1) % 13

/-! ### Versions -/

/-- The rank of what stands between the numbers of a version. The end comes before letters, and
these before all other characters; only a tilde comes before the end. -/
def rank : Option Char → Int
  | none => -1
  | some c =>
    if c.isDigit then 0
    else if c.isAlpha then c.toNat
    else if c = '~' then -2
    else c.toNat + 256

/-- The order of what stands before the next numbers of two versions, and what is left of both. -/
def compareWords (fuel : Nat) (a b : List Char) : Ordering × List Char × List Char :=
  match fuel with
  | 0 => (.eq, a, b)
  | fuel + 1 =>
    let isWord (s : List Char) : Bool := s.head?.any fun c => !c.isDigit
    if isWord a || isWord b then
      let order := compare (rank a.head?) (rank b.head?)
      if order ≠ .eq then (order, a, b) else compareWords fuel a.tail b.tail
    else (.eq, a, b)

/-- The order of two versions: words and numbers by turns. -/
def compareVersions (fuel : Nat) (a b : List Char) : Ordering :=
  match fuel with
  | 0 => .eq
  | fuel + 1 =>
    if a.isEmpty && b.isEmpty then .eq
    else
      let (order, a, b) := compareWords (a.length + b.length) a b
      if order ≠ .eq then order
      else
        let (a, b) := (a.dropWhile (· = '0'), b.dropWhile (· = '0'))
        let (m, n) := (a.takeWhile Char.isDigit, b.takeWhile Char.isDigit)
        let numbers := (compare m.length n.length).then (compareBytes m n)
        if numbers ≠ .eq then numbers
        else compareVersions fuel (a.drop m.length) (b.drop n.length)

/-- The length of a name without the endings after points that begin with a letter. -/
def stemLength (s : List Char) : Nat := go (s.length + 1) 0 s
where
  /-- The stem ends where nothing but endings follow; a name is not all ending. -/
  go (fuel place : Nat) (s : List Char) : Nat :=
    match fuel, s with
    | 0, _ | _, [] => place
    | fuel + 1, _ :: rest =>
      let left := endings (rest.length + 1) rest
      if left.isEmpty then place + 1
      else go fuel (place + 1 + (rest.length - left.length)) left
  /-- What is left after endings. -/
  endings (fuel : Nat) (s : List Char) : List Char :=
    match fuel, s with
    | fuel + 1, '.' :: c :: rest =>
      if c.isAlpha || c = '~' then
        endings fuel (rest.dropWhile fun c => c.isAlphanum || c = '~')
      else s
    | _, _ => s

/-- The order of two file names, in which numbers count by their values. Hidden names come first,
and endings count only if the rest is the same. -/
def byVersion (a b : List Char) : Ordering :=
  let firsts (s : List Char) : Nat :=
    if s.isEmpty then 0 else if s = ['.'] then 1 else if s = ['.', '.'] then 2
    else if s.head? = some '.' then 3 else 4
  let special := compare (firsts a) (firsts b)
  if special ≠ .eq then special
  else
    let versions (a b : List Char) : Ordering := compareVersions (a.length + b.length + 1) a b
    (versions (a.take (stemLength a)) (b.take (stemLength b))).then (versions a b)

end CheckedBuild.Text.Collation
