import CheckedBuild.Machine.Tools.Dump
import CheckedBuild.Machine.Tools.Lines

/-!
# Comparing files byte by byte

The first byte that differs is reported, or all of them are listed. So many bytes at the start of
each file may be passed over.
-/

namespace CheckedBuild.Machine.Tools

open Process

/-- What a comparison of bytes is asked to do. -/
structure ByteComparison where
  listsAll : Bool := false
  isSilent : Bool := false
  showsBytes : Bool := false
  skips : Nat × Nat := (0, 0)
  limit : Option Nat := none

/-- The complaint about a wrong use, which is told where to read about it. -/
def wrongComparison (process : Process) (message : List Char) : Step Nat := do
  process.complain message
  process.complain "Try 'cmp --help' for more information.".toList
  return 2

/-- How much an argument says is passed over. -/
def skippedBytes (s : List Char) : Except (List Char) Nat :=
  match dumpAmount? s with
  | some n => .ok n
  | none => .error ("invalid --ignore-initial value ".toList ++ marked s)

/-- Adds what an option asks for. -/
def ByteComparison.withOption (comparison : ByteComparison) (letter : Char)
    (value : List Char) : Except (List Char) ByteComparison := do
  match letter with
  | 'b' | 'c' => return { comparison with showsBytes := true }
  | 'l' =>
    if comparison.isSilent then throw "options -l and -s are incompatible".toList
    return { comparison with listsAll := true }
  | 's' =>
    if comparison.listsAll then throw "options -l and -s are incompatible".toList
    return { comparison with isSilent := true }
  | 'n' =>
    match dumpAmount? value with
    | some n => return { comparison with limit := some (min n (comparison.limit.getD n)) }
    | none => throw ("invalid --bytes value ".toList ++ marked value)
  | _ =>
    let first := value.takeWhile (· ≠ ':')
    let m ← if first.isEmpty then skippedBytes value else skippedBytes first
    let n ← match value.drop first.length with
      | _ :: rest => skippedBytes rest
      | [] => pure m
    return { comparison with skips := (max m comparison.skips.1, max n comparison.skips.2) }

/-- A byte as it is shown beside its number, a control after a caret. -/
def shownByte (c : Char) : List Char :=
  if c = '\n' then "^J".toList else if c = '\t' then "^I".toList
  else if c.toNat = 255 then "M-^?".toList
  else if 128 ≤ c.toNat && c.toNat < 160 then ['M', '-', '^', Char.ofNat (c.toNat - 64)]
  else visible c

/-- A byte in octal digits. -/
def octalByte (c : Char) : List Char :=
  ({ width := 3 } : Format.Field).text (Nat.toDigits 8 c.toNat)

/-- How long the common beginning of two texts is. -/
def commonLength : List Char → List Char → Nat
  | a :: s, b :: t => if a = b then commonLength s t + 1 else 0
  | _, _ => 0

/-- Reports that an input ends before the other one. -/
def shorterInput (process : Process) (name s : List Char) (listsAll : Bool) : Step Unit :=
  let count := s.length
  let line := s.count '\n'
  let place :=
    if listsAll then []
    else if s.getLast? = some '\n' then ", line ".toList ++ decimal line
    else ", in line ".toList ++ decimal (line + 1)
  process.complain ("EOF on ".toList ++ name
    ++ if count = 0 then " which is empty".toList
      else " after byte ".toList ++ decimal count ++ place)

/-- Reports what two inputs do not have in common. The numbers of listed bytes have so many
columns. -/
def reportBytes (process : Process) (comparison : ByteComparison) (left right : List Char)
    (width : Nat) (s t : List Char) : Step Unit := do
  let n := commonLength s t
  if comparison.listsAll then
    (s.zip t).zipIdx.forM fun ((c, d), i) => do
      if c ≠ d then
        let place := ({ width } : Format.Field).text (decimal (i + 1))
        let bytes :=
          if comparison.showsBytes then
            octalByte c ++ ' ' :: ({ width := 4, left := true } : Format.Field).text (shownByte c)
              ++ ' ' :: octalByte d ++ ' ' :: shownByte d
          else octalByte c ++ ' ' :: octalByte d
        process.say (closed (place ++ ' ' :: bytes))
  if s.length ≠ t.length && (comparison.listsAll || n = min s.length t.length) then
    if s.length < t.length then shorterInput process left s comparison.listsAll
    else shorterInput process right t comparison.listsAll
  else if !comparison.listsAll then
    match s.drop n, t.drop n with
    | c :: _, d :: _ =>
      let bytes := if comparison.showsBytes then
          " is ".toList ++ octalByte c ++ ' ' :: shownByte c ++ ' ' :: octalByte d
            ++ ' ' :: shownByte d
        else []
      process.say (closed (left ++ ' ' :: right ++ " differ: ".toList
        ++ (if comparison.showsBytes then "byte " else "char ").toList ++ decimal (n + 1)
        ++ ", line ".toList ++ decimal ((s.take n).count '\n' + 1) ++ bytes))
    | _, _ => pure ()

/-- Compares two files byte by byte. -/
def compareInputs (process : Process) (comparison : ByteComparison) (left right : List Char) :
    Step Nat := do
  let opened (name : List Char) : Step (Except Refusal Nat) :=
    if name = ['-'] then pure process.inputStream else process.openFile name
  let refuse (name : List Char) (refusal : Refusal) : Step Nat := do
    if !comparison.isSilent || refusal = .isDirectory then
      process.complain (name ++ ": ".toList ++ refusal.complaint.toList)
    return 2
  match ← opened left with
  | .error refusal => refuse left refusal
  | .ok first =>
    if left = right && comparison.skips.1 = comparison.skips.2 then return 0
    match ← opened right with
    | .error refusal => refuse right refusal
    | .ok second =>
      match ← readRefusal? first, ← readRefusal? second with
      | some refusal, _ => refuse left refusal
      | none, some refusal => refuse right refusal
      | none, none =>
        let kernel ← get
        let areFiles := kernel.isFile first && kernel.isFile second
        let limited (s : List Char) : List Char := match comparison.limit with
          | some n => s.take n
          | none => s
        let s := (← readAll first).drop comparison.skips.1
        let t := (← readAll second).drop comparison.skips.2
        let most := min s.length (min t.length (comparison.limit.getD s.length))
        let width := if areFiles then (decimal most).length else 19
        let (s, t) := (limited s, limited t)
        if s = t then return 0
        if !comparison.isSilent then reportBytes process comparison left right width s t
        return 1

/-- Compares two files byte by byte. -/
def cmp (process : Process) : Step Nat := do
  let process := { process with name := process.shortName }
  let table : OptionTable :=
    { plain := "bcls", valued := "in"
      words := [("silent", 's'), ("quiet", 's'), ("verbose", 'l'), ("print-bytes", 'b'),
        ("print-chars", 'b'), ("ignore-initial", 'i'), ("bytes", 'n')] }
  match table.read (process.arguments.length + 1) process.arguments with
  | .error message => wrongComparison process message
  | .ok options =>
    let read := options.options.foldlM (fun (comparison : ByteComparison) (letter, value) =>
      comparison.withOption letter value) {}
    match read, options.operands with
    | .error message, _ => wrongComparison process message
    | .ok _, [] =>
      let last := process.arguments.getLast?.getD process.name
      wrongComparison process ("missing operand after ".toList ++ marked last)
    | .ok comparison, left :: rest =>
      let skips := (rest.drop 1).take 2
      match skips.mapM skippedBytes, rest[3]? with
      | .error message, _ => wrongComparison process message
      | .ok _, some extra => wrongComparison process ("extra operand ".toList ++ marked extra)
      | .ok amounts, none =>
        let skips := (max comparison.skips.1 ((amounts[0]?).getD 0),
          max comparison.skips.2 ((amounts[1]?).getD 0))
        compareInputs process { comparison with skips } left (rest.headD ['-'])

end CheckedBuild.Machine.Tools
