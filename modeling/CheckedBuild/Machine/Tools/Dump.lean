import CheckedBuild.Machine.Tools.Ends
import CheckedBuild.Machine.Tools.Neighbours

/-!
# Dumps of files

A dump shows the bytes of its inputs in lines, each with its address and in one or more forms.
Lines that repeat the one before are left out, and an asterisk stands for them.
-/

namespace CheckedBuild.Machine.Tools

open Process

/-- The forms in which bytes are shown. -/
inductive DumpForm where
  | named
  | character
  | signed
  | octal
  | unsigned
  | hexadecimal
  | floating
deriving DecidableEq, Repr

/-- A form with the number of bytes that it takes at once. -/
structure DumpType where
  form : DumpForm
  size : Nat := 1
  /-- The line is shown as text, too. -/
  withText : Bool := false

/-- How wide a group of bytes is in a form. -/
def DumpType.width (type : DumpType) : Nat :=
  match type.form with
  | .named | .character => 3
  | .octal => (8 * type.size + 2) / 3
  | .hexadecimal => 2 * type.size
  | .unsigned => (Nat.toDigits 10 (Nat.pow 256 type.size - 1)).length
  | .signed => (Nat.toDigits 10 (Nat.pow 256 type.size / 2)).length + 1
  | .floating => if type.size = 4 then 15 else if type.size = 8 then 24 else 29

/-- The names of the characters below the blank. -/
def controlNames : List String :=
  ["nul", "soh", "stx", "etx", "eot", "enq", "ack", "bel", "bs", "ht", "nl", "vt", "ff", "cr", "so",
   "si", "dle", "dc1", "dc2", "dc3", "dc4", "nak", "syn", "etb", "can", "em", "sub", "esc", "fs",
   "gs", "rs", "us", "sp"]

/-- Digits with zeros in front. -/
def zeroFilled (width : Nat) (digits : List Char) : List Char :=
  List.replicate (width - digits.length) '0' ++ digits

/-- A character, or the escape or the octal digits for it. -/
def shownCharacter (c : Char) : List Char :=
  match c with
  | '\x00' => ['\\', '0']
  | '\x07' => ['\\', 'a']
  | '\x08' => ['\\', 'b']
  | '\x0c' => ['\\', 'f']
  | '\n' => ['\\', 'n']
  | '\r' => ['\\', 'r']
  | '\t' => ['\\', 't']
  | '\x0b' => ['\\', 'v']
  | c => if ' ' ≤ c && c ≤ '~' then [c] else zeroFilled 3 (Nat.toDigits 8 c.toNat)

/-- A positive or negative fraction in as few digits as tell it from all other numbers of a
precision, but no less than so many. -/
def fewestDigits (precision : Text.Floating.Precision) (x : Text.Floating.Fraction)
    (fuel digits : Nat) : List Char :=
  let text := Text.Floating.general digits x
  match fuel with
  | 0 => text
  | fuel + 1 =>
    match precision.read? text with
    | some ((.finite y, _), _) =>
      if x.numerator * y.denominator = y.numerator * x.denominator then text
      else fewestDigits precision x fuel (digits + 1)
    | _ => fewestDigits precision x fuel (digits + 1)

/-- The bits of a floating-point number of so many bytes in writing. -/
def floatingText (size bits : Nat) : List Char :=
  -- the digits after the point, those of the exponent, and whether the first digit is kept
  let (fraction, exponent, isWhole) : Nat × Nat × Bool :=
    if size = 4 then (23, 8, false) else if size = 8 then (52, 11, false) else (63, 15, true)
  let kept := if isWhole then fraction + 1 else fraction
  let sign : List Char := if bits / Nat.pow 2 (kept + exponent) % 2 = 1 then ['-'] else []
  let power : Nat := bits / Nat.pow 2 kept % Nat.pow 2 exponent
  let digits := bits % Nat.pow 2 kept
  let isUnreal := isWhole && 0 < power && digits < Nat.pow 2 fraction
  if power = Nat.pow 2 exponent - 1 || isUnreal then
    sign ++ (if digits % Nat.pow 2 fraction = 0 && !isUnreal then "inf" else "nan").toList
  else
    let significand := if isWhole || power = 0 then digits else digits + Nat.pow 2 fraction
    let bias : Nat := Nat.pow 2 (exponent - 1) - 1 + fraction
    let scale : Int := (max power 1 : Nat) - (bias : Int)
    let x := Text.Floating.ofUnits false scale significand
    let least := if size = 4 then 6 else if size = 8 then 15 else 18
    sign ++ fewestDigits ⟨fraction + 1, Nat.pow 2 (exponent - 1)⟩ x 6 least

/-- A group of bytes in a form; the first byte counts least or most. -/
def DumpType.shown (type : DumpType) (reversed : Bool) (group : List Char) : List Char :=
  let filled := group ++ List.replicate (type.size - group.length) '\x00'
  let n := (if reversed then filled else filled.reverse).foldl (fun n c => 256 * n + c.toNat) 0
  match type.form with
  | .named =>
    let n := n % 128
    if n = 127 then "del".toList
    else ((controlNames[n]?).map String.toList).getD [Char.ofNat n]
  | .character => shownCharacter (group.headD '\x00')
  | .octal => zeroFilled type.width (Nat.toDigits 8 n)
  | .hexadecimal => zeroFilled type.width (Nat.toDigits 16 n)
  | .unsigned => decimal n
  | .signed =>
    let values := Nat.pow 256 type.size
    decimalOf (if 2 * n < values then n else (n : Int) - values)
  | .floating => floatingText type.size n

/-- A list in groups of a size. -/
def inGroups {α : Type} (size fuel : Nat) (xs : List α) : List (List α) :=
  match fuel with
  | 0 => []
  | fuel + 1 => if xs.isEmpty then [] else xs.take size :: inGroups size fuel (xs.drop size)

/-- The bytes of a line in a form. The groups share a width that is common to all forms. -/
def DumpType.row (type : DumpType) (reversed : Bool) (perLine whole : Nat) (line : List Char) :
    List Char :=
  let fields := perLine / type.size
  let padding := whole - fields * (type.width + 1)
  let groups := inGroups type.size line.length line
  let text := groups.zipIdx.flatMap fun (group, i) =>
    let here := padding * (fields - i) / fields - padding * (fields - i - 1) / fields
    ({ width := type.width + 1 + here } : Format.Field).text (type.shown reversed group)
  if !type.withText then text
  else
    let printable := line.map fun c => if ' ' ≤ c && c ≤ '~' then c else '.'
    text ++ List.replicate (whole - text.length) ' ' ++ "  >".toList ++ printable ++ ['<']

/-- The complaint about a list of types as a whole. -/
def wrongTypes (written : List Char) : List Char :=
  "invalid type string ".toList ++ marked written

/-- The number of bytes that letters or digits ask for, if they do, and what follows them. -/
def typeSize (form : DumpForm) (s : List Char) : Option Nat × List Char :=
  let letters : List (Char × Nat) :=
    if form = .floating then [('F', 4), ('D', 8), ('L', 16)]
    else [('C', 1), ('S', 2), ('I', 4), ('L', 8)]
  match s.head?.bind fun c => letters.lookup c with
  | some size => (some size, s.drop 1)
  | none =>
    let digits := s.takeWhile Char.isDigit
    (Text.natural? digits, s.drop digits.length)

/-- Reads the forms of a list of types. -/
def readTypes (written : List Char) (fuel : Nat) (s : List Char) :
    Except (List Char) (List DumpType) :=
  match fuel, s with
  | 0, _ | _, [] => .ok []
  | fuel + 1, letter :: rest =>
    let form? : Option DumpForm := match letter with
      | 'a' => some .named
      | 'c' => some .character
      | 'd' => some .signed
      | 'o' => some .octal
      | 'u' => some .unsigned
      | 'x' => some .hexadecimal
      | 'f' => some .floating
      | _ => none
    match form? with
    | none =>
      .error ("invalid character '".toList ++ letter :: "' in type string ".toList
        ++ marked written)
    | some form =>
      let (size?, rest) := if letter = 'a' || letter = 'c' then (some 1, rest)
        else typeSize form rest
      let isReal := form = .floating
      let size := size?.getD (if isReal then 8 else 4)
      if Nat.pow 2 31 ≤ size then .error (wrongTypes written)
      else if !(if isReal then [4, 8, 16] else [1, 2, 4, 8]).contains size then
        .error (wrongTypes written ++ ";\nthis system doesn't provide a ".toList ++ decimal size
          ++ (if isReal then "-byte floating point type" else "-byte integral type").toList)
      else
        let withText := rest.head? = some 'z'
        (readTypes written fuel (if withText then rest.drop 1 else rest)).map
          (⟨form, size, withText⟩ :: ·)

/-- The types that letters stand for. -/
def letterTypes : List (Char × String) :=
  [('a', "a"), ('b', "o1"), ('c', "c"), ('D', "u4"), ('d', "u2"), ('e', "fD"), ('F', "fD"),
   ('f', "fF"), ('H', "x4"), ('X', "x4"), ('h', "x2"), ('x', "x2"), ('I', "dL"), ('L', "dL"),
   ('l', "dL"), ('i', "dI"), ('O', "o4"), ('B', "o2"), ('o', "o2"), ('s', "d2")]

/-- A number of bytes in any base, with letters for a unit. -/
def dumpAmount? (s : List Char) : Option Nat :=
  let digits (base : Nat) (tail : List Char) : List Char :=
    tail.takeWhile fun c => (Text.Floating.digitValue? base c).isSome
  let (base, tail) := match s with
    | '0' :: x :: tail =>
      if x.toLower = 'x' && !(digits 16 tail).isEmpty then (16, tail) else (8, s)
    | '0' :: _ => (8, s)
    | _ => (10, s)
  let written := digits base tail
  let unit := byteCount? ('1' :: tail.drop written.length)
  if written.isEmpty then none
  else
    let value := written.foldl (fun n c =>
      n * base + (Text.Floating.digitValue? base c).getD 0) 0
    unit.map (value * ·)

/-- An address after a plus sign, or without one. It is octal unless it begins as a hexadecimal
number does. -/
def oldAddress? (s : List Char) : Option Nat :=
  let s := if s.head? = some '+' then s.drop 1 else s
  let base := match s with
    | '0' :: x :: _ => if x.toLower = 'x' then 16 else 8
    | _ => 8
  let digits := if base = 16 then s.drop 2 else s
  let written := digits.takeWhile fun c => (Text.Floating.digitValue? base c).isSome
  let value := written.foldl (fun n c =>
    n * base + (Text.Floating.digitValue? base c).getD 0) 0
  match written.isEmpty, digits.drop written.length with
  | false, [] => some value
  | false, ['b'] => some (value * 512)
  | false, ['B'] => some (value * 1024)
  | _, _ => none

/-- How a dump is laid out. -/
structure DumpLayout where
  types : List DumpType
  perLine : Nat
  /-- The base of addresses, if they are shown. -/
  base : Option Nat := some 8
  reversed : Bool := false
  showsRepeated : Bool := false

namespace DumpLayout

/-- An address in digits. -/
def address (layout : DumpLayout) (n : Nat) : List Char :=
  match layout.base with
  | none => []
  | some 16 => zeroFilled 6 (Nat.toDigits 16 n)
  | some base => zeroFilled 7 (Nat.toDigits base n)

/-- How wide the widest form of a line is. -/
def whole (layout : DumpLayout) : Nat :=
  layout.types.foldl (fun n type => max n (layout.perLine / type.size * (type.width + 1))) 0

/-- A line in all forms. -/
def rows (layout : DumpLayout) (place : Nat) (line : List Char) : List Char :=
  let indent := List.replicate (layout.address 0).length ' '
  layout.types.zipIdx.flatMap fun (type, i) =>
    closed ((if i = 0 then layout.address place else indent)
      ++ type.row layout.reversed layout.perLine layout.whole line)

end DumpLayout

/-- What is known in the middle of a dump. -/
structure DumpState where
  /-- How many bytes are still to be passed over, and to be shown if there is a limit. -/
  toSkip : Nat
  toShow : Option Nat
  place : Nat
  /-- Bytes that do not make a line yet. -/
  pending : List Char := []
  last : Option (List Char) := none
  /-- An asterisk stands for the last line. -/
  starred : Bool := false
  /-- Some input could be opened. -/
  isOpened : Bool := false
  status : Nat := 0

/-- The text of a line, or nothing or an asterisk if it repeats the one before. -/
def DumpState.show (layout : DumpLayout) (state : DumpState) (line : List Char) :
    List Char × DumpState :=
  let next := { state with place := state.place + line.length }
  if !layout.showsRepeated && state.last = some line && line.length = layout.perLine then
    (if state.starred then [] else ['*', '\n'], { next with starred := true })
  else (layout.rows state.place line, { next with last := some line, starred := false })

/-- Takes some bytes and writes the lines that are full. -/
def DumpState.take (process : Process) (layout : DumpLayout) (state : DumpState)
    (s : List Char) : Step DumpState := do
  let kept := s.drop state.toSkip
  let kept := match state.toShow with
    | some n => kept.take n
    | none => kept
  let bytes := state.pending ++ kept
  let count := bytes.length / layout.perLine
  let lines := inGroups layout.perLine count bytes
  let state := { state with
    isOpened := true
    toSkip := state.toSkip - s.length
    toShow := state.toShow.map (· - kept.length)
    pending := bytes.drop (count * layout.perLine) }
  let (text, state) := lines.foldl (fun ((text, state) : List (List Char) × DumpState) line =>
    let (shown, state) := state.show layout line
    (shown :: text, state)) ([], state)
  process.say text.reverse.flatten
  return state

/-- Reads the named inputs until there is enough. -/
def dumpInputs (process : Process) (take : DumpState → List Char → Step DumpState) :
    DumpState → List (List Char) → Step DumpState
  | state, [] => return state
  | state, name :: rest => do
    if state.toSkip = 0 && state.toShow = some 0 && state.isOpened then return state
    let shown := if name = ['-'] then "standard input".toList else name
    match ← process.openInput (some name) with
    | .error refusal =>
      process.warn (process.blame shown refusal)
      let isOpened := state.isOpened || refusal = .isDirectory
      dumpInputs process take { state with status := 1, isOpened } rest
    | .ok number =>
      let bytes ← match state.toShow with
        | some n => takeFully pieceLimit number (state.toSkip + n) []
        | none => takeAll pieceLimit number []
      dumpInputs process take (← take state (rawOfBytes bytes)) rest

/-- The texts of at least so many characters that are closed by a byte of zeros, with their
places. The text that is being read is reversed. -/
def closedTexts (least place : Nat) (text : List Char) : List Char → List (Nat × List Char)
  | [] => []
  | c :: rest =>
    if c = '\x00' && least ≤ text.length then
      (place - text.length, text.reverse) :: closedTexts least (place + 1) [] rest
    else if ' ' ≤ c && c ≤ '~' then closedTexts least (place + 1) (c :: text) rest
    else closedTexts least (place + 1) [] rest

/-- The base of the addresses that an option asks for, if they are shown. -/
def addressBase? : Option (List Char) → Except Char (Option Nat)
  | none => .ok (some 8)
  | some value =>
    match value.headD '\x00' with
    | 'o' => .ok (some 8)
    | 'd' => .ok (some 10)
    | 'x' => .ok (some 16)
    | 'n' => .ok none
    | c => .error c

/-- The complaint about a number of an option. -/
def wrongAmount (letter : Char) (value : List Char) : List Char :=
  "invalid -".toList ++ letter :: " argument ".toList ++ marked value

/-- What the options of a dump ask for. -/
structure DumpTask where
  types : List DumpType := []
  base : Option Nat := some 8
  skipped : Nat := 0
  limit : Option Nat := none
  texts : Option Nat := none
  width : Option Nat := none
  reversed : Bool := false
  showsRepeated : Bool := false
  isFaulty : Bool := false

/-- Adds what an option asks for. A fault in a list of types does not hide further faults. -/
def DumpTask.withOption (process : Process) (task : DumpTask) (letter : Char)
    (value : List Char) : Step (Except Nat DumpTask) := do
  let amount (set : Nat → DumpTask) : Step (Except Nat DumpTask) := do
    match dumpAmount? value with
    | some n => return .ok (set n)
    | none =>
      process.complain (wrongAmount letter value)
      return .error 1
  match letter with
  | 'A' =>
    match addressBase? (some value) with
    | .ok base => return .ok { task with base }
    | .error c =>
      process.complain ("invalid output address radix '".toList
        ++ c :: "'; it must be one character from [doxn]".toList)
      return .error 1
  | 'j' => amount fun skipped => { task with skipped }
  | 'N' => amount fun limit => { task with limit := some limit }
  | 'S' => amount fun texts => { task with texts := some texts }
  | 'α' =>
    if value.isEmpty then return .ok { task with texts := some 3 }
    else
      match dumpAmount? value with
      | some n => return .ok { task with texts := some n }
      | none =>
        process.complain ("invalid --strings argument ".toList ++ marked value)
        return .error 1
  | 'w' =>
    match if value.isEmpty then some 32 else Text.natural? value with
    | some 0 => return .error (Ending.code (.killed 6))
    | some n => return .ok { task with width := some n }
    | none =>
      process.complain (wrongAmount letter value)
      return .error 1
  | 'v' => return .ok { task with showsRepeated := true }
  | 'β' =>
    match chosenWord? ["little", "big"] value with
    | some word => return .ok { task with reversed := word = "big" }
    | none => return .error (← misuse process (wrongWord "--endian" ["little", "big"] value) 1)
  | letter =>
    let written := if letter = 't' then value
      else ((letterTypes.lookup letter).getD "").toList
    match readTypes written (written.length + 1) written with
    | .ok types => return .ok { task with types := task.types ++ types }
    | .error message =>
      process.complain message
      return .ok { task with isFaulty := true }

/-- The operands without an address among them, and that address. -/
def withoutAddress (options : Arguments) : List (List Char) × Option Nat :=
  let isModern := options.options.any fun o => "AjNStvwα".toList.contains o.1
  let isSigned (s : List Char) : Bool := s.head? = some '+'
  match isModern, options.operands with
  | false, [s] =>
    match if isSigned s then oldAddress? s else none with
    | some n => ([], some n)
    | none => ([s], none)
  | false, [name, s] =>
    match if isSigned s || (s.head?.any Char.isDigit) then oldAddress? s else none with
    | some n => ([name], some n)
    | none => ([name, s], none)
  | _, operands => (operands, none)

/-- Shows the bytes of its inputs. -/
def od (process : Process) : Step Nat :=
  process.withOptions
    { plain := "aBbcDdeFfHhIiLlOosvXx", valued := "AjNStβ", attached := "w"
      words := [("address-radix", 'A'), ("skip-bytes", 'j'), ("read-bytes", 'N'), ("format", 't'),
        ("output-duplicates", 'v'), ("width", 'w'), ("strings", 'α'), ("endian", 'β')] } 1
    fun options => do
      let read ← options.options.foldlM (fun (task : Except Nat DumpTask) (letter, value) => do
        match task with
        | .ok task => task.withOption process letter value
        | .error status => return .error status) (.ok {})
      match read with
      | .error status => return status
      | .ok task =>
        if task.isFaulty then return 1
        if task.texts.isSome && !task.types.isEmpty then
          process.complain "no type may be specified when dumping strings".toList
          return 1
        let (operands, address) := withoutAddress options
        let names := if operands.isEmpty then [['-']] else operands
        let types := if task.types.isEmpty then [⟨.octal, 2, false⟩] else task.types
        let common := types.foldl (fun n type => Nat.lcm n type.size) 1
        let usual := if common < 16 then common * (16 / common) else common
        let isWrong := task.width.any fun width => width % common ≠ 0
        let perLine := if isWrong then common else task.width.getD usual
        let layout : DumpLayout :=
          ⟨types, perLine, task.base, task.reversed, task.showsRepeated⟩
        let skipped := address.getD task.skipped
        let start : DumpState := { toSkip := skipped, toShow := task.limit, place := skipped }
        let warned (state : DumpState) : Step Unit :=
          if isWrong && !state.isOpened then
            process.complain ("warning: invalid width ".toList
              ++ decimal (task.width.getD 0) ++ "; using ".toList ++ decimal common
              ++ " instead".toList)
          else pure ()
        let take (state : DumpState) (s : List Char) : Step DumpState := do
          if task.texts.isSome then
            return { state with
              isOpened := true, pending := state.pending ++ s.drop state.toSkip
              toSkip := state.toSkip - s.length }
          warned state
          state.take process layout s
        let state ← dumpInputs process take start names
        if !state.isOpened then return state.status
        if 0 < state.toSkip then
          process.complain "cannot skip past end of combined input".toList
          return 1
        match task.texts with
        | some least =>
          process.say ((closedTexts least skipped [] state.pending).flatMap fun (place, text) =>
            closed (layout.address place ++ ' ' :: text))
        | none =>
          let (text, state) := if state.pending.isEmpty then ([], state)
            else state.show layout state.pending
          let last := layout.address state.place
          process.say (text ++ if last.isEmpty then [] else closed last)
        return state.status

end CheckedBuild.Machine.Tools
