import CheckedBuild.Archive.Listing
import CheckedBuild.Machine.Tools.Operands

/-!
# Bytes written with few characters

An encoding writes groups of bytes with digits for groups of their bits, and fills the last group
up with a mark. The digits are read back until something else is met.
-/

namespace CheckedBuild.Machine.Tools

open Process

/-- An encoding of bytes. -/
structure Encoding where
  digits : String
  /-- How many bits a digit stands for. -/
  bits : Nat
  /-- How many digits make a group. -/
  group : Nat
  /-- The bits of a byte are taken from the lowest one on. -/
  lowFirst : Bool := false
  /-- The last group is filled up. -/
  isFilled : Bool := true

/-- The encoding with 64 digits. -/
def encoding64 : Encoding :=
  ⟨"ABCDEFGHIJKLMNOPQRSTUVWXYZabcdefghijklmnopqrstuvwxyz0123456789+/", 6, 4, false, true⟩

/-- The encoding with 32 digits. -/
def encoding32 : Encoding := ⟨"ABCDEFGHIJKLMNOPQRSTUVWXYZ234567", 5, 8, false, true⟩

/-- The encodings by the names of the options that choose them. -/
def encodings : List (String × Encoding) :=
  [("base64", encoding64),
   ("base64url", { encoding64 with
      digits := "ABCDEFGHIJKLMNOPQRSTUVWXYZabcdefghijklmnopqrstuvwxyz0123456789-_" }),
   ("base32", encoding32),
   ("base32hex", { encoding32 with digits := "0123456789ABCDEFGHIJKLMNOPQRSTUV" }),
   ("base16", ⟨"0123456789ABCDEF", 4, 2, false, false⟩),
   ("base2msbf", ⟨"01", 1, 8, false, false⟩), ("base2lsbf", ⟨"01", 1, 8, true, false⟩)]

/-- The bits of a number from the highest one on. -/
def bitsOfNumber (width n : Nat) : List Bool :=
  (List.range width).map fun i => n / Nat.pow 2 (width - 1 - i) % 2 = 1

/-- The number of bits from the highest one on. -/
def numberOfBits (bits : List Bool) : Nat :=
  bits.foldl (fun n bit => 2 * n + if bit then 1 else 0) 0

/-- The bits of a byte in the order of an encoding. -/
def Encoding.order (encoding : Encoding) (bits : List Bool) : List Bool :=
  if encoding.lowFirst then bits.reverse else bits

/-- Bytes in an encoding. -/
def Encoding.write (encoding : Encoding) (bytes : Bytes) : List Char :=
  let digits := encoding.digits.toList.toArray
  let perGroup := encoding.bits * encoding.group / 8
  (chunks perGroup bytes).flatMap fun group =>
    let bits := group.flatMap fun b => encoding.order (bitsOfNumber 8 b.toNat)
    let text := (chunks encoding.bits bits).map fun bits =>
      (digits[numberOfBits (bits ++ List.replicate (encoding.bits - bits.length) false)]?).getD '='
    text ++ if encoding.isFilled then List.replicate (encoding.group - text.length) '=' else []

/-- The bytes that some digits stand for, as far as they are complete. -/
def Encoding.bytesOf (encoding : Encoding) (values : List Nat) : Bytes :=
  (chunks 8 (values.flatMap (bitsOfNumber encoding.bits))).filterMap fun bits =>
    if bits.length = 8 then some (UInt8.ofNat (numberOfBits (encoding.order bits))) else none

/-- Whether so many digits may stand in front of marks that fill a group up. -/
def Encoding.mayBeFilled (encoding : Encoding) (count : Nat) : Bool :=
  if encoding.group = 4 then count = 2 || count = 3 else [2, 4, 5, 7].contains count

/-- The bytes that digits in groups stand for, and whether all of the text was read. -/
def Encoding.readGroups (encoding : Encoding) (digits : List Char) :
    List (List Char) → Bytes × Bool
  | [] => ([], true)
  | group :: rest =>
    let value? (c : Char) : Option Nat :=
      if digits.contains c then some (digits.idxOf c) else none
    let values := (group.map value?).takeWhile Option.isSome |>.filterMap id
    let bytes := encoding.bytesOf values
    let marks := group.drop values.length
    let isWhole := group.length = encoding.group
      && (marks.isEmpty
        || (encoding.isFilled && marks.all (· = '=') && encoding.mayBeFilled values.length))
    if isWhole then
      let (more, isRead) := encoding.readGroups digits rest
      (bytes ++ more, isRead)
    else (bytes, false)

/-- The bytes that a text stands for, and whether all of it was read; other characters may be
passed over. -/
def Encoding.read (encoding : Encoding) (ignores : Bool) (s : List Char) : Bytes × Bool :=
  let digits := encoding.digits.toList
  let kept := s.filter fun c =>
    if ignores then digits.contains c || c = '=' else c ≠ '\n'
  encoding.readGroups digits (chunks encoding.group kept)

/-- Writes an input in an encoding, or reads one that is so written. -/
def encode (encoding : Encoding) (process : Process) (options : Arguments) : Step Nat := do
  match options.operands with
  | _ :: extra :: _ => misuse process ("extra operand ".toList ++ marked extra) 1
  | operands =>
    match (options.value? 'w').map Text.natural? with
    | some none =>
      process.complain ("invalid wrap size: ".toList ++ marked ((options.value? 'w').getD []))
      return 1
    | width =>
      let (inputs, status) ← process.inputs operands process.blame
      match inputs.head? with
      | none => return status
      | some input =>
        if options.has 'd' then
          let (bytes, isRead) := encoding.read (options.has 'i') input.text
          process.say (rawOfBytes bytes)
          if !isRead then process.complain "invalid input".toList
          return if isRead then 0 else 1
        let width := (width.getD none).getD 76
        let text := encoding.write (bytesOfRaw input.text)
        process.say (if width = 0 || text.isEmpty then text
          else closed (Text.joinWith ['\n'] (chunks width text)))
        return 0

/-- The options of encodings. -/
def encodingOptions : OptionTable :=
  { plain := "di", valued := "w"
    words := [("decode", 'd'), ("ignore-garbage", 'i'), ("wrap", 'w')] }

/-- Writes an input in an encoding of its own, or reads one that is so written. -/
def encodeAs (encoding : Encoding) (process : Process) : Step Nat :=
  process.withOptions encodingOptions 1 (encode encoding process)

/-- Writes an input in a chosen encoding, or reads one that is so written. -/
def basenc (process : Process) : Step Nat :=
  let letters := encodings.zipIdx.map fun ((name, _), i) => (name, Char.ofNat (48 + i))
  process.withOptions { encodingOptions with words := letters ++ encodingOptions.words } 1
    fun options => do
      let chosen := options.options.filterMap fun (letter, _) =>
        if letter.isDigit then encodings[letter.toNat - 48]? else none
      match chosen.getLast? with
      | some (_, encoding) => encode encoding process options
      | none => misuse process "missing encoding type".toList 1

end CheckedBuild.Machine.Tools
