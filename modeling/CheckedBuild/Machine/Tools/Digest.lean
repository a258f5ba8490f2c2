import CheckedBuild.Machine.Digest.Long
import CheckedBuild.Machine.Tools.Format
import CheckedBuild.Machine.Tools.Operands

/-!
# Digests of files

A digest of a file is printed in front of its name. The lists that are printed so can be read
again: then the digests of the files that they name are computed and compared.
-/

namespace CheckedBuild.Machine.Tools

open Process

/-- A kind of digest. -/
structure DigestKind where
  /-- The name that stands for it in lists. -/
  label : String
  /-- The digits for bytes. -/
  digest : Bytes → List Char

/-- The kinds of digests by the names of the tools that compute them. -/
def digestKinds : List (String × DigestKind) :=
  [("md5sum", ⟨"MD5", Digest.digest128⟩), ("sha1sum", ⟨"SHA1", Digest.digest160⟩),
   ("sha224sum", ⟨"SHA224", Digest.digest224⟩), ("sha256sum", ⟨"SHA256", Digest.digest256⟩),
   ("sha384sum", ⟨"SHA384", Digest.digest384⟩), ("sha512sum", ⟨"SHA512", Digest.digest512⟩),
   ("b2sum", ⟨"BLAKE2b", Digest.mixingDigest 64⟩)]

/-- A name in a list of digests, and whether it had to be changed to stay on its line. -/
def listedName (name : List Char) : List Char × Bool :=
  let escaped := name.flatMap fun c =>
    if c = '\\' then ['\\', '\\']
    else if c = '\n' then ['\\', 'n']
    else if c = '\r' then ['\\', 'r']
    else [c]
  (escaped, escaped ≠ name)

/-- The name that stands for a listed one. -/
def unlistedName : List Char → List Char
  | '\\' :: 'n' :: rest => '\n' :: unlistedName rest
  | '\\' :: 'r' :: rest => '\r' :: unlistedName rest
  | '\\' :: '\\' :: rest => '\\' :: unlistedName rest
  | c :: rest => c :: unlistedName rest
  | [] => []

/-- The line for a file in a list of digests. -/
def digestLine (kind : DigestKind) (options : Arguments) (name : List Char) (bytes : Bytes) :
    List Char :=
  let (shown, isChanged) := if options.has 'z' then (name, false) else listedName name
  let mark := if isChanged then ['\\'] else []
  let line :=
    if options.has 'T' then
      mark ++ kind.label.toList ++ " (".toList ++ shown ++ ") = ".toList ++ kind.digest bytes
    else
      mark ++ kind.digest bytes ++ [' ', if options.has 'b' then '*' else ' '] ++ shown
  line ++ [if options.has 'z' then '\x00' else '\n']

/-- The kind of the digest, the digest and the name on a line of a list; a line need not tell the
kind if there is just one. -/
def readDigestLine (kinds : List DigestKind) (line : List Char) :
    Option (DigestKind × List Char × List Char) :=
  kinds.findSome? fun kind => (readAs kind (kinds.length = 1) line).map fun found => (kind, found)
where
  /-- The digest of a kind and the name on a line. -/
  readAs (kind : DigestKind) (mayBeBare : Bool) (line : List Char) :
      Option (List Char × List Char) :=
    let isDigit (c : Char) : Bool := c.isDigit || ('a' ≤ c && c ≤ 'f') || ('A' ≤ c && c ≤ 'F')
    let length := (kind.digest []).length
    let line := line.dropWhile fun c => c = ' ' || c = '\t'
    let (isChanged, line) := match line with
      | '\\' :: rest => (true, rest)
      | _ => (false, line)
    let named (name : List Char) : List Char := if isChanged then unlistedName name else name
    let tag := kind.label.toList ++ " (".toList
    if tag.isPrefixOf line then
      let digits := (line.reverse.takeWhile isDigit).reverse
      let front := line.take (line.length - digits.length)
      let name := (front.drop tag.length).take (front.length - tag.length - 4)
      if digits.length = length && ") = ".toList.isSuffixOf front then some (digits, named name)
      else none
    else
      let digits := line.takeWhile isDigit
      match line.drop digits.length with
      | ' ' :: mark :: name =>
        if mayBeBare && digits.length = length && (mark = ' ' || mark = '*') && !name.isEmpty then
          some (digits, named name)
        else none
      | _ => none

/-- How many lines of a list were found to be of each sort. -/
structure Checked where
  proper : Nat := 0
  improper : Nat := 0
  unreadable : Nat := 0
  wrong : Nat := 0
  right : Nat := 0

/-- Checks the file that a line of a list names. -/
def checkLine (process : Process) (kinds : List DigestKind) (options : Arguments) (checked : Checked)
    (line : List Char) : Step Checked := do
  let isQuiet := options.has 's'
  match readDigestLine kinds line with
  | none =>
    return if line.isEmpty || line.head? = some '#' then checked
      else { checked with improper := checked.improper + 1 }
  | some (kind, digits, name) =>
    let checked := { checked with proper := checked.proper + 1 }
    let (shown, isChanged) := listedName name
    let shown := (if isChanged then ['\\'] else []) ++ shown
    match ← process.openInput (some name) with
    | .error refusal =>
      if refusal = .notFound && options.has 'i' then return checked
      process.warn (process.blame name refusal)
      if !isQuiet then process.say (closed (shown ++ ": FAILED open or read".toList))
      return { checked with unreadable := checked.unreadable + 1 }
    | .ok number =>
      let bytes := bytesOfRaw (← readAll number)
      let isRight := kind.digest bytes = digits.map Char.toLower
      if !isQuiet && !(isRight && options.has 'q') then
        process.say (closed (shown ++ (if isRight then ": OK" else ": FAILED").toList))
      return if isRight then { checked with right := checked.right + 1 }
        else { checked with wrong := checked.wrong + 1 }

/-- Checks the files that a list of digests names. -/
def checkList (process : Process) (kinds : List DigestKind) (options : Arguments)
    (name : List Char) (text : List Char) : Step Bool := do
  let shown := Quotation.ifNeeded process.isWide [':'] name
  let checked ← (bareLines text).foldlM (checkLine process kinds options) {}
  if checked.proper = 0 then
    process.complain (shown ++ ": no properly formatted checksum lines found".toList)
    return false
  let warn (n : Nat) (one several : String) : Step Unit :=
    if n = 0 || options.has 's' then return
    else process.complain
      ("WARNING: ".toList ++ decimal n ++ (if n = 1 then one else several).toList)
  warn checked.improper " line is improperly formatted" " lines are improperly formatted"
  warn checked.unreadable " listed file could not be read" " listed files could not be read"
  warn checked.wrong " computed checksum did NOT match" " computed checksums did NOT match"
  let isIdle := options.has 'i' && checked.right = 0
  if isIdle && checked.wrong = 0 && !options.has 's' then
    process.complain (shown ++ ": no file was verified".toList)
  return checked.unreadable + checked.wrong = 0 && !isIdle
    && !(options.has 'S' && 0 < checked.improper)

/-- Checks the files in lists of digests. -/
def checkLists (kinds : List DigestKind) (process : Process) (options : Arguments) : Step Nat := do
  let names := if options.operands.isEmpty then [['-']] else options.operands
  onEach names fun name => do
    match ← process.openInput (some name) with
    | .error refusal =>
      process.warn (process.blame name refusal)
      return 1
    | .ok number =>
      let shown := if name = ['-'] then "standard input".toList else name
      return if ← checkList process kinds options shown (← readAll number) then 0 else 1

/-- Prints digests of inputs, or checks the files in the lists that they are. -/
def digestsOf (kind : DigestKind) (process : Process) (options : Arguments) : Step Nat := do
  if options.has 'c' then checkLists [kind] process options
  else
    process.onInputs options.operands process.blame fun number name => do
      let text ← readAll number
      process.say (digestLine kind options (name.getD ['-']) (bytesOfRaw text))

/-- The options that all digests have. -/
def digestOptions : OptionTable :=
  { plain := "bctwz", valued := "l"
    words := [("binary", 'b'), ("text", 't'), ("check", 'c'), ("tag", 'T'), ("warn", 'w'),
      ("zero", 'z'), ("quiet", 'q'), ("status", 's'), ("strict", 'S'), ("ignore-missing", 'i'),
      ("length", 'l')] }

/-- Prints digests of the kind that belongs to the name of the tool, or checks lists of them. -/
def digests (kind : DigestKind) (process : Process) : Step Nat :=
  process.withOptions digestOptions 1 fun options => do
    let kind := match (options.value? 'l').bind Text.natural? with
      | some bits =>
        if kind.label = "BLAKE2b" && 0 < bits && bits < 512 then
          ⟨s!"BLAKE2b-{bits}", Digest.mixingDigest (bits / 8)⟩
        else kind
      | none => kind
    digestsOf kind process options

/-- The sum of bytes, which is turned round to the right by a bit before each one. -/
def turningSum (bytes : Bytes) : Nat :=
  bytes.foldl (fun sum b => (sum / 2 + sum % 2 * 32768 + b.toNat) % 65536) 0

/-- The sum of bytes with its halves added up. -/
def plainSum (bytes : Bytes) : Nat :=
  let sum := bytes.foldl (fun sum b => sum + b.toNat) 0 % Nat.pow 2 32
  let halves := sum % 65536 + sum / 65536
  halves % 65536 + halves / 65536

/-- Prints a sum of the bytes of each input and how many blocks it takes. -/
def sumWith (isPlain : Bool) (process : Process) (operands : List (List Char)) : Step Nat :=
  process.onInputs operands process.blame fun number name => do
    let bytes := bytesOfRaw (← readAll number)
    let blocks (size : Nat) : List Char := decimal ((bytes.length + size - 1) / size)
    let numbers :=
      if isPlain then decimal (plainSum bytes) ++ ' ' :: blocks 512
      else
        ({ width := 5, precision := some 5 } : Format.Field).signed (turningSum bytes)
          ++ ' ' :: ({ width := 5 } : Format.Field).text (blocks 1024)
    process.say (closed (numbers ++ (name.map fun name => ' ' :: name).getD []))

/-- Prints a sum of the bytes of each input. -/
def sum (process : Process) : Step Nat :=
  process.withOptions { plain := "rs", words := [("sysv", 's')] } 1 fun options =>
    sumWith (options.options.getLast?.any (·.1 = 's')) process options.operands

/-- Prints the cyclic redundancy check and the size of each input, or a digest of a given kind. -/
def cksum (process : Process) : Step Nat :=
  process.withOptions
    { digestOptions with
      plain := "cwz", valued := "al", words := ("algorithm", 'a') :: ("untagged", 'U')
        :: digestOptions.words } 1
    fun options => do
      if options.has 'c' && !options.has 'a' then
        return ← checkLists (digestKinds.map (·.2)) process options
      let kind := String.ofList ((options.value? 'a').getD "crc".toList)
      if kind = "bsd" || kind = "sysv" then sumWith (kind = "sysv") process options.operands
      else if kind = "crc" then
        process.onInputs options.operands process.blame fun number name => do
          let bytes := bytesOfRaw (← readAll number)
          process.say (closed (decimal (Digest.cyclic bytes).toNat ++ ' ' :: decimal bytes.length
            ++ (name.map fun name => ' ' :: name).getD []))
      else
        match digestKinds.find? fun entry => entry.2.label.toLower = kind with
        | some (_, kind) =>
          let tagged := if options.has 'U' then [] else [('T', [])]
          digestsOf kind process { options with options := tagged ++ options.options }
        | none =>
          misuse process ("invalid argument ".toList ++ marked kind.toList
            ++ " for '--algorithm'".toList) 1

end CheckedBuild.Machine.Tools
