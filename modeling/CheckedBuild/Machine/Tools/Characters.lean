import CheckedBuild.Machine.Tools.Format
import CheckedBuild.Machine.Tools.Modes

/-!
# Translating characters

Two sets of characters are written with ranges, classes, repetitions and escapes. Characters of
the first set become those of the second one at the same place, or they are deleted; what is
repeated may be squeezed.
-/

namespace CheckedBuild.Machine.Tools

open Process

/-! ### Writing of sets -/

/-- A character of a set in writing; one after a backslash has no special meaning. -/
structure SetLetter where
  value : Char
  isEscaped : Bool := false

/-- Whether a letter is a character with its special meaning. -/
def SetLetter.is (letter : SetLetter) (c : Char) : Bool := letter.value = c && !letter.isEscaped

/-- What a backslash makes of a character that is no octal digit. -/
def letterEscape (c : Char) : Char := if c = 'e' then c else (Format.escapeLetter? c).getD c

/-- The letters of a set, and warnings about backslashes. -/
def setLetters (s : List Char) : List SetLetter × List (List Char) :=
  match s with
  | [] => ([], [])
  | ['\\'] =>
    ([⟨'\\', false⟩],
      ["warning: an unescaped backslash at end of string is not portable".toList])
  | '\\' :: a :: rest =>
    let octal (digits : List Char) : Char :=
      Char.ofNat (digits.foldl (fun n c => 8 * n + (c.toNat - 48)) 0)
    let after (c : Char) (rest : List SetLetter × List (List Char)) :
        List SetLetter × List (List Char) := (⟨c, true⟩ :: rest.1, rest.2)
    match rest with
    | b :: c :: later =>
      if isOctal a && isOctal b && isOctal c then
        if a ≤ '3' then after (octal [a, b, c]) (setLetters later)
        else
          let (letters, warnings) := setLetters (c :: later)
          let warning := "warning: the ambiguous octal escape \\".toList ++ [a, b, c]
            ++ " is being\n\tinterpreted as the 2-byte sequence \\0".toList ++ [a, b]
            ++ ", ".toList ++ [c]
          (⟨octal [a, b], true⟩ :: letters, warning :: warnings)
      else if isOctal a && isOctal b then after (octal [a, b]) (setLetters (c :: later))
      else if isOctal a then after (octal [a]) (setLetters (b :: c :: later))
      else after (letterEscape a) (setLetters (b :: c :: later))
    | [b] =>
      if isOctal a && isOctal b then after (octal [a, b]) ([], [])
      else
        after (if isOctal a then octal [a] else letterEscape a) (setLetters [b])
    | [] => after (if isOctal a then octal [a] else letterEscape a) ([], [])
  | c :: rest =>
    let (letters, warnings) := setLetters rest
    (⟨c, false⟩ :: letters, warnings)

/-- A part of a set of characters. -/
inductive SetPart where
  | one (c : Char)
  | range (low high : Char)
  | named (name : String)
  /-- What is equivalent to a character, which is that character. -/
  | equivalent (c : Char)
  /-- A character so many times; zero stands for as often as needed. -/
  | repeated (c : Char) (count : Nat)
deriving DecidableEq, Repr

/-- All characters that stand for bytes. -/
def allCharacters : List Char := (List.range 256).map Char.ofNat

/-- The characters of a class. -/
def classMembers (name : String) : Option (List Char) :=
  let isSpace (c : Char) : Bool := c = ' ' || ('\t' ≤ c && c ≤ '\r')
  let isGraphic (c : Char) : Bool := '!' ≤ c && c ≤ '~'
  let p? : Option (Char → Bool) := match name with
    | "alnum" => some Char.isAlphanum
    | "alpha" => some Char.isAlpha
    | "blank" => some fun c => c = ' ' || c = '\t'
    | "cntrl" => some fun c => c < ' ' || c = '\x7f'
    | "digit" => some Char.isDigit
    | "graph" => some isGraphic
    | "lower" => some Char.isLower
    | "print" => some fun c => c = ' ' || isGraphic c
    | "punct" => some fun c => isGraphic c && !c.isAlphanum
    | "space" => some isSpace
    | "upper" => some Char.isUpper
    | "xdigit" => some fun c =>
      c.isDigit || ('a' ≤ c && c ≤ 'f') || ('A' ≤ c && c ≤ 'F')
    | _ => none
  p?.map allCharacters.filter

/-- A character as it is shown in a complaint. -/
def printable (c : Char) : List Char :=
  if ' ' ≤ c && c ≤ '~' then [c]
  else
    match c with
    | '\n' => "\\n".toList
    | '\t' => "\\t".toList
    | '\r' => "\\r".toList
    | '\x07' => "\\a".toList
    | '\x08' => "\\b".toList
    | '\x0b' => "\\v".toList
    | '\x0c' => "\\f".toList
    | c =>
      let digits := Nat.toDigits 8 c.toNat
      '\\' :: List.replicate (3 - digits.length) '0' ++ digits

/-- What stands between two marks of the same kind, and what follows the closing bracket. -/
def insideBrackets? (mark : Char) (sofar : List Char) :
    List SetLetter → Option (List Char × List SetLetter)
  | a :: b :: rest =>
    if a.is mark && b.is ']' then some (sofar.reverse, rest)
    else insideBrackets? mark (a.value :: sofar) (b :: rest)
  | _ => none

/-- A repetition in brackets, of which the opening one has been read. -/
def repetition? : List SetLetter → Option (Except (List Char) (SetPart × List SetLetter))
  | c :: star :: rest =>
    if !star.is '*' then none
    else
      let digits := rest.takeWhile fun letter => !letter.isEscaped && letter.value ≠ ']'
      match rest.drop digits.length with
      | close :: later =>
        if close.isEscaped then none
        else
          let text := digits.map (·.value)
          let base := if text.head? = some '0' then 8 else 10
          let (count, left) := Format.digitsValue base text.length text
          if left.isEmpty && count < Nat.pow 2 64 then some (.ok (.repeated c.value count, later))
          else
            some (.error ("invalid repeat count ".toList ++ marked (text.flatMap printable)
              ++ " in [c*n] construct".toList))
      | [] => none
  | _ => none

/-- A construct in brackets, of which the opening one has been read. -/
def bracketPart? (letters : List SetLetter) :
    Option (Except (List Char) (SetPart × List SetLetter)) :=
  let isRepetition (rest : List SetLetter) : Bool :=
    match rest with
    | star :: rest =>
      star.is '*' && (rest.dropWhile fun letter => letter.value.isDigit && !letter.isEscaped).head?.any
        fun letter => letter.is ']'
    | [] => false
  match letters with
  | mark :: rest =>
    if mark.is ':' || mark.is '=' then
      match insideBrackets? mark.value [] rest with
      | none => repetition? letters
      | some (inside, later) =>
        let isClass := mark.is ':'
        let shown := inside.flatMap printable
        let wrong (message : List Char) :
            Option (Except (List Char) (SetPart × List SetLetter)) :=
          if isRepetition rest then repetition? letters else some (.error message)
        match isClass, inside with
        | true, [] => some (.error "missing character class name '[::]'".toList)
        | false, [] => some (.error "missing equivalence class character '[==]'".toList)
        | true, name =>
          if (classMembers (String.ofList name)).isSome then
            some (.ok (.named (String.ofList name), later))
          else wrong ("invalid character class ".toList ++ marked shown)
        | false, [c] => some (.ok (.equivalent c, later))
        | false, _ =>
          wrong (shown ++ ": equivalence class operand must be a single character".toList)
    else repetition? letters
  | [] => none

/-- Reads the parts of a set. -/
def readSet (fuel : Nat) (letters : List SetLetter) : Except (List Char) (List SetPart) :=
  match fuel, letters with
  | 0, _ | _, [] => .ok []
  | fuel + 1, first :: rest =>
    match rest with
    | second :: third :: later =>
      match if first.is '[' then bracketPart? rest else none with
      | some (.error message) => .error message
      | some (.ok (part, later)) => (readSet fuel later).map (part :: ·)
      | none =>
        if second.is '-' then
          if third.value < first.value then
            .error ("range-endpoints of '".toList ++ printable first.value ++ '-'
              :: printable third.value ++ "' are in reverse collating sequence order".toList)
          else (readSet fuel later).map (.range first.value third.value :: ·)
        else (readSet fuel rest).map (.one first.value :: ·)
    | _ => .ok (letters.map fun letter => .one letter.value)

/-! ### Meaning of sets -/

/-- The characters of a part in order. -/
def SetPart.members : SetPart → List Char
  | .one c | .equivalent c => [c]
  | .range low high =>
    (List.range (high.toNat + 1 - low.toNat)).map fun i => Char.ofNat (low.toNat + i)
  | .named name => (classMembers name).getD []
  | .repeated c count => List.replicate count c

/-- Whether a part stands for a character as often as needed. -/
def SetPart.isFiller : SetPart → Bool
  | .repeated _ 0 => true
  | _ => false

/-- Whether a part is the class of small or that of large letters. -/
def SetPart.isCase (part : SetPart) : Bool := part = .named "lower" || part = .named "upper"

/-- The members of a set. -/
def membersOf (parts : List SetPart) : List Char := parts.flatMap SetPart.members

/-- A member of a set as it is paired with one of another set. The letters of one case count as a
single member, and are paired with those of the other case. -/
inductive SetItem where
  | one (c : Char)
  | letters (name : String)
deriving DecidableEq, Repr

/-- How many members of the first set each part of the second set begins behind. -/
def partStarts (width : SetPart → Nat) (start : Nat) : List SetPart → List (Nat × SetPart)
  | [] => []
  | part :: rest => (start, part) :: partStarts width (start + width part) rest

/-- How many members a part of the first set has when cases are paired with cases: each class
that another one stands beside counts once. -/
def pairItems (fuel : Nat) (first second : List SetPart) (i j : Nat) :
    Except (List Char) (List (SetItem × SetItem)) :=
  match fuel, first, second with
  | fuel + 1, a :: as, b :: bs =>
    let misaligned : List Char := "misaligned [:upper:] and/or [:lower:] construct".toList
    let nextOf (part : SetPart) (parts : List SetPart) (k : Nat) : List SetPart × Nat :=
      if k + 1 < part.members.length then (part :: parts, k + 1) else (parts, 0)
    if a.members.length ≤ i then pairItems fuel as (b :: bs) 0 j
    else if b.members.length ≤ j then pairItems fuel (a :: as) bs i 0
    else if b.isCase && j = 0 then
      if a.isCase && i = 0 then
        let name (part : SetPart) : String := match part with
          | .named name => name
          | _ => ""
        (pairItems fuel as bs 0 0).map ((.letters (name a), .letters (name b)) :: ·)
      else .error misaligned
    else
      let c := (a.members[i]?).getD ' '
      let d := (b.members[j]?).getD ' '
      let (first, i) := nextOf a as i
      let (second, j) := nextOf b bs j
      (pairItems fuel first second i j).map ((.one c, .one d) :: ·)
  | _, [], b :: _ =>
    if b.isCase && j = 0 then
      .error "misaligned [:upper:] and/or [:lower:] construct".toList
    else .ok []
  | _, _, _ => .ok []

/-- A set whose filler takes the room that is left up to a length. -/
def withFiller (length : Nat) (parts : List SetPart) : List SetPart :=
  let total := (membersOf parts).length
  parts.map fun part => match part with
    | .repeated c 0 => .repeated c (length - total)
    | part => part

/-- A set that is made as long as another one by repeating its last character. -/
def stretched (length : Nat) (parts : List SetPart) : Except (List Char) (List SetPart) :=
  let total := (membersOf parts).length
  if length ≤ total then .ok parts
  else
    match parts.getLast? with
    | none => .error "when not truncating set1, string2 must be non-empty".toList
    | some (.named _) =>
      .error ("when translating with string1 longer than string2,\nthe latter string must not end "
        ++ "with a character class").toList
    | some part => .ok (parts ++ [.repeated (part.members.getLast?.getD ' ') (length - total)])

/-- What a translation is asked to do. -/
structure Translation where
  complements : Bool
  deletes : Bool
  squeezes : Bool
  truncates : Bool
  first : List SetPart
  second : Option (List SetPart)

namespace Translation

/-- The characters of the first set, or all others. -/
def firstMembers (translation : Translation) : List Char :=
  let members := membersOf translation.first
  if !translation.complements then members
  else
    let isMember := allCharacters.map members.contains
    allCharacters.filter fun c => !(isMember[c.toNat]?).getD false

/-- What becomes of each character, and the second set that goes with it. -/
def table (translation : Translation) (second : List SetPart) :
    Except (List Char) (Array Char × List Char) := do
  let first := translation.first
  let length := translation.firstMembers.length
  if 1 < second.countP SetPart.isFiller then
    throw "only one [c*] repeat construct may appear in string2".toList
  if second.any fun part => match part with
      | .equivalent _ => true
      | _ => false then
    throw "[=c=] expressions may not appear in string2 when translating".toList
  let isRestricted (part : SetPart) : Bool := match part with
    | .named _ => !part.isCase
    | _ => false
  if second.any isRestricted then
    throw ("when translating, the only character classes that may appear in\nstring2 are 'upper' "
      ++ "and 'lower'").toList
  let cases := second.any SetPart.isCase
  let isClass (part : SetPart) : Bool := match part with
    | .named _ => true
    | _ => false
  let fuel := 2 * (length + (membersOf second).length + first.length + second.length) + 2
  let second := withFiller length second
  -- classes of letters beside each other are as long as each other
  if cases && !translation.complements then
    let _ ← pairItems fuel first second 0 0
  let second ← if translation.truncates then pure second else stretched length second
  if translation.complements then
    let members := membersOf second
    if first.any isClass && !(members.length = length && members.eraseDups.length ≤ 1) then
      throw ("when translating with complemented character classes,\nstring2 must map all "
        ++ "characters in the domain to one").toList
    let table := (translation.firstMembers.zip members).foldl
      (fun (table : Array Char) (a, b) => table.setIfInBounds a.toNat b) allCharacters.toArray
    return (table, members)
  else
    let fuel := fuel + 2 * length + 2
    let pairs ← pairItems fuel first second 0 0
    let table := pairs.foldl (fun (table : Array Char) pair =>
      match pair with
      | (.one a, .one b) => table.setIfInBounds a.toNat b
      | (.letters a, .letters b) =>
        if a = b then table
        else
          ((classMembers a).getD []).foldl (fun table c =>
            table.setIfInBounds c.toNat (if b = "upper" then c.toUpper else c.toLower)) table
      | _ => table) allCharacters.toArray
    return (table, membersOf second)

end Translation

/-- A text in which neighbours that are equal and satisfy a condition are one. -/
def squeezed (p : Char → Bool) (s : List Char) : List Char :=
  (s.foldl (fun (kept : List Char) c =>
    if p c && kept.head? = some c then kept else c :: kept) []).reverse

/-- Whether characters are members of a set, looked up quickly. -/
def memberTest (members : List Char) : Char → Bool :=
  let isMember := (allCharacters.map members.contains).toArray
  fun c => (isMember[c.toNat]?).getD false

/-- What becomes of texts. -/
def Translation.function (translation : Translation) :
    Except (List Char) (List Char → List Char) := do
  if translation.first.any SetPart.isFiller then
    throw "the [c*] repeat construct may not appear in string1".toList
  let isFirst := memberTest translation.firstMembers
  match translation.second with
  | none =>
    return fun s =>
      if translation.deletes then s.filter fun c => !isFirst c else squeezed isFirst s
  | some second =>
    if translation.deletes then
      if second.any SetPart.isFiller then
        throw "the [c*] construct may appear in string2 only when translating".toList
      let isSecond := memberTest (membersOf second)
      return fun s => squeezed isSecond (s.filter fun c => !isFirst c)
    else
      let (table, members) ← translation.table second
      let isSecond := memberTest members
      return fun s =>
        let changed := s.map fun c => (table[c.toNat]?).getD c
        if translation.squeezes then squeezed isSecond changed else changed

/-- Translates, deletes or squeezes characters of standard input. -/
def tr (process : Process) : Step Nat :=
  process.withOptions
    { plain := "cCdst", strict := true
      words := [("complement", 'c'), ("delete", 'd'), ("squeeze-repeats", 's'),
        ("truncate-set1", 't')] } 1
    fun options => do
      let refuse (message : List Char) (hint : Option String) : Step Nat := do
        process.complain message
        if let some hint := hint then process.warn hint.toList
        advise process
        return 1
      let deletes := options.has 'd'
      let squeezes := options.has 's'
      let least := if deletes = squeezes then 2 else 1
      let most := if deletes && !squeezes then 1 else 2
      match options.operands with
      | [] => refuse "missing operand".toList none
      | first :: rest =>
        if rest.length + 1 < least then
          refuse ("missing operand after ".toList ++ marked first) (some
            (if squeezes then
              "Two strings must be given when both deleting and squeezing repeats."
            else "Two strings must be given when translating."))
        else if let some extra := options.operands[most]? then
          refuse ("extra operand ".toList ++ marked extra)
            (if options.operands.length = 2 then
              some "Only one string may be given when deleting without squeezing repeats."
            else none)
        else
          let fail (message : List Char) : Step Nat := do
            process.complain message
            return 1
          let read (s : List Char) : Step (Except (List Char) (List SetPart)) := do
            let (letters, warnings) := setLetters s
            warnings.forM process.complain
            return readSet (letters.length + 1) letters
          match ← read first with
          | .error message => fail message
          | .ok firstParts =>
            let second? : Except (List Char) (Option (List SetPart)) ← match rest with
              | [] => pure (.ok none)
              | s :: _ => do pure ((← read s).map some)
            match second? with
            | .error message => fail message
            | .ok second =>
              let translation : Translation :=
                ⟨options.has 'c' || options.has 'C', deletes, squeezes, options.has 't',
                  firstParts, second⟩
              match translation.function with
              | .error message => fail message
              | .ok function =>
                match ← process.openInput none with
                | .ok number =>
                  if squeezes then process.say (function (← readAll number))
                  else onPieces pieceLimit number () fun _ s => process.print (function s)
                  return 0
                | .error refusal =>
                  fail ("read error: ".toList ++ refusal.complaint.toList)

end CheckedBuild.Machine.Tools
