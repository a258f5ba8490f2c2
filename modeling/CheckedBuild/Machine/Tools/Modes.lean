import CheckedBuild.Machine.Tools.Operands

/-!
# Permissions

The permissions of a file are twelve bits: three for each of owner, group and others, and three
with special meanings. A mode in writing gives them in octal digits, or says in clauses how they
change.
-/

namespace CheckedBuild.Machine.Tools

open Process

/-- What a clause of a mode does with permissions. -/
inductive ModeAction where
  | add
  | take
  | set
deriving DecidableEq, Repr

/-- Where the permissions of a clause come from. -/
inductive ModeSource where
  | bits (bits : Nat)
  /-- The bits, and those to run files if somebody may do that already or it is a directory. -/
  | runnable (bits : Nat)
  /-- What a group of users has, for everybody. -/
  | group (bits : Nat)
deriving Repr

/-- One change of permissions. -/
structure ModeChange where
  /-- The bits that may be changed; nobody being named means everybody, as far as the mask of the
  process goes. -/
  affected : Option Nat
  action : ModeAction
  source : ModeSource
  /-- The bits that are spoken of, as far as directories are concerned. -/
  mentioned : Nat := 0
deriving Repr

/-- All bits of permissions. -/
def allModeBits : Nat := 0o7777

/-- The bits of the users that a letter names. -/
def usersBits : Char → Nat
  | 'u' => 0o4700
  | 'g' => 0o2070
  | 'o' => 0o1007
  | _ => allModeBits

/-- The bits that a letter of permissions stands for. -/
def permissionBits : Char → Nat
  | 'r' => 0o444
  | 'w' => 0o222
  | 'x' => 0o111
  | 's' => 0o6000
  | 't' => 0o1000
  | _ => 0

/-- The number that octal digits stand for. -/
def octalValue (digits : List Char) : Nat :=
  digits.foldl (fun n c => 8 * n + (c.toNat - 48)) 0

/-- Whether a character is an octal digit. -/
def isOctal (c : Char) : Bool := '0' ≤ c && c ≤ '7'

/-- The changes of one clause after the letters for users. -/
def readActions (affected : Option Nat) (fuel : Nat) (s : List Char) :
    Option (List ModeChange) :=
  match fuel, s with
  | fuel + 1, sign :: rest =>
    let action? : Option ModeAction :=
      match sign with
      | '+' => some .add
      | '-' => some .take
      | '=' => some .set
      | _ => none
    match action? with
    | none => none
    | some action =>
      let (source?, tail) : Option ModeSource × List Char :=
        match rest with
        | c :: tail =>
          if isOctal c then
            let digits := rest.takeWhile isOctal
            let bits := octalValue digits
            (if allModeBits < bits then none else some (.bits bits), rest.drop digits.length)
          else if "ugo".toList.contains c then (some (.group (usersBits c &&& 0o777)), tail)
          else
            let letters := rest.takeWhile "rwxXst".toList.contains
            let bits := letters.foldl (fun bits c => bits ||| permissionBits c) 0
            (some (if letters.contains 'X' then .runnable bits else .bits bits),
              rest.drop letters.length)
        | [] => (some (.bits 0), [])
      match source? with
      | none => none
      | some source =>
        let mentioned := match source with
          | .bits bits | .runnable bits | .group bits => affected.getD allModeBits &&& bits
        let change : ModeChange := ⟨affected, action, source, mentioned⟩
        if tail.isEmpty then some [change]
        else (readActions affected fuel tail).map (change :: ·)
  | _, _ => none

/-- The changes that a mode in writing asks for. -/
def readMode? (mode : List Char) : Option (List ModeChange) :=
  if !mode.isEmpty && mode.all isOctal then
    let bits := octalValue mode
    let mentioned := if mode.length < 5 then bits &&& 0o6000 ||| 0o1777 else allModeBits
    if allModeBits < bits then none
    else some [⟨some allModeBits, .set, .bits bits, mentioned⟩]
  else
    ((Text.pieces ',' mode).mapM fun clause =>
      let who := clause.takeWhile "ugoa".toList.contains
      let affected := if who.isEmpty then none
        else some (who.foldl (fun bits c => bits ||| usersBits c) 0)
      readActions affected (clause.length + 1) (clause.drop who.length)).map List.flatten

/-- The bits that are in the first number and not in the second one. -/
def without (bits others : Nat) : Nat := bits - (bits &&& others)

/-- What a group of users has, for everybody. -/
def spreadOut (bits : Nat) : Nat :=
  (if bits &&& 0o444 != 0 then 0o444 else 0) ||| (if bits &&& 0o222 != 0 then 0o222 else 0)
    ||| (if bits &&& 0o111 != 0 then 0o111 else 0)

/-- The permissions after a change, of a directory or of something else. -/
def ModeChange.apply (change : ModeChange) (mask : Nat) (isDirectory : Bool) (mode : Nat) : Nat :=
  -- the special bits of a directory change only if they are spoken of
  let kept := if isDirectory then without 0o6000 change.mentioned else 0
  let bits := match change.source with
    | .bits bits => bits
    | .runnable bits =>
      if isDirectory || mode &&& 0o111 != 0 then bits ||| 0o111 else bits
    | .group users => spreadOut (mode &&& users)
  let reach := match change.affected with
    | some affected => affected
    | none => without allModeBits mask
  let bits := without (bits &&& reach) kept
  match change.action with
  | .add => mode ||| bits
  | .take => without mode bits
  | .set =>
    let preserved := (match change.affected with
      | some affected => without allModeBits affected
      | none => 0) ||| kept
    (mode &&& preserved) ||| bits

/-- The permissions that changes make of others. -/
def changedMode (changes : List ModeChange) (mask : Nat) (isDirectory : Bool) (mode : Nat) : Nat :=
  changes.foldl (fun mode change => change.apply mask isDirectory mode) mode

/-- The letter for permission to run, which shows a special bit, too. -/
def runLetter (runs special : Bool) (letter : Char) : Char :=
  if special then (if runs then letter else letter.toUpper) else if runs then 'x' else '-'

/-- Permissions as nine letters. -/
def modeLetters (mode : Nat) : List Char :=
  let has (bit : Nat) : Bool := mode &&& bit != 0
  let letter (bit : Nat) (c : Char) : Char := if has bit then c else '-'
  [letter 0o400 'r', letter 0o200 'w', runLetter (has 0o100) (has 0o4000) 's',
    letter 0o040 'r', letter 0o020 'w', runLetter (has 0o010) (has 0o2000) 's',
    letter 0o004 'r', letter 0o002 'w', runLetter (has 0o001) (has 0o1000) 't']

/-- Permissions in four octal digits. -/
def fourDigits (mode : Nat) : List Char :=
  let digits := Nat.toDigits 8 mode
  List.replicate (4 - digits.length) '0' ++ digits

/-- Permissions in digits and letters. -/
def describedMode (mode : Nat) : List Char :=
  fourDigits mode ++ " (".toList ++ modeLetters mode ++ [')']

/-- The nodes at a name and, if so asked for, below it, each with a path that leads to it. -/
def nodesBelow (files : FileSystem) (whole : Bool) (fuel : Nat) (path : List Char) (name : Name) :
    List (List Char × Name) :=
  match fuel with
  | 0 => []
  | fuel + 1 =>
    (path, name) ::
      (if whole && files.isDirectoryName name then
        (((files.entries name).map (·.1)).mergeSort fun a b => a ≤ b).flatMap fun entry =>
          nodesBelow files whole fuel (joined path (rawOf entry)) (name ++ [entry])
      else [])

/-- How deep directories may be nested. -/
def nestingLimit : Nat := 1000

/-- Changes the permissions of files. -/
def chmod (process : Process) : Step Nat :=
  let isMode (s : List Char) : Bool :=
    match s with
    | '-' :: c :: _ => "rwxXstugo0123456789".toList.contains c
    | _ => false
  let front := process.arguments.takeWhile fun s => s ≠ ['-', '-']
  let modes := front.filter isMode
  let arguments :=
    if modes.isEmpty then process.arguments
    else
      process.arguments.filter (fun s => !isMode s && s.head? = some '-') ++ [['-', '-']]
        ++ modes.take 1 ++ process.arguments.filter fun s => !isMode s && s.head? ≠ some '-'
  { process with arguments }.withOptions
    { plain := "Rfvc"
      words := [("recursive", 'R'), ("silent", 'f'), ("quiet", 'f'), ("verbose", 'v'),
        ("changes", 'c'), ("reference", '=')] } 1 fun options => do
    let reference? := options.value? '='
    let (mode, names) := match reference?, options.operands with
      | some _, names => ([], names)
      | none, mode :: names => (mode, names)
      | none, [] => ([], [])
    if reference?.isNone && options.operands.isEmpty || reference?.isSome && names.isEmpty then
      return ← misuse process "missing operand".toList 1
    if names.isEmpty then
      return ← misuse process ("missing operand after ".toList ++ marked mode) 1
    let changes? ← match reference? with
      | some path =>
        match ← nodeAt path with
        | .ok (_, node) =>
          let change : ModeChange := ⟨some allModeBits, .set, .bits node.mode, allModeBits⟩
          pure (some [change])
        | .error refusal => return ← failed process "get attributes of" path refusal
      | none => pure (readMode? mode)
    match changes? with
    | none => misuse process ("invalid mode: ".toList ++ marked mode) 1
    | some changes =>
      let isQuiet := options.has 'f'
      onEach names fun name => do
        match ← nodeAt name with
        | .error refusal =>
          let isDangling := (← nodeAt name false).toBool
          if !isQuiet then
            if isDangling then
              process.complain ("cannot operate on dangling symlink ".toList ++ marked name)
            else
              let _ ← cannot process "access" name refusal
          if options.has 'v' then
            process.say (closed (marked name ++ " could not be accessed".toList))
          return 1
        | .ok (place, _) =>
          let files := (← get).files
          (nodesBelow files (options.has 'R') nestingLimit name place).forM fun (path, place) => do
            match files.node? place with
            | none => return
            | some node =>
              if node.isLink then return
              let mode := changedMode changes files.mask node.isDirectory node.mode
              changeFiles fun files => files.changeAt place fun node => { node with mode }
              let shown := closed
                (if mode = node.mode then
                  "mode of ".toList ++ marked path ++ " retained as ".toList ++ describedMode mode
                else
                  "mode of ".toList ++ marked path ++ " changed from ".toList
                    ++ describedMode node.mode ++ " to ".toList ++ describedMode mode)
              if options.has 'v' || (options.has 'c' && mode ≠ node.mode) then process.say shown
          return 0

/-- Gives files to other owners, of whom the machine knows only one. -/
def chown (process : Process) : Step Nat :=
  process.withOptions
    { plain := "RfvchHLP"
      words := [("recursive", 'R'), ("no-dereference", 'h'), ("silent", 'f'), ("quiet", 'f'),
        ("verbose", 'v'), ("changes", 'c'), ("reference", '=')] } 1 fun options => do
    match options.operands with
    | [] => misuse process "missing operand".toList 1
    | [owner] => misuse process ("missing operand after ".toList ++ marked owner) 1
    | owner :: names =>
      let isGroup := process.shortName = "chgrp".toList
      let isKnown (s : List Char) : Bool :=
        s.isEmpty || s = "root".toList || (Text.natural? s).isSome
      let parts := (Text.pieces ':' owner).flatMap (Text.pieces '.')
      if !parts.all isKnown then
        let isAboutGroup := isGroup || isKnown (parts.headD [])
        process.complain ((if isAboutGroup then "invalid group: " else "invalid user: ").toList
          ++ marked owner)
        return 1
      onEach names fun name => do
        match ← nodeAt name (!options.has 'h') with
        | .ok _ => return 0
        | .error refusal =>
          if options.has 'f' then return 1
          cannot process "access" name refusal

end CheckedBuild.Machine.Tools
