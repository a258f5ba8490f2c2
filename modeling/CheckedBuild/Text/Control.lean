import CheckedBuild.Text.Utf8

/-!
# Control sequences

A terminal takes some bytes for commands: an escape byte starts a sequence, and single controls
stand for themselves. What a reader would see of a text is the rest. A sequence is followed byte
by byte through the modes of the terminal; a sequence that does not end swallows what comes
after it, blanks that stand in the middle of one show, and so does what follows them up to the
next control.
-/

namespace CheckedBuild.Text.Control

/-- What a byte is taken for by a terminal. -/
inductive Mode where
  | plain
  /-- Inside a character of which some bytes are missing. -/
  | character (missing : Nat)
  | escape
  | escapeWithin
  | sequenceStart
  | sequenceParameter
  | sequenceWithin
  | sequenceIgnored
  | deviceStart
  | deviceParameter
  | deviceWithin
  | deviceIgnored
  | deviceData
  /-- A command of the operating system, which a bell ends. -/
  | command
  /-- A text that only an escape ends. -/
  | message
deriving DecidableEq, Repr

/-- What a terminal does with a byte. -/
inductive Effect where
  | print
  | execute
  | begin
  | none
deriving DecidableEq, Repr

/-- Controls that may stand inside a sequence. -/
def isInner (b : Nat) : Bool := b < 0x18 || b == 0x19 || (0x1c ≤ b && b ≤ 0x1f)

/-- Whether a byte lies between two others. -/
def between (low high b : Nat) : Bool := low ≤ b && b ≤ high

/-- How a plain byte is taken. -/
def fromPlain (b : Nat) : Option Mode × Effect :=
  if isInner b then (none, .execute)
  else if between 0x20 0x7f b then (none, .print)
  else if between 0x80 0x8f b || between 0x91 0x9a b || b == 0x9c then (none, .execute)
  else if between 0xc2 0xdf b then (some (.character 1), .begin)
  else if between 0xe0 0xef b then (some (.character 2), .begin)
  else if between 0xf0 0xf4 b then (some (.character 3), .begin)
  else (none, .none)

/-- How the byte after an escape is taken. -/
def fromEscape (b : Nat) : Option Mode × Effect :=
  if isInner b then (none, .execute)
  else if between 0x20 0x2f b then (some .escapeWithin, .none)
  else if b == 0x5b then (some .sequenceStart, .none)
  else if b == 0x5d then (some .command, .none)
  else if b == 0x50 then (some .deviceStart, .none)
  else if b == 0x58 || b == 0x5e || b == 0x5f then (some .message, .none)
  else if between 0x30 0x7e b then (some .plain, .none)
  else (none, .none)

/-- How a byte of a control sequence is taken; `parameter` and `other` are the modes after a
digit and after a private mark. -/
def fromSequence (parameter other : Option Mode) (b : Nat) : Option Mode × Effect :=
  if isInner b then (none, .execute)
  else if between 0x20 0x2f b then (some .sequenceWithin, .none)
  else if between 0x30 0x3b b then (parameter, .none)
  else if between 0x3c 0x3f b then (other, .none)
  else if between 0x40 0x7e b then (some .plain, .none)
  else (none, .none)

/-- How a byte at the head of a text for a device is taken. -/
def fromDevice (parameter other : Option Mode) (b : Nat) : Option Mode × Effect :=
  if between 0x20 0x2f b then (some .deviceWithin, .none)
  else if between 0x30 0x3b b then (parameter, .none)
  else if between 0x3c 0x3f b then (other, .none)
  else if between 0x40 0x7e b then (some .deviceData, .none)
  else (none, .none)

/-- How a byte is taken in a mode: the new mode unless it stays, and what is done. -/
def change (mode : Mode) (b : Nat) : Option Mode × Effect :=
  if b == 0x18 || b == 0x1a then (some .plain, .execute)
  else if b == 0x1b then (some .escape, .none)
  else
    match mode with
    | .plain | .character _ => fromPlain b
    | .escape => fromEscape b
    | .escapeWithin =>
      if isInner b then (none, .execute)
      else if between 0x30 0x7e b then (some .plain, .none)
      else (none, .none)
    | .sequenceStart => fromSequence (some .sequenceParameter) (some .sequenceParameter) b
    | .sequenceParameter => fromSequence none (some .sequenceIgnored) b
    | .sequenceWithin => fromSequence (some .sequenceIgnored) (some .sequenceIgnored) b
    | .sequenceIgnored =>
      if isInner b then (none, .execute)
      else if between 0x40 0x7e b then (some .plain, .none)
      else (none, .none)
    | .deviceStart => fromDevice (some .deviceParameter) (some .deviceParameter) b
    | .deviceParameter => fromDevice none (some .deviceIgnored) b
    | .deviceWithin => fromDevice (some .deviceIgnored) (some .deviceIgnored) b
    | .deviceIgnored | .deviceData | .message =>
      (if b == 0x9c then some .plain else none, .none)
    | .command => (if b == 0x07 then some .plain else none, .none)

/-- Whether a byte with an effect is seen: what is printed, and blanks among the controls. -/
def isSeen (effect : Effect) (b : Nat) : Bool :=
  match effect with
  | .print => b != 0x7f
  | .begin => true
  | .execute => b == 0x09 || b == 0x0a || b == 0x0c || b == 0x0d
  | .none => false

/-- Where a reader stands: the mode, and whether the last byte was seen. -/
structure Position where
  mode : Mode := .plain
  showing : Bool := false
deriving Repr

/-- Takes a byte after one that was not seen. -/
def hiddenStep (mode : Mode) (b : Nat) : Position :=
  let (next, effect) := change mode b
  let mode := next.getD mode
  if isSeen effect b then
    match mode with
    | .character missing => ⟨.character missing, true⟩
    | _ => ⟨(change .plain b).1.getD mode, true⟩
  else ⟨mode, false⟩

/-- Takes a byte after one that was seen: it is seen unless it is a control. -/
def shownStep (mode : Mode) (b : Nat) : Position :=
  match mode with
  | .character missing => ⟨if missing ≤ 1 then .plain else .character (missing - 1), true⟩
  | _ =>
    let (next, effect) := change .plain b
    let mode := next.getD mode
    if isSeen effect b then ⟨mode, true⟩ else hiddenStep mode b

/-- Takes a byte; the new position says whether it is seen. -/
def step (position : Position) (b : UInt8) : Position :=
  if position.showing then shownStep position.mode b.toNat
  else hiddenStep position.mode b.toNat

/-- The bytes that are seen from a position on. -/
def seenFrom (position : Position) : List UInt8 → List UInt8
  | [] => []
  | b :: rest =>
    let next := step position b
    if next.showing then b :: seenFrom next rest else seenFrom next rest

/-- The bytes of a text that a reader would see. -/
def seen (bytes : List UInt8) : List UInt8 := seenFrom {} bytes

end CheckedBuild.Text.Control
