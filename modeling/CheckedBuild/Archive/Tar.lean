import CheckedBuild.Path.Basic
import CheckedBuild.Text.Utf8

/-!
# Tar streams

A member is a header block, its data and zeros up to a whole block; two zero blocks end the
stream. All members are regular files of mode 0644 without owner or time, so equal members give
equal streams. A name that does not fit into the 100 bytes of the header is stored in a record of
its own before the member.
-/

namespace CheckedBuild.Tar

open CheckedBuild.Path

/-- A file to be stored: its name and its data. -/
abbrev Member := String × Bytes

/-- The size of a block. -/
def blockSize : Nat := 512

/-- The size of a header's name. -/
def nameSize : Nat := 100

/-- Why a name cannot be written. -/
inductive NameError where
  | absolute
  | parent
  | empty
  | tooLong
  | nul
deriving DecidableEq, Repr

/-- The error in words. -/
def NameError.message : NameError → String
  | .absolute => "paths in archives must be relative"
  | .parent => "paths in archives must not have `..`"
  | .empty => "paths in archives must have at least one component"
  | .tooLong => "provided value is too long"
  | .nul => "provided value contains a nul byte"

/-- A name in the making: the bytes placed so far, and what stopped it. -/
structure Placing where
  placed : Bytes
  error : Option NameError := none
deriving DecidableEq, Repr

namespace Placing

/-- Places more bytes, if nothing has gone wrong so far and they fit. -/
def place (placing : Placing) (bytes : Bytes) : Placing :=
  if placing.error.isSome then placing
  else if nameSize < placing.placed.length + bytes.length then
    { placing with error := some .tooLong }
  else if 0 ∈ bytes then { placing with error := some .nul }
  else { placing with placed := placing.placed ++ bytes }

/-- Places a component, after a slash unless it is the first. -/
def placeComponent (placing : Placing) (text : List Char) : Placing :=
  (if placing.placed = [] then placing else placing.place [0x2f]).place (Utf8.encode text)

/-- Stops with an error. -/
def fail (placing : Placing) (error : NameError) : Placing :=
  { placing with error := placing.error <|> some error }

end Placing

/-- Places the components of a path. A name that is cut off may end in `..`, since more of that
component may follow elsewhere; `alone` says that the path is a single component. -/
def placeComponents (cutOff alone : Bool) (placing : Placing) : List Component → Placing
  | [] => if placing.placed = [] then placing.fail .empty else placing
  | .root :: _ => placing.fail .absolute
  | .parent :: rest =>
    if cutOff && rest.isEmpty then placing.placeComponent Component.parent.text
    else placing.fail .parent
  | .current :: rest =>
    placeComponents cutOff alone
      (if alone then placing.placeComponent Component.current.text else placing) rest
  | .named name :: rest =>
    let after := placing.placeComponent name
    if after.error.isSome then after else placeComponents cutOff alone after rest

/-- Places a path: its components, and one slash after them if it ends in one. -/
def placePath (cutOff : Bool) (path : List Char) : Placing :=
  let parts := components path
  let placing := placeComponents cutOff (parts.length == 1) ⟨[], none⟩ parts
  if path.getLast? = some '/' then placing.place [0x2f] else placing

/-- A name field after bytes were placed at its start, a zero after them if there is room. -/
def overwrite (field placed : Bytes) : Bytes :=
  if placed = [] then field else (placed ++ 0 :: field.drop (placed.length + 1)).take nameSize

/-- The bytes before the first zero. -/
def untilZero (field : Bytes) : Bytes := field.takeWhile (· ≠ 0)

/-- What is said about a name that cannot be written, given what the field holds by then. -/
def nameFault (error : NameError) (field : Bytes) : String :=
  error.message ++ " when setting path for " ++ Utf8.textOf (untilZero field)

/-- The bytes without those at the end that begin a character and do not complete it. -/
def wholeCharacters (bytes : Bytes) : List Char :=
  let (_, collected) := Utf8.run .boundary [] bytes
  collected.reverse

/-- A name field of zeros. -/
def emptyName : Bytes := List.replicate nameSize 0

/-- The name field for a path, and whether the whole path has to be stored elsewhere. -/
def nameField (path : String) : Except String (Bytes × Bool) :=
  let placing := placePath false path.toList
  let field := overwrite emptyName placing.placed
  match placing.error with
  | none => .ok (field, false)
  | some error =>
    let bytes := Utf8.bytesOf path
    if bytes.length < nameSize then .error (nameFault error field)
    else
      let cut := placePath true (wholeCharacters (bytes.take nameSize))
      let field := overwrite field cut.placed
      match cut.error with
      | none => .ok (field, true)
      | some error => .error (nameFault error field)

/-- The last `count` octal digits of a number as ASCII. -/
def octal (count n : Nat) : Bytes :=
  match count with
  | 0 => []
  | more + 1 => octal more (n / 8) ++ [UInt8.ofNat (n % 8 + 0x30)]

/-- The last `count` digits of a number to the base 256, the highest first. -/
def bigEndian (count n : Nat) : Bytes :=
  match count with
  | 0 => []
  | more + 1 => bigEndian more (n / 256) ++ [UInt8.ofNat n]

/-- The mark of a field whose number is not written in octal digits. -/
def wideMark : UInt8 := 0x80

/-- The field of a size: octal digits or, for a size with too many of them, eight bytes behind a
mark. -/
def sizeField (size : Nat) : Bytes :=
  if size < Nat.pow 8 11 then octal 11 size ++ [0]
  else wideMark :: 0 :: 0 :: 0 :: bigEndian 8 size

/-- The kinds of member that are written. -/
inductive Kind where
  | regular
  /-- The name of the member that follows. -/
  | longName
deriving DecidableEq, Repr

/-- The letter of a kind. -/
def Kind.letter : Kind → UInt8
  | .regular => 0x30
  | .longName => 0x4c

/-- The owner and group of a kind: left blank for files. -/
def Kind.owner : Kind → Bytes
  | .regular => List.replicate 16 0
  | .longName => octal 7 0 ++ 0 :: (octal 7 0 ++ [0])

/-- The magic text and version of a header. -/
def magic : Bytes := Utf8.encode "ustar  ".toList ++ [0]

/-- A header around its checksum. -/
def headerWith (sum name : Bytes) (kind : Kind) (size : Nat) : Bytes :=
  let front := name ++ octal 7 0o644 ++ 0 :: kind.owner ++ sizeField size ++ octal 11 0
    ++ 0 :: sum ++ kind.letter :: List.replicate 100 0 ++ magic
  front ++ List.replicate (blockSize - front.length) 0

/-- The sum of some bytes. -/
def byteSum (bytes : Bytes) : Nat := bytes.foldl (fun n b => n + b.toNat) 0

/-- A header, its checksum computed over blanks in its own place. -/
def header (name : Bytes) (kind : Kind) (size : Nat) : Bytes :=
  let blank := headerWith (List.replicate 8 0x20) name kind size
  headerWith (octal 7 (byteSum blank) ++ [0]) name kind size

/-- Data and zeros up to a whole block. -/
def padded (data : Bytes) : Bytes :=
  data ++ List.replicate ((blockSize - data.length % blockSize) % blockSize) 0

/-- The name of a record that holds a long name. -/
def longNameField : Bytes := overwrite emptyName (Utf8.bytesOf "././@LongLink")

/-- A member as it stands in the stream. -/
def member (path : String) (data : Bytes) : Except String Bytes :=
  match nameField path with
  | .error reason => .error reason
  | .ok (field, isLong) =>
    let record :=
      if isLong then
        let name := Utf8.bytesOf path ++ [0]
        header longNameField .longName name.length ++ padded name
      else []
    .ok (record ++ header field .regular data.length ++ padded data)

/-- The stream of the members in order. -/
def stream : List Member → Except String Bytes
  | [] => .ok (List.replicate (2 * blockSize) 0)
  | (path, data) :: rest =>
    match member path data with
    | .error reason => .error reason
    | .ok bytes => (stream rest).map (bytes ++ ·)

end CheckedBuild.Tar
