/-!
# Masks

The mask of a process holds the permissions that new files do not get. It is set by octal digits,
or by clauses that say which permissions are granted: to whom, whether they are added, taken away
or the only ones, and which they are.
-/

namespace CheckedBuild.Shell

/-- Why a mask is not accepted. -/
inductive MaskFault where
  | digits
  | letters
deriving DecidableEq, Repr

/-- Octal digits of a mask. -/
def maskDigits (mask : Nat) : List Char :=
  let digits := Nat.toDigits 8 mask
  List.replicate (4 - digits.length) '0' ++ digits

/-- The permissions of one group as letters. -/
def permissionLetters (bits : Nat) : List Char :=
  (if bits &&& 4 != 0 then ['r'] else []) ++ (if bits &&& 2 != 0 then ['w'] else [])
    ++ (if bits &&& 1 != 0 then ['x'] else [])

/-- What a mask grants, group by group. -/
def grantedLetters (mask : Nat) : List Char :=
  let granted := 0o777 - mask % 512
  "u=".toList ++ permissionLetters (granted / 64) ++ ",g=".toList
    ++ permissionLetters (granted / 8 % 8) ++ ",o=".toList ++ permissionLetters (granted % 8)

/-- The execution bits of the groups that letters name. -/
def groupBits (letters : List Char) : Nat :=
  let bits := letters.foldl (fun bits letter =>
    bits ||| (match letter with
      | 'u' => 0o100
      | 'g' => 0o010
      | 'o' => 0o001
      | _ => 0o111)) 0
  if letters.isEmpty then 0o111 else bits

/-- The permissions that letters stand for; a letter for a group stands for what the mask has
for it. -/
def permissionBits (mask : Nat) (letters : List Char) : Nat :=
  (letters.foldl (fun bits letter =>
    bits ||| (match letter with
      | 'r' => 4
      | 'w' => 2
      | 'x' => 1
      | 'u' => mask / 64
      | 'g' => mask / 8
      | 'o' => mask
      | 'X' => if mask &&& 0o111 != 0 then 1 else 0
      | _ => 0)) 0) % 8

/-- What is granted after some clauses. -/
def grantedAfter (mask : Nat) (fuel granted : Nat) (clauses : List Char) :
    Except MaskFault Nat :=
  match fuel with
  | 0 => .error .letters
  | fuel + 1 =>
    let who := clauses.takeWhile "augo".toList.contains
    match clauses.drop who.length with
    | [] => .ok granted
    | sign :: rest =>
      if !"=+-".toList.contains sign then .error .letters
      else
        let letters := rest.takeWhile "rwxugoXs".toList.contains
        let groups := groupBits who
        let bits := permissionBits mask letters * groups
        let granted :=
          if sign = '-' then granted - (granted &&& bits)
          else if sign = '+' then granted ||| bits
          else bits ||| (granted - (granted &&& (groups * 7)))
        match rest.drop letters.length with
        | [] => .ok granted
        | ',' :: rest => grantedAfter mask fuel granted rest
        | c :: rest =>
          if "=+-".toList.contains c then grantedAfter mask fuel granted (c :: rest)
          else .error .letters

/-- The mask that a text makes of another one. -/
def maskFrom (mask : Nat) (mode : List Char) : Except MaskFault Nat :=
  match mode with
  | c :: _ =>
    if c.isDigit then
      if mode.all fun c => '0' ≤ c && c ≤ '7' then
        .ok (mode.foldl (fun n c => 8 * n + (c.toNat - 48)) 0 % 512)
      else .error .digits
    else (grantedAfter mask (mode.length + 1) (0o777 - mask) mode).map (0o777 - ·)
  | [] => .ok mask

end CheckedBuild.Shell
