import CheckedBuild.Machine.Raw

/-!
# Names that a shell could read

A name in a message is written so that a shell would read it as one word. It stands as it is if
nothing in it has a meaning to a shell; otherwise it stands between quotation marks, and what
cannot be printed is written with escapes between marks of their own.
-/

namespace CheckedBuild.Machine.Quotation

/-- An escape for a character that cannot be printed: a letter or three octal digits. -/
def escapeOf (c : Char) : List Char :=
  match c with
  | '\x07' => ['\\', 'a']
  | '\x08' => ['\\', 'b']
  | '\t' => ['\\', 't']
  | '\n' => ['\\', 'n']
  | '\x0b' => ['\\', 'v']
  | '\x0c' => ['\\', 'f']
  | '\r' => ['\\', 'r']
  | _ =>
    let digits := Nat.toDigits 8 c.toNat
    '\\' :: List.replicate (3 - digits.length) '0' ++ digits

/-- Whether a character is written as an escape; bytes of longer characters are only if such
characters cannot be printed. -/
def needsEscape (isWide : Bool) (c : Char) : Bool :=
  c.toNat < 32 || c.toNat = 127 || (!isWide && 127 < c.toNat)

/-- Whether a character has a meaning to a shell wherever it stands. -/
def isSpecial (c : Char) : Bool := " !\"$&()*;<=>[^`|'\\?".toList.contains c

/-- Whether a name has a meaning to a shell because of what it begins with. -/
def beginsSpecially (s : List Char) : Bool :=
  s.head? = some '#' || s.head? = some '~' || s = ['\x7b'] || s = ['\x7d']

/-- Whether a character means nothing between double quotation marks. -/
def isPlainInDouble (c : Char) : Bool :=
  !"!\"$&()*;<=>[^`|\\?#~".toList.contains c && c ≠ '\x7b' && c ≠ '\x7d'

/-- What stands between single quotation marks for a name; `inEscapes` tells that marks for
escapes are open. -/
def betweenMarks (isWide : Bool) (inEscapes : Bool) : List Char → List Char
  | [] => []
  | c :: rest =>
    if needsEscape isWide c then
      (if inEscapes then [] else "'$'".toList) ++ escapeOf c ++ betweenMarks isWide true rest
    else if c = '\'' then "'\\''".toList ++ betweenMarks isWide false rest
    else (if inEscapes then "''".toList else []) ++ c :: betweenMarks isWide false rest

/-- A name between quotation marks. -/
def always (isWide : Bool) (s : List Char) : List Char :=
  let holdsMark := s.contains '\''
  if holdsMark && s.all fun c => isPlainInDouble c && !needsEscape isWide c then '"' :: s ++ ['"']
  else
    -- the marks of an escape at the end are taken for open from the start on
    let isOpen := holdsMark && s.getLast?.any (needsEscape isWide)
    '\'' :: betweenMarks isWide isOpen s ++ ['\'']

/-- A name between quotation marks if it needs them; `others` need them as well. -/
def ifNeeded (isWide : Bool) (others : List Char) (s : List Char) : List Char :=
  if s.isEmpty || beginsSpecially s
      || s.any (fun c => isSpecial c || needsEscape isWide c || others.contains c) then
    always isWide s
  else s

/-- A word between single marks, with escapes for marks, backslashes and what cannot be
printed. -/
def word (s : List Char) : List Char :=
  '\'' :: s.flatMap (fun c =>
    if c = '\'' || c = '\\' then ['\\', c]
    else if needsEscape false c then escapeOf c
    else [c]) ++ ['\'']

end CheckedBuild.Machine.Quotation
