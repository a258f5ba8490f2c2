/-!
# Shell patterns

A pattern is a list of characters of which some are quoted. An unquoted star matches any text, an
unquoted question mark any character, and unquoted brackets one of the characters in them; an
unquoted backslash quotes the next character, and every other character matches itself.
-/

namespace CheckedBuild.Shell

/-- A character of an expanded word, and whether it was quoted. -/
abbrev Marked := Char × Bool

/-- Characters between brackets. -/
inductive Member where
  | range (low high : Char)
  | named (name : String)
deriving DecidableEq, Repr

/-- What one element of a pattern matches. -/
inductive Atom where
  | exactly (c : Char)
  | anyCharacter
  | anyText
  | oneOf (negated : Bool) (members : List Member)
deriving DecidableEq, Repr

/-- The classes of characters that have a name. -/
def characterClasses : List (String × (Char → Bool)) :=
  let isSpace (c : Char) : Bool := c = ' ' || ('\t' ≤ c && c ≤ '\r')
  let isGraphic (c : Char) : Bool := '!' ≤ c && c ≤ '~'
  [("alnum", Char.isAlphanum), ("alpha", Char.isAlpha), ("blank", fun c => c = ' ' || c = '\t'),
   ("cntrl", fun c => c < ' ' || c = '\x7f'), ("digit", Char.isDigit), ("graph", isGraphic),
   ("lower", Char.isLower), ("print", fun c => c = ' ' || isGraphic c),
   ("punct", fun c => isGraphic c && !c.isAlphanum), ("space", isSpace), ("upper", Char.isUpper),
   ("xdigit", fun c => c.isDigit || ('a' ≤ c && c ≤ 'f') || ('A' ≤ c && c ≤ 'F'))]

/-- Whether a character is one of the members. -/
def Member.admits (c : Char) : Member → Bool
  | .range low high => low ≤ c && c ≤ high
  | .named name => ((characterClasses.lookup name).map fun p => p c).getD false

/-- Whether an element matches a character. -/
def Atom.admits (c : Char) : Atom → Bool
  | .exactly expected => c == expected
  | .anyCharacter | .anyText => true
  | .oneOf negated members => members.any (Member.admits c) != negated

/-- A named class at the start of a pattern, after its bracket, and what follows it. -/
def namedClass? (pattern : List Marked) : Option (String × List Marked) :=
  characterClasses.findSome? fun (name, _) =>
    let written := (":" ++ name ++ ":]").toList
    if (pattern.take written.length).map (·.1) = written
        && (pattern.take written.length).all fun c => !c.2 then
      some (name, pattern.drop written.length)
    else none

/-- The members listed up to the closing bracket, and what follows it. A closing bracket in the
first place is one of the characters. -/
def membersOf (fuel : Nat) (isFirst : Bool) (found : List Member) (pattern : List Marked) :
    Option (List Member × List Marked) :=
  match fuel with
  | 0 => none
  | fuel + 1 =>
    let character (c : Char) (rest : List Marked) : Option (List Member × List Marked) :=
      match rest with
      | ('-', false) :: (high, quoted) :: tail =>
        if high = ']' && !quoted then membersOf fuel false (.range c c :: found) rest
        else
          match high, quoted, tail with
          | '\\', false, (high, _) :: tail => membersOf fuel false (.range c high :: found) tail
          | high, _, tail => membersOf fuel false (.range c high :: found) tail
      | rest => membersOf fuel false (.range c c :: found) rest
    match pattern with
    | [] => none
    | (']', false) :: rest => if isFirst then character ']' rest else some (found, rest)
    | ('[', false) :: rest =>
      match namedClass? rest with
      | some (name, tail) => membersOf fuel false (.named name :: found) tail
      | none => character '[' rest
    | ('\\', false) :: (c, _) :: rest => character c rest
    | (c, _) :: rest => character c rest

/-- The elements of a pattern. -/
def atoms (fuel : Nat) (pattern : List Marked) : List Atom :=
  match fuel with
  | 0 => []
  | fuel + 1 =>
    match pattern with
    | [] => []
    | ('*', false) :: rest => .anyText :: atoms fuel rest
    | ('?', false) :: rest => .anyCharacter :: atoms fuel rest
    | ('\\', false) :: (c, _) :: rest => .exactly c :: atoms fuel rest
    | ('[', false) :: rest =>
      let (negated, inside) := match rest with
        | ('!', false) :: inside => (true, inside)
        | inside => (false, inside)
      match membersOf (inside.length + 1) true [] inside with
      | some (members, tail) => .oneOf negated members :: atoms fuel tail
      | none => .exactly '[' :: atoms fuel rest
    | (c, _) :: rest => .exactly c :: atoms fuel rest

/-- Whether the elements match the whole text. -/
def matchAll : List Atom → List Char → Bool
  | [], s => s.isEmpty
  | .anyText :: rest, [] => matchAll rest []
  | .anyText :: rest, c :: s => matchAll rest (c :: s) || matchAll (.anyText :: rest) s
  | _ :: _, [] => false
  | atom :: rest, c :: s => atom.admits c && matchAll rest s
termination_by pattern s => pattern.length + s.length

/-- Whether a pattern matches the whole text. -/
def doesMatch (pattern : List Marked) (s : List Char) : Bool :=
  matchAll (atoms (pattern.length + 1) pattern) s

/-- The text without the part at its front that a pattern matches. -/
def dropMatchingFront (longest : Bool) (pattern : List Marked) (s : List Char) : List Char :=
  let pattern := atoms (pattern.length + 1) pattern
  let lengths := List.range (s.length + 1)
  match (if longest then lengths.reverse else lengths).find? fun n =>
      matchAll pattern (s.take n) with
  | some n => s.drop n
  | none => s

/-- The text without the part at its back that a pattern matches. -/
def dropMatchingBack (longest : Bool) (pattern : List Marked) (s : List Char) : List Char :=
  let pattern := atoms (pattern.length + 1) pattern
  let lengths := List.range (s.length + 1)
  match (if longest then lengths else lengths.reverse).find? fun n =>
      matchAll pattern (s.drop n) with
  | some n => s.take n
  | none => s

/-- Whether a pattern can match anything but its own text. -/
def isWild (pattern : List Marked) : Bool :=
  pattern.any fun (c, quoted) => !quoted && (c = '*' || c = '?' || c = '[')

/-- Whether a pattern without quoted characters matches a text; the case of letters may count or
not. -/
def matchesPattern (folds : Bool) (pattern s : List Char) : Bool :=
  let fold (s : List Char) : List Char := if folds then s.map Char.toLower else s
  doesMatch ((fold pattern).map fun c => (c, false)) (fold s)

end CheckedBuild.Shell
