import CheckedBuild.Text.Rounding

/-!
# Tokens of the language for records

A program is read as tokens: numbers, texts, patterns, names, words of the language, signs and
line ends. Whether a slash begins a pattern depends on the token before it.
-/

namespace CheckedBuild.Records

/-- Why a text is no program: the reason, and the line where that shows. -/
structure Fault where
  line : Nat
  reason : List Char
  /-- The line is given without a word in front. -/
  isBare : Bool := false

/-- The fault in words. -/
def Fault.message (fault : Fault) : List Char :=
  ((if fault.isBare then "" else "line ") ++ toString fault.line ++ ": ").toList ++ fault.reason

/-- A token. -/
inductive Token where
  /-- A number, and how it is written. -/
  | number (x : Float) (s : List Char)
  | text (s : List Char)
  | pattern (s : List Char)
  | name (s : List Char)
  /-- A name that an opening parenthesis follows at once. -/
  | callName (s : List Char)
  | builtin (s : String)
  | keyword (s : String)
  | sign (s : String)
  | lineEnd
  | ending
  /-- What can be no token. -/
  | broken (fault : Fault)

/-- A token with where it stands. -/
structure Placed where
  token : Token
  line : Nat
  /-- How many parentheses and braces are open in front of it. -/
  parens : Nat := 0
  braces : Nat := 0
  /-- What is wrong just in front of it. -/
  faults : List Fault := []

/-- The words of the language. -/
def keywords : List String :=
  ["BEGIN", "END", "function", "if", "else", "while", "for", "do", "break", "continue", "next",
   "nextfile", "exit", "return", "delete", "in", "getline", "print", "printf"]

/-- The functions that always exist. -/
def builtins : List String :=
  ["length", "substr", "index", "split", "sub", "gsub", "match", "sprintf", "tolower", "toupper",
   "int", "sqrt", "exp", "log", "sin", "cos", "atan2", "rand", "srand", "system", "close",
   "fflush", "systime", "mktime", "strftime"]

/-- The signs, longer ones before their beginnings. -/
def signs : List String :=
  ["&&", "||", "++", "--", "+=", "-=", "*=", "/=", "%=", "^=", "==", "<=", ">=", "!=", ">>", "!~",
   "\x7b", "\x7d", "(", ")", "[", "]", ";", ",", "+", "-", "*", "/", "%", "^", "!", ">", "<", "|",
   "?", ":", "~", "$", "="]

/-- Whether a slash after a token means a division. -/
def Token.endsOperand : Token → Bool
  | .number .. | .text _ | .pattern _ | .name _ | .callName _ => true
  | .builtin s => s = "length"
  | .sign s => [")", "]", "$", "++", "--"].contains s
  | .keyword _ | .lineEnd | .ending | .broken _ => false

/-- The value of digits in a base, at most so many, and what comes after them. -/
def digitsUpTo (base fuel n : Nat) (s : List Char) : Nat × List Char :=
  match fuel, s with
  | fuel + 1, c :: rest =>
    match Text.Floating.digitValue? base c with
    | some digit => digitsUpTo base fuel (base * n + digit) rest
    | none => (n, s)
  | _, s => (n, s)

/-- A text with its escapes carried out. -/
def unescape (fuel : Nat) (s : List Char) : List Char :=
  match fuel, s with
  | fuel + 1, '\\' :: c :: rest =>
    match c with
    | 'n' => '\n' :: unescape fuel rest
    | 't' => '\t' :: unescape fuel rest
    | 'r' => '\r' :: unescape fuel rest
    | 'f' => '\x0c' :: unescape fuel rest
    | 'v' => '\x0b' :: unescape fuel rest
    | 'a' => '\x07' :: unescape fuel rest
    | 'b' => '\x08' :: unescape fuel rest
    | '\\' => '\\' :: unescape fuel rest
    | '"' => '"' :: unescape fuel rest
    | '\n' => unescape fuel rest
    | 'x' =>
      let (n, after) := digitsUpTo 16 2 0 rest
      if after.length = rest.length then '\\' :: 'x' :: unescape fuel rest
      else Char.ofNat n :: unescape fuel after
    | c =>
      if '0' ≤ c && c ≤ '7' then
        let (n, rest) := digitsUpTo 8 3 0 (c :: rest)
        Char.ofNat (n % 256) :: unescape fuel rest
      else '\\' :: c :: unescape fuel rest
  | fuel + 1, c :: rest => c :: unescape fuel rest
  | _, s => s

/-- What stands before the next character that is not escaped, and what comes after it. A line
feed ends it as well. -/
def upTo (ending : Char) : List Char → Option (List Char × List Char)
  | [] => none
  | '\n' :: _ => none
  | '\\' :: c :: rest => (upTo ending rest).map fun (s, tail) => ('\\' :: c :: s, tail)
  | c :: rest =>
    if c = ending then some ([], rest)
    else (upTo ending rest).map fun (s, tail) => (c :: s, tail)

/-- A pattern: a slash between brackets does not end it. -/
def patternUpTo (fuel : Nat) (inside : Bool) (s : List Char) : Option (List Char × List Char) :=
  let join (piece : List Char) (rest? : Option (List Char × List Char)) :
      Option (List Char × List Char) :=
    rest?.map fun (s, tail) => (piece ++ s, tail)
  match fuel, s with
  | _ + 1, '\n' :: _ => none
  | fuel + 1, '\\' :: '/' :: rest => join ['/'] (patternUpTo fuel inside rest)
  | fuel + 1, '\\' :: c :: rest => join ['\\', c] (patternUpTo fuel inside rest)
  | fuel + 1, '[' :: '^' :: ']' :: rest => join "[^]".toList (patternUpTo fuel true rest)
  | fuel + 1, '[' :: ']' :: rest => join "[]".toList (patternUpTo fuel true rest)
  | fuel + 1, c :: rest =>
    if c = '/' && !inside then some ([], rest)
    else join [c] (patternUpTo fuel (c = '[' || (inside && c ≠ ']')) rest)
  | _, _ => none

/-- How far a program has been read. -/
structure Scan where
  line : Nat := 1
  before : Option Token := none
  parens : Nat := 0
  braces : Nat := 0
  faults : List Fault := []

/-- The token that comes next, where the scan stands. -/
def Scan.place (scan : Scan) (token : Token) : Placed :=
  ⟨token, scan.line, scan.parens, scan.braces, scan.faults⟩

/-- The scan behind a token. -/
def Scan.behind (scan : Scan) (token : Token) : Scan :=
  let scan := { scan with before := some token, faults := [] }
  match token with
  | .sign "(" => { scan with parens := scan.parens + 1 }
  | .sign ")" => { scan with parens := scan.parens - 1 }
  | .sign "\x7b" => { scan with braces := scan.braces + 1 }
  | .sign "\x7d" => { scan with braces := scan.braces - 1 }
  | _ => scan

/-- What is wrong with a sign that closes what has not been opened; nothing more may follow it on
its line if it is a brace. -/
def Scan.surplus (scan : Scan) (sign : String) (rest : List Char) : List Fault :=
  let isLast := (rest.dropWhile fun c => c = ' ' || c = '\t').head?.all (· = '\n')
  if sign = ")" && scan.parens = 0 then [⟨scan.line, "extra ')'".toList, false⟩]
  else if sign = "\x7d" && scan.braces = 0 then
    ⟨scan.line, "extra '\x7d'".toList, false⟩ ::
      (if isLast then [⟨scan.line, "syntax error at or near end of line".toList, false⟩] else [])
  else []

/-- The complaint about a text that does not end on its line. -/
def runaway (what : String) (mark : Char) (s : List Char) : List Char :=
  ("runaway " ++ what ++ " ").toList
    ++ mark :: (s.takeWhile (· ≠ '\n')).take 10 ++ " ...".toList

/-- What is wrong with a number that no machine word is close to. -/
def extremes (line : Nat) (s : List Char) (x : Float) : List Fault :=
  let isNull := (s.takeWhile fun c => c ≠ 'e' && c ≠ 'E').all fun c => c = '0' || c = '.'
  let flow (word : String) : List Fault :=
    [⟨line, s ++ (" : decimal " ++ word).toList, false⟩]
  if x == 0 && !isNull then flow "underflow"
  else if x.isInf || (0 < x && x < smallest) then flow "overflow"
  else []
where
  /-- From here on numbers have all their digits. -/
  smallest : Float := Float.ofScientific 22250738585072014 true 324

/-- The tokens of a program; the last one is the ending, with a line end in front. -/
def tokensOf (fuel : Nat) (scan : Scan) (s : List Char) : List Placed :=
  match fuel with
  | 0 => []
  | fuel + 1 =>
    let line := scan.line
    let after (token : Token) (rest : List Char) : List Placed :=
      scan.place token :: tokensOf fuel (scan.behind token) rest
    let broken (fault : Fault) : List Placed := [scan.place (.broken fault)]
    match s with
    | [] =>
      let last := { scan.behind .lineEnd with line := line + 1 }
      [scan.place .lineEnd, last.place .ending]
    | '\\' :: '\n' :: rest => tokensOf fuel { scan with line := line + 1 } rest
    | '\n' :: rest =>
      scan.place .lineEnd :: tokensOf fuel { scan.behind .lineEnd with line := line + 1 } rest
    | '#' :: rest => tokensOf fuel scan (rest.dropWhile (· ≠ '\n'))
    | '"' :: rest =>
      match upTo '"' rest with
      | some (text, rest) => after (.text (unescape (text.length + 1) text)) rest
      | none => broken ⟨line, runaway "string constant" '"' rest, false⟩
    | c :: rest =>
      if c = ' ' || c = '\t' || c = '\r' then tokensOf fuel scan rest
      else if c.isDigit || (c = '.' && (rest.head?.map Char.isDigit).getD false) then
        match Text.Floating.read? s with
        | some (x, rest) =>
          let number := s.take (s.length - rest.length)
          let token := Token.number x number
          let scan := { scan with faults := scan.faults ++ extremes line number x }
          scan.place token :: tokensOf fuel (scan.behind token) rest
        | none => broken ⟨line, "syntax error".toList, false⟩
      else if c.isAlpha || c = '_' then
        let word := s.takeWhile fun c => c.isAlphanum || c = '_'
        let rest := s.drop word.length
        let text := String.ofList word
        if keywords.contains text then after (.keyword text) rest
        else if builtins.contains text then after (.builtin text) rest
        else if rest.head? = some '(' then after (.callName word) rest
        else after (.name word) rest
      else if c = '/' && !(scan.before.map Token.endsOperand).getD false then
        match patternUpTo (rest.length + 1) false rest with
        | some (pattern, rest) => after (.pattern pattern) rest
        | none => broken ⟨line, runaway "regular expression" '/' rest, false⟩
      else
        match signs.find? fun sign => sign.toList.isPrefixOf s with
        | some sign =>
          let rest := s.drop sign.length
          match scan.surplus sign rest with
          | [] => after (.sign sign) rest
          | faults => tokensOf fuel { scan with faults := scan.faults ++ faults } rest
        | none => broken ⟨line, "unexpected character '".toList ++ [c, '\''], true⟩

end CheckedBuild.Records
