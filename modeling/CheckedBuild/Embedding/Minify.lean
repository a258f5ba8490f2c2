import CheckedBuild.Text.Character
import CheckedBuild.Text.Pieces
import CheckedBuild.Text.Utf8

/-!
# Shrinking of helper scripts

Lines that are only a comment are dropped, and so is a docstring between two delimiter lines, the
delimiters included. A delimiter without a second one is an ordinary line, and so are the lines
after it.
-/

namespace CheckedBuild.Minify

open Text

/-- A line that opens or closes a docstring: four blanks and three quotes. -/
def delimiter : List Char := "    \"\"\"".toList

/-- Whether the line is only a comment. -/
def isComment (line : List Char) : Bool := (trimStart line).head? == some '#'

/-- The state of the pass: the lines kept so far, last first, and the lines since a delimiter
that is still open, last first. -/
structure Pass where
  kept : List (List Char)
  opened : Option (List (List Char))
deriving DecidableEq, Repr

/-- Takes one line. -/
def Pass.take (pass : Pass) (line : List Char) : Pass :=
  match pass.opened with
  | none =>
    if line = delimiter then { pass with opened := some [line] }
    else if isComment line then pass
    else { pass with kept := line :: pass.kept }
  | some since =>
    if line = delimiter then { pass with opened := none }
    else { pass with opened := some (line :: since) }

/-- The lines kept in the end, in order. -/
def Pass.finish (pass : Pass) : List (List Char) :=
  (((pass.opened.getD []).filter fun line => !isComment line) ++ pass.kept).reverse

/-- The lines that are kept. -/
def keep (ls : List (List Char)) : List (List Char) :=
  (ls.foldl Pass.take ⟨[], none⟩).finish

/-- The text with the kept lines only, one line feed after each. -/
def text (source : List Char) : List Char :=
  joinWith ['\n'] (keep (lines source)) ++ ['\n']

/-- The script with the kept lines only. -/
def script (source : Bytes) : Bytes := Utf8.encode (text (Utf8.decode source))

end CheckedBuild.Minify
