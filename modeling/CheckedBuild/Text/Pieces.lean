/-!
# Pieces of a text and what occurs in it

A line feed ends a line and takes one carriage return before it along. A last line without a
line feed keeps its carriage return, and an empty one is no line. Occurrences of a text in another
are taken from the left and do not overlap.
-/

namespace CheckedBuild.Text

/-- The pieces between the separators, one more than there are separators. -/
def pieces (separator : Char) (s : List Char) : List (List Char) :=
  s.foldr (fun c ps => if c = separator then [] :: ps else (c :: ps.headD []) :: ps.tail) [[]]

/-- The line without the carriage return at its end. -/
def dropReturn (line : List Char) : List Char :=
  if line.getLast? = some '\r' then line.dropLast else line

/-- The lines of a text. -/
def lines (s : List Char) : List (List Char) :=
  let ps := pieces '\n' s
  ps.dropLast.map dropReturn ++ ps.getLast?.toList.filter (· ≠ [])

/-- The texts in order with `separator` between neighbours. -/
def joinWith (separator : List Char) (ps : List (List Char)) : List Char :=
  (ps.intersperse separator).flatten

/-- Whether `pattern` occurs in the text. -/
def occursIn (pattern : List Char) : List Char → Bool
  | [] => pattern.isEmpty
  | c :: rest => pattern.isPrefixOf (c :: rest) || occursIn pattern rest

theorem occursIn_iff {pattern s : List Char} : occursIn pattern s = true ↔ pattern <:+: s := by
  induction s with
  | nil => rw [occursIn, List.isEmpty_iff, List.infix_nil]
  | cons c rest ih =>
    rw [occursIn, Bool.or_eq_true, ih, List.isPrefixOf_iff_prefix, List.infix_cons_iff]

/-- What follows `pattern` at the start of the text. -/
def after? (pattern s : List Char) : Option (List Char) :=
  if pattern.isPrefixOf s then some (s.drop pattern.length) else none

theorem after?_eq_some_iff {pattern s rest : List Char} :
    after? pattern s = some rest ↔ s = pattern ++ rest := by
  unfold after?
  by_cases begins : pattern.isPrefixOf s = true
  · obtain ⟨more, rfl⟩ := List.isPrefixOf_iff_prefix.mp begins
    simp [begins, eq_comm]
  · rw [if_neg begins]
    constructor
    · intro absent
      cases absent
    · rintro rfl
      exact absurd (List.isPrefixOf_iff_prefix.mpr (List.prefix_append _ _)) begins

/-- The text with every occurrence of the non-empty `pattern` replaced. -/
def replaceAll (pattern replacement : List Char) : List Char → List Char
  | [] => []
  | c :: rest =>
    if pattern.isPrefixOf (c :: rest) then
      replacement ++ replaceAll pattern replacement (rest.drop (pattern.length - 1))
    else
      c :: replaceAll pattern replacement rest
termination_by s => s.length
decreasing_by
  all_goals simp only [List.length_cons, List.length_drop]; omega

end CheckedBuild.Text
